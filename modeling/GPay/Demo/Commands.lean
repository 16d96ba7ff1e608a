import GPay.Demo
import GPay.Gateway.Decimals
import GPay.Gateway.KeyText
import GPay.Quarantine.Transactions
import GPay.Reading

/-!
# The command line tool

Every command reads its options, its key file and the texts of keys, derives the addresses
of the vault and of the deposit, and submits one instruction in a transaction that its key
signs and pays for. It prints one object when the transaction is confirmed.

The transaction may be executed on chain although the tool fails before it hears of it.
A command that fails for any other reason has changed nothing but the balance of its key,
from which the runtime takes the fee. That is a step of its own here, before the command.
-/

namespace GPay.Demo

open Solana Gateway Text Quarantine Runs
open Digits (Bytes)
open Stealth (Primitives StealthError SpendPublicKey ViewPublicKey)
open Indexing
open Reading (Listing)

/-- What one run of the tool meets: a failure on the way, a failure after its transaction
was handed in and executed, or the confirmation of the chain. -/
inductive Passage where
  | lost (message : String)
  | unheard (clock : Clock) (message : String)
  | reached (clock : Clock) (signature : String)

/-- The options of `init-vault`: the key file of the authority, the oracles in one text,
separated by commas, and the threshold. -/
structure InitVaultArgs where
  authorityKeypair : String
  oracles : String
  threshold : String

/-- The options of `deposit-sol`: the recipient is named by its public keys and a nonce. -/
structure DepositSolArgs where
  depositorKeypair : String
  vaultAuthority : String
  spendPubHex : String
  viewPubHex : String
  nonce : String := "0"
  amountLamports : String
  refundAddr : String
  releaseAuthority : String
  expireSeconds : String := "3600"

/-- The options of `deposit-sol-direct`: the stealth address is given as the gateway issued
it. -/
structure DepositSolDirectArgs where
  depositorKeypair : String
  vaultAuthority : String
  stealthPubkeyHex : String
  ephemeralRHex : String
  viewTag : String
  amountLamports : String
  refundAddr : String
  releaseAuthority : String
  expireSeconds : String := "3600"

/-- The options of `release-sol`: the key file of the release authority, what the address of the
deposit is derived from, and the account to pay. -/
structure ReleaseSolArgs where
  releaseAuthorityKeypair : String
  vaultAuthority : String
  stealthPubkey : String
  ephemeralRHex : String
  target : String

/-- The options of `refund-sol`: the key file of whoever calls, what the address of the deposit
is derived from, and the account to pay. -/
structure RefundSolArgs where
  callerKeypair : String
  vaultAuthority : String
  stealthPubkey : String
  ephemeralRHex : String
  refundTarget : String

/-- The commands with their options, which are texts, as they stand on the command line. Reading
them is part of the command. -/
inductive Cmd where
  | initVault (a : InitVaultArgs)
  | depositSol (a : DepositSolArgs)
  | depositSolDirect (a : DepositSolDirectArgs)
  | attest (a : AttestArgs)
  | releaseSol (a : ReleaseSolArgs)
  | refundSol (a : RefundSolArgs)

/-- What the commands are built with, besides the readers and texts of one that attests: the
bytes of keys, the stealth scheme, the texts of its errors, of options that do not parse and
of accounts that would lose their rent, and how a caller is told of a command that failed. -/
structure Cli (Key Point : Type) extends Tool Key where
  keys : Key ≃ Bytes32
  crypto : Primitives Point
  stealthText : StealthError → String
  usageText : (option value : String) → String
  rentText : (accounts : List Key) → String
  failedText : Cmd → (stderr : String) → String

/-- The text of a refused transaction. -/
def Cli.refusedText {Key Point : Type} (cli : Cli Key Point) : Refusal Key → String
  | .program error => cli.refusalText error
  | .rent accounts => cli.rentText accounts

/-- Hexadecimal digits are read as the bytes they were written for, and keys are written in
base 58 and read from that text alone. -/
structure Cli.Lawful {Key Point : Type} (cli : Cli Key Point) : Prop where
  hex : cli.toTool.ReadsHex
  reads : ∀ text key, cli.pubkeyFromStr text = some key ↔ text = base58Text (cli.keys key).val
  writes : ∀ key, cli.pubkeyText key = base58Text (cli.keys key).val

/-- `from_str` of an unsigned type: digits, possibly behind a plus sign, of a value that is
not too large. -/
def parseUnsigned (largest : Nat) (s : String) : Option Nat :=
  let digits := match s.toList with
    | '+' :: digits => digits
    | digits => digits
  (naturalIn 10 digits).filter (· ≤ largest)

/-- `i64::from_str`. -/
def parseI64 (s : String) : Option Int :=
  let value := match s.toList with
    | '-' :: digits => (naturalIn 10 digits).map (fun value => -(value : Int))
    | '+' :: digits => (naturalIn 10 digits).map Int.ofNat
    | digits => (naturalIn 10 digits).map Int.ofNat
  value.filter (fun value => i64Min ≤ value ∧ value ≤ i64Max)

/-- `char::is_whitespace`. -/
def isWhitespace (char : Char) : Bool :=
  char.toNat ∈ [0x9, 0xa, 0xb, 0xc, 0xd, 0x20, 0x85, 0xa0, 0x1680, 0x2028, 0x2029, 0x202f, 0x205f,
      0x3000] ∨
    (0x2000 ≤ char.toNat ∧ char.toNat ≤ 0x200a)

/-- `str::trim`. -/
def trimmed (s : String) : String :=
  String.ofList ((s.toList.dropWhile isWhitespace).reverse.dropWhile isWhitespace).reverse

/-- What a command sends: one instruction, the key that signs and pays for its transaction, and
what is printed once the transaction has a signature. -/
structure Prepared (Key : Type) where
  payer : Key
  instruction : Instruction Key
  printed : String → List (String × Json)

/-- The transaction of one instruction, signed by its payer alone. It asks to write what the
instruction writes, and the payer's account for the fee. -/
def Prepared.context {Key : Type} (prepared : Prepared Key) (clock : Clock) : Context Key :=
  ⟨clock, [prepared.payer], prepared.payer :: prepared.instruction.writables⟩

section Prepare

variable {Key Point : Type} (cli : Cli Key Point) (rt : Runtime Key)

/-- An option that is not a text. -/
def Cli.option {α : Type} (name : String) (parse : String → Option α) (value : String) :
    Except String α :=
  match parse value with
  | some parsed => .ok parsed
  | none => .error (cli.usageText name value)

/-- A key file that is read, or the failure with whose it is. -/
def Cli.keypair (who path : String) : Except String Key :=
  (cli.readKeypairFile path).mapError (s!"read {who} keypair: " ++ ·)

/-- `init-vault`. The oracles are keys between commas, with space around them. The program checks
the threshold and their number. -/
def initVault (a : InitVaultArgs) : Except String (Prepared Key) := do
  let threshold ← cli.option "--threshold" (parseUnsigned 255) a.threshold
  let authority ← cli.keypair "authority" a.authorityKeypair
  let oracleSet ← (a.oracles.splitOn ",").mapM (fun s => parsePubkey cli.toTool (trimmed s))
  let vault ← pda rt (.vault authority)
  return {
    payer := authority
    instruction := .initializeVault ⟨authority, vault⟩ oracleSet threshold
    printed := fun sig =>
      [("vault", .string (cli.pubkeyText vault)), ("authority", .string (cli.pubkeyText authority)),
        ("signature", .string sig)] }

/-- Both deposit commands, from the arguments of the instruction on. -/
def deposited (depositor vault deposit : Key) (args : DepositArgs Key)
    (printed : String → List (String × Json)) : Prepared Key where
  payer := depositor
  instruction := .deposit ⟨depositor, vault, deposit⟩ args
  printed

/-- `deposit-sol`. The stealth address is derived here, from the recipient's public keys and the
nonce; `rng` is what `OsRng` fills the seed with. -/
def depositSol [AddCommGroup Point] (rng : Bytes 64) (a : DepositSolArgs) :
    Except String (Prepared Key) := do
  let nonce ← cli.option "--nonce" (parseUnsigned u64Max) a.nonce
  let amount ← cli.option "--amount-lamports" (parseUnsigned u64Max) a.amountLamports
  let expireSeconds ← cli.option "--expire-seconds" parseI64 a.expireSeconds
  let depositor ← cli.keypair "depositor" a.depositorKeypair
  let vault ← pda rt (.vault (← parsePubkey cli.toTool a.vaultAuthority))
  let refundAddr ← parsePubkey cli.toTool a.refundAddr
  let releaseAuthority ← parsePubkey cli.toTool a.releaseAuthority
  let spendBytes ← parseHex32 cli.toTool a.spendPubHex
  let viewBytes ← parseHex32 cli.toTool a.viewPubHex
  let spendPub ← (SpendPublicKey.fromBytes cli.crypto spendBytes).mapError
    (fun e => s!"invalid spend_pub: {cli.stealthText e}")
  let viewPub ← (ViewPublicKey.fromBytes cli.crypto viewBytes).mapError
    (fun e => s!"invalid view_pub: {cli.stealthText e}")
  let stealth := Stealth.deriveStealthAddressDeterministic cli.crypto spendPub viewPub rng
    (UInt64.ofNat nonce)
  let stealthPk := cli.keys.symm stealth.stealthPubkey
  let deposit ← pda rt (.deposit vault stealthPk stealth.ephemeralR)
  return deposited depositor vault deposit
    ⟨stealthPk, stealth.ephemeralR, stealth.viewTag, amount, refundAddr, releaseAuthority,
      expireSeconds⟩
    (fun sig =>
      [("deposit_pda", .string (cli.pubkeyText deposit)), ("vault", .string (cli.pubkeyText vault)),
        ("stealth_pubkey", .string (cli.pubkeyText stealthPk)),
        ("stealth_pubkey_hex", .string (bytesToHex stealth.stealthPubkey.val)),
        ("ephemeral_r_hex", .string (bytesToHex stealth.ephemeralR.val)),
        ("view_tag", .integer stealth.viewTag.toNat), ("signature", .string sig)])

/-- `deposit-sol-direct`. The address and the ephemeral point are taken as they are given;
nothing is derived. -/
def depositSolDirect (a : DepositSolDirectArgs) : Except String (Prepared Key) := do
  let viewTag ← cli.option "--view-tag" (parseUnsigned 255) a.viewTag
  let amount ← cli.option "--amount-lamports" (parseUnsigned u64Max) a.amountLamports
  let expireSeconds ← cli.option "--expire-seconds" parseI64 a.expireSeconds
  let depositor ← cli.keypair "depositor" a.depositorKeypair
  let vault ← pda rt (.vault (← parsePubkey cli.toTool a.vaultAuthority))
  let refundAddr ← parsePubkey cli.toTool a.refundAddr
  let releaseAuthority ← parsePubkey cli.toTool a.releaseAuthority
  let stealthBytes ← parseHex32 cli.toTool a.stealthPubkeyHex
  let ephemeralR ← parseHex32 cli.toTool a.ephemeralRHex
  let stealthPk := cli.keys.symm stealthBytes
  let deposit ← pda rt (.deposit vault stealthPk ephemeralR)
  return deposited depositor vault deposit
    ⟨stealthPk, ephemeralR, UInt8.ofNat viewTag, amount, refundAddr, releaseAuthority,
      expireSeconds⟩
    (fun sig =>
      [("deposit_pda", .string (cli.pubkeyText deposit)), ("vault", .string (cli.pubkeyText vault)),
        ("stealth_pubkey", .string (cli.pubkeyText stealthPk)),
        ("stealth_pubkey_hex", .string a.stealthPubkeyHex),
        ("ephemeral_r_hex", .string a.ephemeralRHex), ("view_tag", .integer viewTag),
        ("signature", .string sig)])

/-- `attest`, as it is prepared. The evidence is zero unless it is given. -/
def cliAttestation (a : AttestArgs) : Except String (Prepared Key) := do
  let (accounts, verdict, evidence) ← attestInstruction cli.toTool rt a
  return {
    payer := accounts.oracle
    instruction := .attest accounts verdict evidence
    printed := fun sig =>
      [("deposit", .string (cli.pubkeyText accounts.deposit)),
        ("oracle", .string (cli.pubkeyText accounts.oracle)), ("verdict", .string a.verdict),
        ("signature", .string sig)] }

/-- Both payout commands: who signs, the instruction, and the name that the target is printed
under. -/
def payoutSol (who name : String) (call : (signer vault deposit target : Key) → Instruction Key)
    (keypair vaultAuthority stealthPubkey ephemeralRHex target : String) :
    Except String (Prepared Key) := do
  let signer ← cli.keypair who keypair
  let vault ← pda rt (.vault (← parsePubkey cli.toTool vaultAuthority))
  let stealth ← parsePubkey cli.toTool stealthPubkey
  let ephemeralR ← parseHex32 cli.toTool ephemeralRHex
  let deposit ← pda rt (.deposit vault stealth ephemeralR)
  let target ← parsePubkey cli.toTool target
  return {
    payer := signer
    instruction := call signer vault deposit target
    printed := fun sig =>
      [("deposit", .string (cli.pubkeyText deposit)), (name, .string (cli.pubkeyText target)),
        ("signature", .string sig)] }

/-- `release-sol`. The key that signs is checked against the release authority on chain only. -/
def releaseSol (a : ReleaseSolArgs) : Except String (Prepared Key) :=
  payoutSol cli rt "release authority" "target"
    (fun release vault deposit target => .release ⟨release, vault, deposit, target⟩)
    a.releaseAuthorityKeypair a.vaultAuthority a.stealthPubkey a.ephemeralRHex a.target

/-- `refund-sol`. Any key may sign, but the target must be the deposit's refund address. -/
def refundSol (a : RefundSolArgs) : Except String (Prepared Key) :=
  payoutSol cli rt "caller" "refund_target"
    (fun caller vault deposit target => .refund ⟨caller, vault, deposit, target⟩)
    a.callerKeypair a.vaultAuthority a.stealthPubkey a.ephemeralRHex a.refundTarget

/-- An option that was read. -/
theorem option_ok_iff {α : Type} (name : String) (parse : String → Option α) (value : String)
    (parsed : α) : cli.option name parse value = .ok parsed ↔ parse value = some parsed := by
  unfold Cli.option
  split
  · rename_i read
    rw [read]
    simp
  · rename_i unread
    rw [unread]
    simp

/-- What is read as an unsigned number is a value of the type. -/
theorem parse_unsigned_le {largest value : Nat} {text : String}
    (parsed : parseUnsigned largest text = some value) : value ≤ largest := by
  unfold parseUnsigned at parsed
  simpa using (Option.filter_eq_some_iff.mp parsed).2

end Prepare

section Submit

variable {Key Point : Type} [DecidableEq Key] [Inhabited Key] (cli : Cli Key Point)
  (rt : Runtime Key)

/-- Submit what is prepared: the members that are printed, or the failure, and the world that
is left. -/
def submit (prepared : Except String (Prepared Key)) (passage : Passage) (w : World Key) :
    Except String (List (String × Json)) × World Key :=
  match prepared, passage with
  | .error message, _ => (.error message, w)
  | .ok _, .lost message => (.error message, w)
  | .ok prepared, .unheard clock message =>
      match transact rt (prepared.context clock) prepared.instruction w with
      | .error _ => (.error message, w)
      | .ok w' => (.error message, w')
  | .ok prepared, .reached clock signature =>
      match transact rt (prepared.context clock) prepared.instruction w with
      | .error refusal => (.error (cli.refusedText refusal), w)
      | .ok w' => (.ok (prepared.printed signature), w')

/-- A run that is not cut off behind the execution of its transaction. -/
def Attempt.passage : Attempt → Passage
  | .lost message => .lost message
  | .reached clock signature => .reached clock signature

end Submit

section Outcome

variable {Key Point : Type} [DecidableEq Key] [Inhabited Key] {cli : Cli Key Point}
  {rt : Runtime Key} {w w' : World Key}

/-- The command prints its object only if its transaction gets through; whatever else happens,
it gets through once or nothing is changed. -/
inductive Submitted (rt : Runtime Key) (w : World Key) :
    Except String (Prepared Key) → Except String (List (String × Json)) × World Key → Prop
  | unchanged {prepared : Except String (Prepared Key)} (message : String) :
      Submitted rt w prepared (.error message, w)
  | executed {prepared : Prepared Key} {clock : Clock} {w' : World Key}
      {result : Except String (List (String × Json))}
      (made : transact rt (prepared.context clock) prepared.instruction w = .ok w')
      (told : (∃ signature, result = .ok (prepared.printed signature)) ∨
        ∃ message, result = .error message) :
      Submitted rt w (.ok prepared) (result, w')

/-- Every submission leaves the chain unchanged, or its transaction was executed: there is no
third outcome, whatever the run meets. -/
theorem submitted (prepared : Except String (Prepared Key)) (passage : Passage) (w : World Key) :
    Submitted rt w prepared (submit cli rt prepared passage w) := by
  unfold submit
  split
  · exact .unchanged _
  · exact .unchanged _
  · split
    · exact .unchanged _
    · rename_i made
      exact .executed made (.inr ⟨_, rfl⟩)
  · split
    · exact .unchanged _
    · rename_i made
      exact .executed made (.inl ⟨_, rfl⟩)

/-- A vote on a deposit of lamports that can be written is submitted the way the router's own
model of it has it, which knows the checks of the program only. -/
theorem submit_attestation (lawful : Lawful rt) (checked : RentChecked rt Content.space)
    {events : List (Event Key)} (reached : Reached rt events w) (a : AttestArgs)
    (attempt : Attempt) {deposit : Deposit Key}
    (votes : ∀ accounts verdict evidence,
      attestInstruction cli.toTool rt a = .ok (accounts, verdict, evidence) →
        depositAt w accounts.deposit = some deposit ∧ rt.reserved accounts.deposit = false)
    (recorded : deposit.mint = default) :
    submit cli rt (cliAttestation cli rt a) attempt.passage w =
      cliAttest cli.toTool rt a attempt w := by
  unfold cliAttest cliAttestation
  cases read : attestInstruction cli.toTool rt a with
  | error message => rfl
  | ok call =>
    obtain ⟨accounts, verdict, evidence⟩ := call
    cases attempt with
    | lost message => rfl
    | reached clock signature =>
      obtain ⟨found, standing⟩ := votes accounts verdict evidence read
      have made := vote_transacted lawful checked reached
        ⟨clock, [accounts.oracle], [accounts.oracle, accounts.deposit]⟩ verdict evidence found
        recorded standing
      show (match transact rt ⟨clock, [accounts.oracle], [accounts.oracle, accounts.deposit]⟩
          (.attest accounts verdict evidence) w with
        | .error refusal => _
        | .ok w' => _) = _
      rw [made]
      cases executed : exec rt ⟨clock, [accounts.oracle], [accounts.oracle, accounts.deposit]⟩
          (.attest accounts verdict evidence) w with
      | error error =>
        simp only [executed]
        rfl
      | ok w' =>
        simp only [executed]
        rfl

variable [AddCommGroup Point]

/-- The runtime has taken a fee from the account, of any amount that was there. It does so before
the transaction, and whatever becomes of it. -/
def Charged (payer : Key) (w charged : World Key) : Prop :=
  ∃ fee ≤ w.lamports payer, charged = w.setLamports payer (w.lamports payer - fee)

omit [Inhabited Key] in
/-- It spares everybody else. -/
theorem Charged.spared {payer : Key} {charged : World Key} (taken : Charged payer w charged) :
    Spared [payer] w charged := by
  obtain ⟨fee, -, rfl⟩ := taken
  intro key outside
  have other : key ≠ payer := by simpa using outside
  exact ⟨World.data_set_lamports .., by simp [other]⟩

end Outcome

section Found

variable {Key Point : Type} [AddCommGroup Point] {cli : Cli Key Point}

/-- The deposit is addressed to the slice: its keys and its tag were derived for the keys and
the nonce of the slice. -/
def AddressedTo (cli : Cli Key Point) (slice : SliceCredentials Point) (rng : Bytes 64)
    (stealthPubkey : Key) (ephemeralR : Bytes32) (viewTag : UInt8) : Prop :=
  Stealth.deriveStealthAddressDeterministic cli.crypto slice.spendPub
    (slice.viewKey.public cli.crypto) rng slice.nonce =
      ⟨cli.keys stealthPubkey, ephemeralR, viewTag⟩

/-- A deposit for the keys and the nonce of a slice is addressed to it, pays the amount that was
asked for, and tells where it is. -/
theorem deposit_sol_ready {rt : Runtime Key} (hex : cli.toTool.ReadsHex)
    (crypto : cli.crypto.Lawful) {rng : Bytes 64} {a : DepositSolArgs}
    {slice : SliceCredentials Point}
    (spend : a.spendPubHex = bytesToHex (slice.spendPub.toBytes cli.crypto).val)
    (view : a.viewPubHex = bytesToHex ((slice.viewKey.public cli.crypto).toBytes cli.crypto).val)
    (nonce : parseUnsigned u64Max a.nonce = some slice.nonce.toNat) {prepared : Prepared Key}
    (ready : depositSol cli rt rng a = .ok prepared) :
    ∃ depositor vault deposit args printed,
      prepared = deposited depositor vault deposit args printed ∧
      parseUnsigned u64Max a.amountLamports = some args.amount ∧
      AddressedTo cli slice rng args.stealthPubkey args.ephemeralR args.viewTag ∧
      ∀ sig, Json.member (printed sig) "deposit_pda" = some (.string (cli.pubkeyText deposit)) := by
  simp only [depositSol, bind_ok_iff, pure_ok_iff, option_ok_iff] at ready
  obtain ⟨_, option, amount, lamports, expireSeconds, -, depositor, -, _, -, vault, -, refundAddr,
    -, releaseAuthority, -, spendBytes, spendRead, viewBytes, viewRead, spendPub, spendPoint,
    viewPub, viewPoint, deposit, -, rfl⟩ := ready
  obtain rfl := Option.some.inj (nonce.symm.trans option)
  rw [spend, parse_hex32_written hex] at spendRead
  rw [view, parse_hex32_written hex] at viewRead
  obtain rfl := Except.ok.inj spendRead
  obtain rfl := Except.ok.inj viewRead
  rw [SpendPublicKey.from_to_bytes crypto] at spendPoint
  rw [ViewPublicKey.from_to_bytes crypto] at viewPoint
  obtain rfl := Except.ok.inj spendPoint
  obtain rfl := Except.ok.inj viewPoint
  refine ⟨_, _, _, _, _, rfl, lamports, ?_, fun sig => rfl⟩
  simp [AddressedTo]

/-- Scanning for the slice finds a deposit that is addressed to it, and the recipient's scalar
spends the deposit's key. -/
theorem addressed_found (crypto : cli.crypto.Lawful) {slice : SliceCredentials Point}
    {rng : Bytes 64} {deposit : Deposit Key}
    (addressed : AddressedTo cli slice rng deposit.stealthPubkey deposit.ephemeralR
      deposit.viewTag) :
    sliceMatches cli.crypto (format cli.keys) deposit slice = true ∧
      ∀ spend : Stealth.SpendKey, slice.spendPub = spend.public cli.crypto →
        ∃ scalar, Stealth.reconstructSpendScalar cli.crypto spend slice.viewKey deposit.ephemeralR
            slice.nonce = .ok scalar ∧
          cli.crypto.compress (Stealth.mulBase cli.crypto scalar) =
            cli.keys deposit.stealthPubkey := by
  have scanned := Stealth.scan_issued crypto slice.spendPub slice.viewKey rng slice.nonce addressed
  constructor
  · simp only [sliceMatches, scanSlice, format, scanned]
  · intro spend own
    rw [own, Stealth.scan_eq] at scanned
    rw [Stealth.reconstruct_eq]
    cases shared : Stealth.sharedSecret cli.crypto slice.viewKey deposit.ephemeralR with
    | error failed =>
      rw [shared] at scanned
      cases scanned
    | ok secret =>
      rw [shared] at scanned
      have compared := Except.ok.inj scanned
      refine ⟨_, rfl, ?_⟩
      rw [← Stealth.derive_for_recipient_eq crypto]
      exact Stealth.compare_matched (congrArg Stealth.ScanResult.matched compared)

variable [DecidableEq Key] [Inhabited Key] {rt : Runtime Key} {w made later : World Key}

/-- A deposit that the tool has made for the keys and the nonce of a slice is reported by every
later pass that ends well, whatever has happened on chain by then, with the amount that was asked
for, and its stealth key is the one that the recipient's scalar spends.

Proof: the command derives the address as the scheme does, so that the slice matches what it
writes. The deposit stands from then on with its terms, and a pass that ends well reports what
the listing holds. -/
theorem deposited_found (lawful : Solana.Lawful rt) (faithful : cli.Lawful)
    (crypto : cli.crypto.Lawful) {events since : List (Event Key)} (reached : Reached rt events w)
    {rng : Bytes 64} {a : DepositSolArgs} {slice : SliceCredentials Point}
    (spend : a.spendPubHex = bytesToHex (slice.spendPub.toBytes cli.crypto).val)
    (view : a.viewPubHex = bytesToHex ((slice.viewKey.public cli.crypto).toBytes cli.crypto).val)
    (nonce : parseUnsigned u64Max a.nonce = some slice.nonce.toNat) {prepared : Prepared Key}
    (ready : depositSol cli rt rng a = .ok prepared) {clock : Clock}
    (executed : transact rt (prepared.context clock) prepared.instruction w = .ok made)
    (run : Run (Step rt) made since later) (typed : ∀ event ∈ events ++ since, event.Typed)
    {indexer : Indexer Point} (registered : slice ∈ indexer.slices)
    {accounts : List (Key × List UInt8)} (listing : Listing cli.keys later accounts)
    {found : List (PaymentMatch Key)}
    (ended : scanProgramAccounts cli.crypto (format cli.keys) (.ok accounts) indexer = .ok found) :
    ∃ key deposit, (∀ sig, Json.member (prepared.printed sig) "deposit_pda" =
        some (.string (cli.pubkeyText key))) ∧
      depositAt later key = some deposit ∧
      parseUnsigned u64Max a.amountLamports = some deposit.amount ∧
      (∃ m ∈ found, m.depositPubkey = key ∧ m.amount = deposit.amount ∧
        ((∀ other ∈ indexer.slices, sliceMatches cli.crypto (format cli.keys) deposit other = true →
          other.sliceId = slice.sliceId) → m.sliceId = slice.sliceId)) ∧
      ∀ spend : Stealth.SpendKey, slice.spendPub = spend.public cli.crypto →
        ∃ scalar, Stealth.reconstructSpendScalar cli.crypto spend slice.viewKey deposit.ephemeralR
            slice.nonce = .ok scalar ∧
          cli.crypto.compress (Stealth.mulBase cli.crypto scalar) =
            cli.keys deposit.stealthPubkey := by
  obtain ⟨depositor, vault, key, args, printed, rfl, amount, addressed, told⟩ :=
    deposit_sol_ready faithful.hex crypto spend view nonce ready
  have called := (transact_ok_iff.mp executed).1
  obtain ⟨house, record, spec⟩ := opened_of_exec lawful called rfl
  obtain ⟨-, -, -, filled⟩ := (new_deposit_ok_iff ..).mp spec.accepted
  have placed : depositAt made key = some record := deposit_at_iff.mpr spec.saved
  have reached_made := reached.append (.single (transact_step executed).1)
  obtain ⟨deposit, standing⟩ := stands_run lawful reached_made placed (by rw [filled]) run
  have same : AddressedTo cli slice rng deposit.stealthPubkey deposit.ephemeralR
      deposit.viewTag := by
    rw [standing.terms, filled]
    exact addressed
  have paid : parseUnsigned u64Max a.amountLamports = some deposit.amount := by
    rw [amount, standing.terms, filled]
  obtain ⟨matched, spendable⟩ := addressed_found crypto same
  have storage : Storage later := by
    refine (reached_made.append run).storage lawful ?_
    intro event listed
    simp only [List.mem_append, List.mem_singleton] at listed
    rcases listed with (listed | rfl) | listed
    · exact typed event (List.mem_append_left _ listed)
    · rintro opening ⟨⟩
      exact parse_unsigned_le amount
    · exact typed event (List.mem_append_right _ listed)
  obtain ⟨first, located⟩ : ∃ first, indexer.slices.find?
      (sliceMatches cli.crypto (format cli.keys) deposit) = some first :=
    Option.isSome_iff_exists.mp (List.find?_isSome.mpr ⟨slice, registered, matched⟩)
  have reported : Reading.Reportable cli.crypto cli.keys indexer later
      (paymentMatch first.sliceId key deposit) := ⟨deposit, first, standing.found, located, rfl⟩
  refine ⟨key, deposit, told, standing.found, paid, ⟨paymentMatch first.sliceId key deposit, ?_,
    rfl, rfl, ?_⟩, spendable⟩
  · exact (Reading.pass_reported storage (List.ne_nil_of_mem registered) listing ended _).mpr
      reported
  · intro own
    exact own first (List.mem_of_find?_eq_some located) (List.find?_some located)

end Found

namespace Sample

open Quarantine.Plain Reading.Sample Stealth.Sample
open Indexing.Sample (indexer)

/-- Three key files, and the texts of keys and bytes. -/
def cli : Cli Bytes32 Stealth.Scalar where
  readKeypairFile path :=
    if path = "depositor.json" then .ok (wallet 1)
    else if path = "o1.json" then .ok (wallet 2)
    else if path = "o2.json" then .ok (wallet 3)
    else .error "No such file or directory (os error 2)"
  pubkeyFromStr text :=
    match base58Decode text with
    | .ok bytes =>
        if sized : bytes.length = 32 then
          if base58Text bytes = text then some ⟨bytes, sized⟩ else none
        else none
    | .error _ => none
  hexDecode text := some (decodeHex text.toList)
  pubkeyText key := base58Text key.val
  refusalText _ := "custom program error"
  failureText stderr := "Command failed: gpay-cli attest\n" ++ stderr
  keys := Equiv.refl Bytes32
  crypto := primitives
  stealthText
    | .invalidScalar => "invalid scalar"
    | .invalidPoint => "invalid point"
  usageText option value := s!"error: invalid value '{value}' for '{option}'"
  rentText _ := "Transaction results in an account with insufficient funds for rent"
  failedText _ stderr := "Command failed: gpay-cli\n" ++ stderr

/-- Its readers and writers are those of base 58 and of hexadecimal digits. -/
theorem cli_lawful : cli.Lawful where
  hex bytes := Demo.Local.tool_reads bytes
  reads := by
    intro text key
    show (match base58Decode text with
      | .ok bytes =>
          if sized : bytes.length = 32 then
            if base58Text bytes = text then some (⟨bytes, sized⟩ : Bytes32) else none
          else none
      | .error _ => none) = some key ↔ text = base58Text key.val
    constructor
    · intro read
      split at read
      · split at read
        · split at read
          · rename_i written
            rw [← written, ← Option.some.inj read]
          · cases read
        · cases read
      · cases read
    · rintro rfl
      rw [base58Text, base58_decode_encode]
      simp [key.property, base58Text]
  writes _ := rfl

/-- The sample's keys and address, with everything else as in its payment. -/
def depositArgs : DepositSolArgs where
  depositorKeypair := "depositor.json"
  vaultAuthority := base58Text (wallet 1).val
  spendPubHex := bytesToHex ((spendKey.public primitives).toBytes primitives).val
  viewPubHex := bytesToHex ((viewKey.public primitives).toBytes primitives).val
  amountLamports := "1000000"
  refundAddr := base58Text (wallet 6).val
  releaseAuthority := base58Text (wallet 5).val

/-- What the command prints once its transaction is confirmed under the signature. -/
def printed (sig : String) : List (String × Json) :=
  [("deposit_pda", .string (base58Text (wallet 262).val)),
    ("vault", .string (base58Text (wallet 100).val)),
    ("stealth_pubkey", .string (base58Text (wallet 6).val)),
    ("stealth_pubkey_hex", .string (bytesToHex issued.stealthPubkey.val)),
    ("ephemeral_r_hex", .string (bytesToHex issued.ephemeralR.val)),
    ("view_tag", .integer issued.viewTag.toNat), ("signature", .string sig)]

/-- Which deposit that is. -/
def prepared : Prepared Bytes32 :=
  deposited (wallet 1) (wallet 100) (wallet 262)
    ⟨wallet 6, issued.ephemeralR, issued.viewTag, funds, wallet 6, wallet 5, 3600⟩ printed

/-- The options are read and the addresses found, so that the deposit is prepared. -/
theorem deposit_ready : depositSol cli (runtime derive) seed depositArgs = .ok prepared := by
  have text : ∀ key : Bytes32, parsePubkey cli.toTool (base58Text key.val) = .ok key :=
    fun key => parse_pubkey_some ((cli_lawful.reads _ key).mpr rfl)
  have written := @parse_hex32_written _ cli.toTool cli_lawful.hex
  have vault : pda (runtime derive) (.vault (wallet 1)) = .ok (wallet 100) :=
    pda_found (show _ = some (wallet 100, 255) by decide +kernel)
  have deposit : pda (runtime derive) (.deposit (wallet 100) (wallet 6) issued.ephemeralR) =
      .ok (wallet 262) := pda_found (show _ = some (wallet 262, 255) by decide +kernel)
  have key : cli.keys.symm issued.stealthPubkey = wallet 6 := by decide +kernel
  have depositor : cli.keypair "depositor" "depositor.json" = .ok (wallet 1) := rfl
  have spendPub := SpendPublicKey.from_to_bytes primitives_lawful (spendKey.public primitives)
  have viewPub := ViewPublicKey.from_to_bytes primitives_lawful (viewKey.public primitives)
  have nonce : parseUnsigned u64Max "0" = some 0 := by decide +kernel
  have amount : parseUnsigned u64Max "1000000" = some funds := by decide +kernel
  have expiry : parseI64 "3600" = some 3600 := by decide +kernel
  have address : Stealth.deriveStealthAddressDeterministic primitives (spendKey.public primitives)
      (viewKey.public primitives) seed (UInt64.ofNat 0) = issued := rfl
  simp only [depositSol, bind_ok_iff, pure_ok_iff, option_ok_iff]
  refine ⟨0, nonce, funds, amount, 3600, expiry, wallet 1, depositor, wallet 1, text _, wallet 100,
    vault, wallet 6, text _, wallet 5, text _, _, written _, _, written _,
    spendKey.public primitives, ?_, viewKey.public primitives, ?_, wallet 262, ?_, ?_⟩
  · show Except.mapError _ (SpendPublicKey.fromBytes primitives _) = _
    rw [spendPub]
    rfl
  · show Except.mapError _ (ViewPublicKey.fromBytes primitives _) = _
    rw [viewPub]
    rfl
  · rw [← key] at deposit
    exact deposit
  · have crypto : cli.crypto = primitives := rfl
    rw [crypto, address, key]
    rfl

set_option maxRecDepth 10000 in
/-- Its transaction gets through, and leaves what the same deposit leaves in the sample's run. -/
theorem deposit_executed : transact (runtime derive) (prepared.context (Local.second 1001))
    prepared.instruction (after [openVault]) =
      .ok (after [openVault, depositFor 1001 6 issued.ephemeralR issued.viewTag]) :=
  transact_ok_iff.mpr ⟨by rfl, by decide +kernel⟩

set_option maxRecDepth 10000 in
/-- After another deposit the one that the tool made is reported, and its key is spent with
the recipient's scalar. -/
theorem deposit_reported : ∃ key deposit, depositAt (after events) key = some deposit ∧
    (∃ m ∈ [(⟨1, wallet 262, wallet 6, funds, .pending⟩ : PaymentMatch Bytes32)],
      m.depositPubkey = key) ∧
    ∃ scalar, Stealth.reconstructSpendScalar primitives spendKey viewKey deposit.ephemeralR 0 =
      .ok scalar := by
  let slice : SliceCredentials Stealth.Scalar := ⟨1, viewKey, spendKey.public primitives, 0⟩
  have opened : Reached (runtime derive) [openVault] (after [openVault]) :=
    after_reached (by decide +kernel)
  have other : Run (Step (runtime derive))
      (after [openVault, depositFor 1001 6 issued.ephemeralR issued.viewTag])
      [depositFor 1002 7 Bytes32.zeros 0] (after events) := .single (.call rfl)
  have typed : ∀ event ∈ [openVault] ++ [depositFor 1002 7 Bytes32.zeros 0], event.Typed := by
    intro event listed
    apply Reading.Sample.typed
    simp only [List.mem_append, List.mem_singleton] at listed
    rcases listed with rfl | rfl <;> simp [events]
  have spend : depositArgs.spendPubHex = bytesToHex (slice.spendPub.toBytes cli.crypto).val := rfl
  have registered : slice ∈ indexer.slices := List.mem_singleton.mpr rfl
  have ended : scanProgramAccounts primitives (format (Equiv.refl Bytes32)) (.ok accounts)
      indexer = .ok [⟨1, wallet 262, wallet 6, funds, .pending⟩] := by
    decide +kernel
  obtain ⟨key, deposit, -, placed, -, ⟨m, listed, here, -⟩, spendable⟩ :=
    deposited_found (runtime_lawful derive) cli_lawful primitives_lawful opened spend rfl
      (by decide +kernel) deposit_ready deposit_executed other typed registered listing ended
  obtain ⟨scalar, reconstructed, -⟩ := spendable spendKey rfl
  exact ⟨key, deposit, placed, ⟨m, listed, here⟩, scalar, reconstructed⟩

end Sample

end GPay.Demo
