import GPay.Demo.Commands
import GPay.Gateway.Issuance

/-!
# The demo requests

Besides voting, the demo router creates a deposit for its own wallet, pays a deposit from
the wallet, releases it to a fresh address and refunds it. The last three name a record of
the institution, take its keys for the arguments of one run of the command line tool, and
answer with what that run printed, or with its failure.
-/

namespace GPay.Demo

open Solana Gateway LawfulStore Text Quarantine Runs
open Stealth.Port (deriveStealthAddress)

/-- The router's configuration, with the key file of the wallet that it pays from: everything
that it sends but the votes is signed with this key. -/
structure DemoConfig extends Config where
  demoWalletKeypair : String

/-- What the router is built with: its configuration, the gateway's environment, the tool,
and its own reader of key files, which tells the bytes of the public key. -/
structure Router (Key Point : Type) where
  cfg : DemoConfig
  env : Env Point
  cli : Cli Key Point
  loadKeypair : String → Except String (List UInt8)

/-- The routes of the demo router. -/
inductive DemoRoute where
  | init
  | simulatePayment
  | attest
  | release
  | refund
  deriving DecidableEq

/-- A request with what its handler draws from the outside: besides the clocks, the random
number and the bytes of a seed, the public key of a fresh pair, and what its runs of the tool
meet. Of the request only the key and the body are read. -/
structure DemoCall where
  route : DemoRoute
  request : Request
  moment : Moment
  seed : List UInt8
  target : List UInt8
  passage : Passage
  round : Round

/-- `n.toString(36)`. -/
def base36Text (n : Int) : String := (if n < 0 then "-" else "") ++ toBase36 n.natAbs

/-- `z.object({ deposit_id: z.string().min(1) })`. -/
def depositIdBody : Json → Except Json String :=
  parseObject fun members =>
    match stringField [nonemptyText] (Json.member members "deposit_id") with
    | .ok depositId => .ok depositId
    | depositId => .error (fieldError "deposit_id" depositId)

/-- The schema of a payment. -/
def SimulateBody.safeParse : Json → Except Json String := depositIdBody

/-- The schema of a release. -/
def ReleaseBody.safeParse : Json → Except Json String := depositIdBody

/-- The schema of a refund. -/
def RefundBody.safeParse : Json → Except Json String := depositIdBody

/-- The link to an account. -/
def explorerAddr (addr : String) : String :=
  s!"https://explorer.solana.com/address/{addr}?cluster=devnet"

/-- `String(r.name ?? "")`, of a member that is a text when there is one. -/
def textOf (r : List (String × Json)) (name : String) : String :=
  match Json.member r name with
  | some (.string text) => text
  | _ => ""

/-- `text ? link(text) : null`. -/
def linked (link : String → String) (text : String) : Json :=
  if text = "" then .null else .string (link text)

section Handlers

variable {Key Point σ : Type} (router : Router Key Point)

/-- `demoWalletPubkey`, whose text is that of these bytes. -/
def demoWalletPubkey : Except String (List UInt8) :=
  (router.loadKeypair router.cfg.demoWalletKeypair).mapError (fun message =>
    s!"cannot load demo wallet {router.cfg.demoWalletKeypair}: {message}")

/-- What is stored for a demo deposit. -/
def demoDeposit (inst : Institution) (addr : Stealth.Port.StealthAddress) (wallet : List UInt8)
    (now : Int) : DepositCreate where
  institutionId := inst.id
  customerId := "demo-" ++ base36Text now
  amountHint := 10000000
  mint := "SOL"
  stealthPubkey := addr.stealthPubkey
  ephemeralR := addr.ephemeralR
  viewTag := addr.viewTag
  refundAddr := wallet
  expiresAt := now + 3600 * 1000

/-- `POST /v1/demo/init`: an address is derived for the institution and stored for a demo
deposit, with the wallet as its refund address. -/
def demoInit [Store σ] (store : σ) (call : DemoCall) (inst : Institution) : Response × σ :=
  match demoWalletPubkey router with
  | .error message =>
      (.error 500 "demo_wallet_unavailable" [("detail", .string s!"Error: {message}")], store)
  | .ok wallet =>
      match deriveStealthAddress router.env.noble inst.spendPub inst.viewPub call.seed with
      | .error _ => (.internalError, store)
      | .ok addr =>
          match Store.createDeposit store call.moment
              (demoDeposit inst addr wallet call.moment.now) with
          | .error _ => (.internalError, store)
          | .ok (dep, stored) =>
              (.ok [("deposit_id", .string dep.id),
                ("stealth_pubkey_hex", .string (bytesToHex dep.stealthPubkey)),
                ("ephemeral_r_hex", .string (bytesToHex dep.ephemeralR)),
                ("view_tag", .integer dep.viewTag),
                ("refund_pubkey", .string (base58Text wallet)),
                ("expires_at", .integer (call.moment.now + 3600 * 1000))], stored)

variable [DecidableEq Key] [Inhabited Key] (rt : Runtime Key)

/-- `runCli(..).catch(..)` for a command: the printed members, or an `error` member, and the
world that the run leaves. -/
def runCommand (cli : Cli Key Point) (cmd : Cmd) (prepared : Except String (Prepared Key))
    (passage : Passage) (w : World Key) : List (String × Json) × World Key :=
  match submit cli rt prepared passage w with
  | (.error stderr, w') => ([("error", .string (cli.failedText cmd stderr))], w')
  | (.ok members, w') => (members, w')

/-- The answer to a run of the tool: what it takes from the printed members, or the failure
under the name of the stage. -/
def answered (stage : String) (ran : List (String × Json) × World Key)
    (answer : List (String × Json) → List (String × Json)) : Response × World Key :=
  if (Json.member ran.1 "error").isSome then
    (⟨500, .object (("stage", .string stage) :: ran.1)⟩, ran.2)
  else (.ok (answer ran.1), ran.2)

/-- The arguments that a payment from the wallet is simulated with. -/
def simulateArgs (dep : DepositRecord) (wallet : List UInt8) (now : Int) :
    DepositSolDirectArgs where
  depositorKeypair := router.cfg.demoWalletKeypair
  vaultAuthority := router.cfg.vaultAuthorityPubkey
  stealthPubkeyHex := bytesToHex dep.stealthPubkey
  ephemeralRHex := bytesToHex dep.ephemeralR
  viewTag := toString dep.viewTag
  amountLamports := toString dep.amountHint
  refundAddr := base58Text dep.refundAddr
  releaseAuthority := base58Text wallet
  expireSeconds := toString (max 60 ((dep.expiresAt - now) / 1000))

/-- What is answered to a payment: what the tool has printed, and links to it; or, for an `error`
member, the failure. -/
def simulateAnswer (r : List (String × Json)) : List (String × Json) :=
  [("stage", .string "simulate"), ("signature", .string (textOf r "signature")),
    ("deposit_pda", .string (textOf r "deposit_pda")),
    ("explorer_tx", linked explorerTx (textOf r "signature")),
    ("explorer_account", linked explorerAddr (textOf r "deposit_pda"))]

/-- `POST /v1/demo/simulate-payment`, of a record of the institution: the wallet deposits the
amount of the record at its address. -/
def demoSimulate (dep : DepositRecord) (call : DemoCall) (w : World Key) : Response × World Key :=
  match demoWalletPubkey router with
  | .error _ => (.internalError, w)
  | .ok wallet =>
      let args := simulateArgs router dep wallet call.moment.now
      answered "simulate"
        (runCommand rt router.cli (.depositSolDirect args) (depositSolDirect router.cli rt args)
          call.passage w)
        simulateAnswer

/-- The arguments of a release by the wallet, at the record's keys. -/
def releaseArgs (dep : DepositRecord) (target : List UInt8) : ReleaseSolArgs where
  releaseAuthorityKeypair := router.cfg.demoWalletKeypair
  vaultAuthority := router.cfg.vaultAuthorityPubkey
  stealthPubkey := base58Text dep.stealthPubkey
  ephemeralRHex := bytesToHex dep.ephemeralR
  target := base58Text target

/-- What is answered to a release. -/
def releaseAnswer (target : String) (r : List (String × Json)) : List (String × Json) :=
  [("stage", .string "release"), ("signature", .string (textOf r "signature")),
    ("target", .string target), ("explorer_tx", linked explorerTx (textOf r "signature")),
    ("explorer_target", .string (explorerAddr target))]

/-- `POST /v1/demo/release`, of a record of the institution: the wallet releases its deposit to a
key that is made up for it, if the record is approved. -/
def demoRelease (dep : DepositRecord) (call : DemoCall) (w : World Key) : Response × World Key :=
  if dep.state ≠ .approved then
    (.error 409 "not_approved" [("state", .string (stateText dep.state))], w)
  else
    let args := releaseArgs router dep call.target
    answered "release"
      (runCommand rt router.cli (.releaseSol args) (releaseSol router.cli rt args) call.passage w)
      (releaseAnswer args.target)

/-- The arguments of a refund that the wallet signs, to the record's refund address. -/
def refundArgs (dep : DepositRecord) : RefundSolArgs where
  callerKeypair := router.cfg.demoWalletKeypair
  vaultAuthority := router.cfg.vaultAuthorityPubkey
  stealthPubkey := base58Text dep.stealthPubkey
  ephemeralRHex := bytesToHex dep.ephemeralR
  refundTarget := base58Text dep.refundAddr

/-- What is answered to a refund. -/
def refundAnswer (refundTarget : String) (r : List (String × Json)) : List (String × Json) :=
  [("stage", .string "refund"), ("signature", .string (textOf r "signature")),
    ("refund_target", .string refundTarget),
    ("explorer_tx", linked explorerTx (textOf r "signature"))]

/-- `POST /v1/demo/refund`, of a record of the institution: the wallet has its deposit
refunded. -/
def demoRefund (dep : DepositRecord) (call : DemoCall) (w : World Key) : Response × World Key :=
  let args := refundArgs router dep
  answered "refund"
    (runCommand rt router.cli (.refundSol args) (refundSol router.cli rt args) call.passage w)
    (refundAnswer args.refundTarget)

variable [Store σ]

/-- Run a handler on the record that the body names, if it is the institution's; otherwise
nothing is run, and the answer says why. -/
def onRecord (store : σ) (call : DemoCall) (safeParse : Json → Except Json String) (w : World Key)
    (handler : DepositRecord → Response × World Key) : Response × World Key :=
  match apiKeyAuth store call.request, call.request.body with
  | .error refused, _ => (refused, w)
  | .ok _, none => (.internalError, w)
  | .ok inst, some body =>
      match safeParse body with
      | .error _ => (.error 400 "invalid_body" [], w)
      | .ok depositId =>
          match Store.getDeposit store depositId with
          | none => (.notFound, w)
          | some dep => if dep.institutionId ≠ inst.id then (.notFound, w) else handler dep

/-- The answer to a demo request, and what it leaves of the store and of the world, route by
route. -/
def demo (store : σ) (call : DemoCall) (w : World Key) : Response × σ × World Key :=
  match call.route with
  | .init =>
      match apiKeyAuth store call.request with
      | .error refused => (refused, store, w)
      | .ok inst =>
          let created := demoInit router store call inst
          (created.1, created.2, w)
  | .simulatePayment =>
      let ran := onRecord store call SimulateBody.safeParse w
        (fun dep => demoSimulate router rt dep call w)
      (ran.1, store, ran.2)
  | .attest =>
      let ran := attest router.cli.toTool rt router.cfg.toConfig store call.request call.round w
      (ran.1, store, ran.2)
  | .release =>
      let ran := onRecord store call ReleaseBody.safeParse w
        (fun dep => demoRelease router rt dep call w)
      (ran.1, store, ran.2)
  | .refund =>
      let ran := onRecord store call RefundBody.safeParse w
        (fun dep => demoRefund router rt dep call w)
      (ran.1, store, ran.2)

end Handlers

section Texts

variable {Key Point : Type} {cli : Cli Key Point}

/-- Texts of base 58 are those of different bytes. -/
theorem base58_text_injective : Function.Injective base58Text := by
  intro left right same
  have read := base58_decode_encode right
  rw [← base58Text, ← same, base58Text, base58_decode_encode] at read
  exact Except.ok.inj read

/-- A key is parsed exactly when its text is read as it. -/
theorem parse_pubkey_ok_iff (tool : Tool Key) (text : String) (key : Key) :
    parsePubkey tool text = .ok key ↔ tool.pubkeyFromStr text = some key := by
  unfold parsePubkey
  split
  · rename_i read
    rw [read]
    simp
  · rename_i unread
    rw [unread]
    simp

/-- The key that a text of some bytes is read as has these bytes. -/
theorem parse_written_pubkey (faithful : cli.Lawful) {bytes : List UInt8} {key : Key} :
    parsePubkey cli.toTool (base58Text bytes) = .ok key ↔ (cli.keys key).val = bytes := by
  rw [parse_pubkey_ok_iff, faithful.reads]
  exact ⟨fun same => (base58_text_injective same).symm, fun same => congrArg _ same.symm⟩

/-- The text of a key's bytes is read as the key. -/
theorem reads_bytes (faithful : cli.Lawful) {key : Key} {bytes : List UInt8}
    (same : (cli.keys key).val = bytes) : cli.pubkeyFromStr (base58Text bytes) = some key :=
  (faithful.reads _ _).mpr (congrArg base58Text same.symm)

/-- The hexadecimal text of some bytes is parsed exactly when they are 32, and yields them. -/
theorem parse_written_hex {tool : Tool Key} (reads : tool.ReadsHex) {bytes : List UInt8}
    {parsed : Bytes32} :
    parseHex32 tool (bytesToHex bytes) = .ok parsed ↔ parsed.val = bytes := by
  constructor
  · intro read
    unfold parseHex32 at read
    rw [reads bytes] at read
    simp only at read
    split at read
    · rw [← Except.ok.inj read]
    · cases read
  · rintro rfl
    exact parse_hex32_written reads parsed

/-- A key file is loaded exactly when it can be read. -/
theorem keypair_ok_iff (who path : String) (key : Key) :
    cli.keypair who path = .ok key ↔ cli.readKeypairFile path = .ok key := by
  unfold Cli.keypair
  cases cli.readKeypairFile path <;> simp [Except.mapError]

/-- The text of a natural is its decimal digits. -/
theorem nat_text (n : Nat) : (toString n).toList = Nat.toDigits 10 n := by
  show (Nat.repr n).toList = _
  rw [Nat.repr, String.toList_ofList]

/-- A natural that is written in decimal is read when it is not too large. -/
theorem parse_unsigned_text (largest n : Nat) :
    parseUnsigned largest (toString n) = (some n).filter (· ≤ largest) := by
  have digits := digits_are n
  unfold parseUnsigned
  rw [nat_text]
  split
  · rename_i rest starts
    exact absurd (digits '+' (by simp [starts])) (by decide)
  · simp only [natural_in_digits]

/-- An integer that is not negative is read from its text when it is one of the type. -/
theorem parse_i64_text {value : Int} (positive : 0 ≤ value) :
    parseI64 (toString value) =
      (some value).filter (fun value => i64Min ≤ value ∧ value ≤ i64Max) := by
  obtain ⟨n, rfl⟩ := Int.eq_ofNat_of_zero_le positive
  have digits := digits_are n
  have text : (toString (n : Int)).toList = Nat.toDigits 10 n := nat_text n
  unfold parseI64
  rw [text]
  split
  · rename_i rest starts
    exact absurd (digits '-' (by simp [starts])) (by decide)
  · rename_i rest starts
    exact absurd (digits '+' (by simp [starts])) (by decide)
  · rw [natural_in_digits]
    rfl

end Texts

section Outcome

variable {Key Point : Type} [DecidableEq Key] [Inhabited Key] {cli : Cli Key Point}
  {rt : Runtime Key} {w w' : World Key}

/-- A request that runs the tool once changes the world by its transaction or not at all, and
answers with success only what the tool has printed. -/
inductive Handled (rt : Runtime Key) (w : World Key) (prepared : Except String (Prepared Key))
    (answer : List (String × Json) → List (String × Json)) : Response × World Key → Prop
  | unchanged {response : Response} (refused : response.status ≠ 200) :
      Handled rt w prepared answer (response, w)
  | unheard {ready : Prepared Key} {clock : Clock} {response : Response} {w' : World Key}
      (made : prepared = .ok ready)
      (executed : transact rt (ready.context clock) ready.instruction w = .ok w')
      (refused : response.status ≠ 200) : Handled rt w prepared answer (response, w')
  | done {ready : Prepared Key} {clock : Clock} {signature : String} {w' : World Key}
      (made : prepared = .ok ready)
      (executed : transact rt (ready.context clock) ready.instruction w = .ok w') :
      Handled rt w prepared answer (.ok (answer (ready.printed signature)), w')

/-- What a run of the tool leaves, as the router is told of it: nothing has changed, or the
transaction was executed, of which the router may not have heard. -/
theorem command_handled (cmd : Cmd) (prepared : Except String (Prepared Key)) (passage : Passage)
    (stage : String) (answer : List (String × Json) → List (String × Json)) :
    Handled rt w prepared answer
      (answered stage (runCommand rt cli cmd prepared passage w) answer) := by
  have failed : (500 : Nat) ≠ 200 := by decide
  have outcome := @submitted _ _ _ _ cli rt prepared passage w
  unfold runCommand
  generalize submit cli rt prepared passage w = left at outcome ⊢
  cases outcome with
  | unchanged message => exact .unchanged failed
  | @executed ready clock after result executed told =>
    rcases told with ⟨signature, rfl⟩ | ⟨message, rfl⟩
    · show Handled rt w _ answer (answered stage (ready.printed signature, after) answer)
      unfold answered
      split
      · exact .unheard rfl executed failed
      · exact .done rfl executed
    · exact .unheard rfl executed failed

/-- The step that the command makes on chain, if any, and what an answer of success says of it:
that it was made. -/
theorem Handled.run {prepared : Except String (Prepared Key)}
    {answer : List (String × Json) → List (String × Json)} {response : Response}
    (handled : Handled rt w prepared answer (response, w')) :
    ∃ events, Run (Step rt) w events w' ∧
      (∀ event ∈ events, ∃ ready clock, prepared = .ok ready ∧
        event = .call ((ready.context clock).demoted rt) ready.instruction) ∧
      (response.status = 200 → ∃ ready clock signature,
        prepared = .ok ready ∧ response = .ok (answer (ready.printed signature)) ∧
          events = [.call ((ready.context clock).demoted rt) ready.instruction]) := by
  cases handled with
  | unchanged refused => exact ⟨[], .nil, by simp, fun success => absurd success refused⟩
  | @unheard ready clock _ _ made executed refused =>
    refine ⟨_, .single (transact_step executed).1, ?_,
      fun success => absurd success refused⟩
    intro event listed
    exact ⟨ready, clock, made, List.mem_singleton.mp listed⟩
  | @done ready clock _ _ made executed =>
    refine ⟨_, .single (transact_step executed).1, ?_,
      fun _ => ⟨_, _, _, made, rfl, rfl⟩⟩
    intro event listed
    exact ⟨ready, clock, made, List.mem_singleton.mp listed⟩

/-- What the tool prints when its transaction gets through. -/
theorem command_executed (cmd : Cmd) {ready : Prepared Key} {clock : Clock} {signature : String}
    (executed : transact rt (ready.context clock) ready.instruction w = .ok w') :
    runCommand rt cli cmd (.ok ready) (.reached clock signature) w =
      (ready.printed signature, w') := by
  simp only [runCommand, submit, executed]

/-- A run of the tool that gets to the chain is answered with success exactly when its
transaction gets through. -/
theorem command_succeeds_iff (cmd : Cmd) {ready : Prepared Key} {clock : Clock}
    {signature stage : String} (printed : Json.member (ready.printed signature) "error" = none)
    (answer : List (String × Json) → List (String × Json)) :
    (answered stage (runCommand rt cli cmd (.ok ready) (.reached clock signature) w)
        answer).1.status = 200 ↔
      ∃ w', transact rt (ready.context clock) ready.instruction w = .ok w' := by
  cases executed : transact rt (ready.context clock) ready.instruction w with
  | error refusal =>
    have ran : runCommand rt cli cmd (.ok ready) (.reached clock signature) w =
        ([("error", .string (cli.failedText cmd (cli.refusedText refusal)))], w) := by
      simp only [runCommand, submit, executed]
    rw [ran]
    constructor
    · intro success
      exact absurd success (show (500 : Nat) ≠ 200 by decide)
    · rintro ⟨_, ⟨⟩⟩
  | ok w' =>
    rw [command_executed cmd executed, answered, printed]
    exact ⟨fun _ => ⟨w', rfl⟩, fun _ => rfl⟩

end Outcome

section Located

variable {Key Point : Type}

/-- Where the router looks for the deposit of a record: in its vault, under the record's
keys. -/
structure Located (router : Router Key Point) (rt : Runtime Key) (record : DepositRecord)
    (vault key : Key) : Prop where
  house : ∃ authority, router.cli.pubkeyFromStr router.cfg.vaultAuthorityPubkey = some authority ∧
    pda rt (.vault authority) = .ok vault
  place : ∃ stealthPubkey ephemeralR, (router.cli.keys stealthPubkey).val = record.stealthPubkey ∧
    ephemeralR.val = record.ephemeralR ∧ pda rt (.deposit vault stealthPubkey ephemeralR) = .ok key

variable {router : Router Key Point} {rt : Runtime Key} {record later : DepositRecord}
  {vault key vault' key' : Key}

/-- It stays there as long as the record keeps its keys. -/
theorem Located.kept (located : Located router rt record vault key)
    (same : later.issue = record.issue) : Located router rt later vault key := by
  obtain ⟨house, stealthPubkey, ephemeralR, stealth, ephemeral, place⟩ := located
  have keys : later.stealthPubkey = record.stealthPubkey :=
    congrArg (fun issue => issue.create.stealthPubkey) same
  have bytes : later.ephemeralR = record.ephemeralR :=
    congrArg (fun issue => issue.create.ephemeralR) same
  exact ⟨house, stealthPubkey, ephemeralR, stealth.trans keys.symm, ephemeral.trans bytes.symm,
    place⟩

/-- The place of a record's deposit is one place, as a derivation has one result. -/
theorem Located.unique (located : Located router rt record vault key)
    (same : later.issue = record.issue) (other : Located router rt later vault' key') :
    vault' = vault ∧ key' = key := by
  obtain ⟨⟨authority, named, house⟩, stealthPubkey, ephemeralR, stealth, ephemeral, place⟩ :=
    located.kept same
  obtain ⟨⟨authority', named', house'⟩, stealthPubkey', ephemeralR', stealth', ephemeral',
    place'⟩ := other
  obtain rfl := Option.some.inj (named.symm.trans named')
  obtain rfl := Except.ok.inj (house.symm.trans house')
  have sameStealth : stealthPubkey' = stealthPubkey := by
    apply router.cli.keys.injective
    apply Subtype.ext
    rw [stealth, stealth']
  have sameEphemeral : ephemeralR' = ephemeralR := by
    apply Subtype.ext
    rw [ephemeral, ephemeral']
  rw [sameStealth, sameEphemeral, place] at place'
  exact ⟨rfl, (Except.ok.inj place').symm⟩

/-- Both payouts of a record's deposit, as they are prepared: which key signs, and which vault,
deposit and target the call is given. -/
theorem payout_sol_ready (faithful : router.cli.Lawful) {who name keypair target : String}
    {call : (signer vault deposit target : Key) → Instruction Key} {prepared : Prepared Key} :
    payoutSol router.cli rt who name call keypair router.cfg.vaultAuthorityPubkey
        (base58Text record.stealthPubkey) (bytesToHex record.ephemeralR) target = .ok prepared ↔
      ∃ signer vault key targetKey, router.cli.readKeypairFile keypair = .ok signer ∧
        Located router rt record vault key ∧ router.cli.pubkeyFromStr target = some targetKey ∧
        prepared = ⟨signer, call signer vault key targetKey, fun sig =>
          [("deposit", .string (router.cli.pubkeyText key)),
            (name, .string (router.cli.pubkeyText targetKey)), ("signature", .string sig)]⟩ := by
  simp only [payoutSol, bind_ok_iff, pure_ok_iff, keypair_ok_iff, parse_written_pubkey faithful,
    parse_written_hex faithful.hex, parse_pubkey_ok_iff]
  constructor
  · rintro ⟨signer, read, authority, named, vault, house, stealth, stealthRead, ephemeralR,
      ephemeralRead, key, place, targetKey, targetRead, rfl⟩
    exact ⟨signer, vault, key, targetKey, read, ⟨⟨authority, named, house⟩, stealth, ephemeralR,
      stealthRead, ephemeralRead, place⟩, targetRead, rfl⟩
  · rintro ⟨signer, vault, key, targetKey, read, ⟨⟨authority, named, house⟩, stealth, ephemeralR,
      stealthRead, ephemeralRead, place⟩, targetRead, rfl⟩
    exact ⟨signer, read, authority, named, vault, house, stealth, stealthRead, ephemeralR,
      ephemeralRead, key, place, targetKey, targetRead, rfl⟩

/-- A payout of a record's deposit is prepared once the key file and the target can be read: all
else is read from what the router itself has written. -/
theorem payout_prepared (faithful : router.cli.Lawful)
    (located : Located router rt record vault key) {keypair target : String}
    {signer targetKey : Key} (read : router.cli.readKeypairFile keypair = .ok signer)
    (readTarget : router.cli.pubkeyFromStr target = some targetKey) {name : String}
    (other : name ≠ "error")
    (call : (signer vault deposit target : Key) → Instruction Key) (who : String) :
    ∃ ready, payoutSol router.cli rt who name call keypair router.cfg.vaultAuthorityPubkey
        (base58Text record.stealthPubkey) (bytesToHex record.ephemeralR) target = .ok ready ∧
      (∀ sig, Json.member (ready.printed sig) "error" = none) ∧ ready.payer = signer ∧
      ready.instruction = call signer vault key targetKey := by
  refine ⟨_, (payout_sol_ready faithful).mpr
    ⟨signer, vault, key, targetKey, read, located, readTarget, rfl⟩, ?_, rfl, rfl⟩
  intro sig
  simp [Json.member, other]

end Located

section Simulated

variable {Key Point : Type}

/-- The arguments of a deposit for a record: its keys and its terms, the wallet as release
authority, and the time that is left, but at least a minute. -/
structure PaysFor (router : Router Key Point) (record : DepositRecord) (wallet : List UInt8)
    (now : Int) (args : DepositArgs Key) : Prop where
  stealthPubkey : (router.cli.keys args.stealthPubkey).val = record.stealthPubkey
  ephemeralR : args.ephemeralR.val = record.ephemeralR
  viewTag : args.viewTag.toNat = record.viewTag
  amount : args.amount = record.amountHint
  refundAddr : (router.cli.keys args.refundAddr).val = record.refundAddr
  releaseAuthority : (router.cli.keys args.releaseAuthority).val = wallet
  expireSeconds : args.expireSeconds = max 60 ((record.expiresAt - now) / 1000)

variable {router : Router Key Point} {rt : Runtime Key} {record : DepositRecord}
  {wallet : List UInt8} {now : Int}

/-- A payment is simulated with a deposit for the record, at its place: with the amount, the
address and the refund address of the record. -/
theorem simulate_ready (faithful : router.cli.Lawful) {prepared : Prepared Key}
    (ready : depositSolDirect router.cli rt (simulateArgs router record wallet now) =
      .ok prepared) :
    ∃ depositor vault key args printed, Located router rt record vault key ∧
      router.cli.readKeypairFile router.cfg.demoWalletKeypair = .ok depositor ∧
      PaysFor router record wallet now args ∧
      args.amount ≤ u64Max ∧ prepared = deposited depositor vault key args printed ∧
      ∀ sig, textOf (printed sig) "deposit_pda" = router.cli.pubkeyText key := by
  have least : 0 ≤ max 60 ((record.expiresAt - now) / 1000) := by omega
  simp only [depositSolDirect, simulateArgs, bind_ok_iff, pure_ok_iff, option_ok_iff,
    keypair_ok_iff, parse_written_pubkey faithful, parse_written_hex faithful.hex,
    parse_unsigned_text, parse_i64_text least, Option.filter_eq_some_iff, Option.some.injEq,
    decide_eq_true_eq, parse_pubkey_ok_iff] at ready
  obtain ⟨viewTag, ⟨rfl, small⟩, amount, ⟨rfl, held⟩, expireSeconds, ⟨rfl, -⟩, depositor, read,
    authority, named, vault, house, refundAddr, refundRead, releaseAuthority, walletRead, stealth,
    stealthRead, ephemeralR, ephemeralRead, key, place, rfl⟩ := ready
  have bytes : router.cli.keys (router.cli.keys.symm stealth) = stealth :=
    router.cli.keys.apply_symm_apply stealth
  refine ⟨depositor, vault, key, _, _, ⟨⟨authority, named, house⟩, _, ephemeralR, ?_, ephemeralRead,
    place⟩, read, ?_, held, rfl, fun _ => rfl⟩
  · rw [bytes, stealthRead]
  · exact {
      stealthPubkey := by rw [bytes, stealthRead]
      ephemeralR := ephemeralRead
      viewTag := by
        show (UInt8.ofNat record.viewTag).toNat = record.viewTag
        rw [UInt8.toNat_ofNat']
        omega
      amount := rfl
      refundAddr := refundRead
      releaseAuthority := walletRead
      expireSeconds := rfl }

/-- The payment is prepared once the key file and the addresses can be found, and its amount and
its time are those of the types. -/
theorem simulate_prepared (faithful : router.cli.Lawful) {depositor authority vault key : Key}
    {args : DepositArgs Key}
    (read : router.cli.readKeypairFile router.cfg.demoWalletKeypair = .ok depositor)
    (named : router.cli.pubkeyFromStr router.cfg.vaultAuthorityPubkey = some authority)
    (house : pda rt (.vault authority) = .ok vault)
    (place : pda rt (.deposit vault args.stealthPubkey args.ephemeralR) = .ok key)
    (pays : PaysFor router record wallet now args) (small : args.amount ≤ u64Max)
    (soon : args.expireSeconds ≤ i64Max) :
    ∃ printed, depositSolDirect router.cli rt (simulateArgs router record wallet now) =
        .ok (deposited depositor vault key args printed) ∧
      ∀ sig, Json.member (printed sig) "error" = none := by
  obtain ⟨stealthPubkey, ephemeralR, viewTag, amount, refundAddr, releaseAuthority,
    expireSeconds⟩ := args
  obtain ⟨stealthBytes, ephemeralBytes, tag, rfl, refundBytes, walletBytes, rfl⟩ := pays
  have least : 0 ≤ max 60 ((record.expiresAt - now) / 1000) := by omega
  have key_bytes : router.cli.keys.symm (router.cli.keys stealthPubkey) = stealthPubkey :=
    router.cli.keys.symm_apply_apply stealthPubkey
  have low : i64Min ≤ max 60 ((record.expiresAt - now) / 1000) := by
    have negative : i64Min ≤ 0 := by decide
    omega
  have short : record.viewTag ≤ 255 := by
    have bound := viewTag.toNat_lt
    simp only at tag
    omega
  have same : UInt8.ofNat record.viewTag = viewTag := by
    simp only at tag
    rw [← tag, UInt8.ofNat_toNat]
  let printed (sig : String) : List (String × Json) :=
    [("deposit_pda", .string (router.cli.pubkeyText key)),
      ("vault", .string (router.cli.pubkeyText vault)),
      ("stealth_pubkey", .string (router.cli.pubkeyText stealthPubkey)),
      ("stealth_pubkey_hex", .string (bytesToHex record.stealthPubkey)),
      ("ephemeral_r_hex", .string (bytesToHex record.ephemeralR)),
      ("view_tag", .integer record.viewTag), ("signature", .string sig)]
  refine ⟨printed, ?_, fun sig => rfl⟩
  simp only [depositSolDirect, simulateArgs, bind_ok_iff, pure_ok_iff, option_ok_iff,
    keypair_ok_iff, parse_written_pubkey faithful, parse_written_hex faithful.hex,
    parse_unsigned_text, parse_i64_text least, Option.filter_eq_some_iff, Option.some.injEq,
    decide_eq_true_eq, parse_pubkey_ok_iff]
  refine ⟨record.viewTag, ⟨rfl, short⟩, record.amountHint, ⟨rfl, small⟩, _, ⟨rfl, low, soon⟩,
    depositor, read, authority, named, vault, house, refundAddr, refundBytes, releaseAuthority,
    walletBytes, router.cli.keys stealthPubkey, stealthBytes, ephemeralR, ephemeralBytes, key,
    ?_, ?_⟩
  · rw [key_bytes]
    exact place
  · rw [key_bytes, same]

end Simulated

section Handlers

variable {Key Point σ : Type} [DecidableEq Key] [Inhabited Key] [Store σ]
  (router : Router Key Point) (rt : Runtime Key) (dep : DepositRecord) (call : DemoCall)
  (w : World Key)

/-- A payment runs the tool once, with the arguments that the wallet and the record yield. -/
theorem simulate_handled :
    Handled rt w ((demoWalletPubkey router).bind (fun wallet =>
        depositSolDirect router.cli rt (simulateArgs router dep wallet call.moment.now)))
      simulateAnswer (demoSimulate router rt dep call w) := by
  unfold demoSimulate
  cases demoWalletPubkey router with
  | error message => exact .unchanged (show (500 : Nat) ≠ 200 by decide)
  | ok wallet => exact command_handled ..

/-- A release runs the tool at most once, with the record's keys and the fresh address. -/
theorem release_handled :
    Handled rt w (releaseSol router.cli rt (releaseArgs router dep call.target))
      (releaseAnswer (base58Text call.target)) (demoRelease router rt dep call w) := by
  unfold demoRelease
  split
  · exact .unchanged (show (409 : Nat) ≠ 200 by decide)
  · exact command_handled ..

/-- A refund runs the tool once, with the record's keys and its refund address. -/
theorem refund_handled :
    Handled rt w (refundSol router.cli rt (refundArgs router dep))
      (refundAnswer (base58Text dep.refundAddr)) (demoRefund router rt dep call w) := by
  unfold demoRefund
  exact command_handled ..

/-- The request is an institution's about a record of its own: its API key is the institution's,
its body names the record, and the record is stored for the institution. -/
structure Asked (store : σ) (call : DemoCall) (record : DepositRecord) : Prop where
  known : ∃ inst, apiKeyAuth store call.request = .ok inst ∧ record.institutionId = inst.id
  named : ∃ body, call.request.body = some body ∧ depositIdBody body = .ok record.id
  stored : Store.getDeposit store record.id = some record

end Handlers

section Records

variable {Key σ : Type} [LawfulStore σ] (store : σ) (call : DemoCall) (w : World Key)
  (handler : DepositRecord → Response × World Key)

/-- A request about a record is handled, if it is an institution's about a record of its own, and
any other is refused with nothing done. -/
theorem on_record_cases :
    (∃ record, Asked store call record ∧
      onRecord store call depositIdBody w handler = handler record) ∨
      ∃ refused : Response, refused.status ≠ 200 ∧
        onRecord store call depositIdBody w handler = (refused, w) := by
  have absent : Response.notFound.status ≠ 200 := by decide
  unfold onRecord
  split
  · rename_i refused failed
    exact .inr ⟨refused, auth_refused failed, rfl⟩
  · exact .inr ⟨_, by decide, rfl⟩
  · rename_i inst body known sent
    split
    · exact .inr ⟨_, show (400 : Nat) ≠ 200 by decide, rfl⟩
    · rename_i depositId parsed
      split
      · exact .inr ⟨_, absent, rfl⟩
      · rename_i record found
        split
        · exact .inr ⟨_, absent, rfl⟩
        · rename_i owned
          obtain rfl := read_id found
          exact .inl ⟨record, ⟨⟨inst, known, not_not.mp owned⟩, ⟨body, sent, parsed⟩, found⟩, rfl⟩

variable {store call w handler}

/-- An institution's request about a record of its own is handled. -/
theorem on_record_asked {record : DepositRecord} (asked : Asked store call record) :
    onRecord store call depositIdBody w handler = handler record := by
  obtain ⟨⟨inst, known, owned⟩, ⟨body, sent, parsed⟩, stored⟩ := asked
  simp only [onRecord, known, sent, parsed, stored, owned, ne_eq, not_true_eq_false, if_false]

end Records

section Payment

variable {Key Point σ : Type} [DecidableEq Key] [Inhabited Key] [LawfulStore σ]
  {router : Router Key Point} {rt : Runtime Key} {store : σ} {call : DemoCall}
  {record : DepositRecord} {ready : Prepared Key} {w w' : World Key}

/-- A payment is answered with success when its transaction gets through. -/
theorem simulate_answered (asked : Asked store call record) (route : call.route = .simulatePayment)
    {wallet : List UInt8} (loaded : demoWalletPubkey router = .ok wallet)
    (made : depositSolDirect router.cli rt (simulateArgs router record wallet call.moment.now) =
      .ok ready)
    {clock : Clock} {signature : String} (met : call.passage = .reached clock signature)
    (printed : Json.member (ready.printed signature) "error" = none)
    (executed : transact rt (ready.context clock) ready.instruction w = .ok w') :
    demo router rt store call w = (.ok (simulateAnswer (ready.printed signature)), store, w') := by
  simp only [demo, route, SimulateBody.safeParse, on_record_asked asked, demoSimulate, loaded, made,
    met, command_executed _ executed, answered, printed]
  rfl

end Payment

end GPay.Demo
