import GPay.Gateway.Effects
import GPay.Quarantine.Verdict

/-!
# Attesting from the gateway

The demo router votes for both of its oracles: one run of the command line tool after
the other, each a transaction of its own, and the first that fails ends the request.
What has reached the chain by then stays there. A request that is repeated starts
over with the first oracle, whose second vote the program refuses.

A run of the tool fails before it changes anything, or its transaction reaches the
chain and is executed or refused there. The files, the texts of keys and bytes and
the texts of failures are the tool's environment.
-/

namespace GPay.Demo

open Solana Quorum Gateway Text
open Quarantine

/-- What one run of the tool meets: a failure on the way with its message, or the
chain at a clock value, under a signature. -/
inductive Attempt where
  | lost (message : String)
  | reached (clock : Clock) (signature : String)

/-- The configuration of the router that attesting reads: the authority of the vault as a text,
and the paths of the key files of its two oracles. -/
structure Config where
  vaultAuthorityPubkey : String
  oracle1Keypair : String
  oracle2Keypair : String

/-- What the tool is run with: key files by path, the readers of keys and of
hexadecimal digits, and the texts of a key, of a refused transaction and of a failed
command. -/
structure Tool (Key : Type) where
  readKeypairFile : String → Except String Key
  pubkeyFromStr : String → Option Key
  hexDecode : String → Option (List UInt8)
  pubkeyText : Key → String
  refusalText : Error → String
  failureText : String → String

/-- Hexadecimal digits are read as the bytes they were written for. -/
def Tool.ReadsHex {Key : Type} (tool : Tool Key) : Prop :=
  ∀ bytes, tool.hexDecode (bytesToHex bytes) = some bytes

/-- The arguments of `gpay-cli attest`, which are texts. The evidence is zeros unless it is
given. -/
structure AttestArgs where
  oracleKeypair : String
  vaultAuthority : String
  depositPubkey : String
  stealthPubkey : String
  ephemeralRHex : String
  verdict : String
  evidenceHex : String := "0000000000000000000000000000000000000000000000000000000000000000"

section Cli

variable {Key : Type}

/-- A key is read from its text, which the failure names. -/
def parsePubkey (tool : Tool Key) (s : String) : Except String Key :=
  match tool.pubkeyFromStr s with
  | some key => .ok key
  | none => .error s!"invalid pubkey {s}"

/-- Thirty-two bytes are read from their hexadecimal digits. Digits that cannot be read and a
wrong number of bytes fail with texts of their own. -/
def parseHex32 (tool : Tool Key) (s : String) : Except String Bytes32 :=
  match tool.hexDecode s with
  | none => .error "hex decode"
  | some v =>
      if sized : v.length = 32 then .ok ⟨v, sized⟩
      else .error s!"expected 32 bytes, got {v.length}"

/-- `find_program_address(..).0`, which fails here only if no bump gives an address. -/
def pda (rt : Runtime Key) (seeds : Seeds Key) : Except String Key :=
  match rt.findProgramAddress seeds.list with
  | some (key, _) => .ok key
  | none => .error "Unable to find a viable program address bump seed"

/-- A verdict is read from its word. -/
def parseVerdict : String → Except String AmlVerdict
  | "clean" => .ok .clean
  | "dirty" => .ok .dirty
  | other => .error s!"verdict must be clean|dirty, got {other}"

/-- The instruction of an `attest` command: its accounts, its verdict and the
evidence. The account named as the deposit is not looked at. -/
def attestInstruction (tool : Tool Key) (rt : Runtime Key) (a : AttestArgs) :
    Except String (Attest Key × AmlVerdict × Bytes32) := do
  let oracle ← (tool.readKeypairFile a.oracleKeypair).mapError ("read oracle keypair: " ++ ·)
  let vaultAuthority ← parsePubkey tool a.vaultAuthority
  let vault ← pda rt (.vault vaultAuthority)
  let stealth ← parsePubkey tool a.stealthPubkey
  let ephemeralR ← parseHex32 tool a.ephemeralRHex
  let deposit ← pda rt (.deposit vault stealth ephemeralR)
  let verdict ← parseVerdict a.verdict
  let evidence ← parseHex32 tool a.evidenceHex
  return (⟨oracle, vault, deposit⟩, verdict, evidence)

/-- `gpay-cli attest`: the oracle signs and pays for a transaction of one instruction.
Returned are the members it prints, or the failure, and the world it leaves. -/
def cliAttest [DecidableEq Key] [Inhabited Key] (tool : Tool Key) (rt : Runtime Key)
    (a : AttestArgs) (attempt : Attempt) (w : World Key) :
    Except String (List (String × Json)) × World Key :=
  match attestInstruction tool rt a, attempt with
  | .error message, _ => (.error message, w)
  | .ok _, .lost message => (.error message, w)
  | .ok (accounts, verdict, evidence), .reached clock signature =>
      let ctx : Context Key := ⟨clock, [accounts.oracle], [accounts.oracle, accounts.deposit]⟩
      match exec rt ctx (.attest accounts verdict evidence) w with
      | .error error => (.error (tool.refusalText error), w)
      | .ok w' =>
          (.ok [("deposit", .string (tool.pubkeyText accounts.deposit)),
            ("oracle", .string (tool.pubkeyText accounts.oracle)),
            ("verdict", .string a.verdict), ("signature", .string signature)], w')

/-- `runCli(..).catch(..)`: the printed members, or an `error` member. A run that is cut off
looks like a failure, whatever happened on chain. -/
def runCli [DecidableEq Key] [Inhabited Key] (tool : Tool Key) (rt : Runtime Key) (a : AttestArgs)
    (attempt : Attempt) (w : World Key) : List (String × Json) × World Key :=
  match cliAttest tool rt a attempt w with
  | (.error stderr, w') => ([("error", .string (tool.failureText stderr))], w')
  | (.ok members, w') => (members, w')

end Cli

/-- The word for a verdict. -/
def verdictText : AmlVerdict → String
  | .clean => "clean"
  | .dirty => "dirty"

/-- `z.enum(["clean", "dirty"])`. -/
def verdictField : Option Json → Gateway.Field AmlVerdict
  | some (.string text) =>
      match [AmlVerdict.clean, .dirty].find? (fun verdict => verdictText verdict = text) with
      | some verdict => .ok verdict
      | none => .error [s!"Invalid enum value. Expected 'clean' | 'dirty', received '{text}'"]
  | other => .error [wrongType "'clean' | 'dirty'" other]

/-- The body of a request to vote: the record and the verdict of both oracles. -/
structure AttestBody where
  depositId : String
  verdict : AmlVerdict

/-- The schema of that body; every field that fails is told. -/
def AttestBody.safeParse : Json → Except Json AttestBody :=
  parseObject fun members =>
    let depositId := stringField [nonemptyText] (Json.member members "deposit_id")
    let verdict := verdictField (Json.member members "verdict")
    match depositId, verdict with
    | .ok depositId, .ok verdict => .ok ⟨depositId, verdict⟩
    | depositId, verdict =>
        .error (fieldError "deposit_id" depositId ++ fieldError "verdict" verdict)

/-- The link to a transaction. -/
def explorerTx (sig : String) : String := s!"https://explorer.solana.com/tx/{sig}?cluster=devnet"

/-- `String(r.signature ?? "")`, of a member that is a text when there is one. -/
def signatureOf (r : List (String × Json)) : String :=
  match Json.member r "signature" with
  | some (.string signature) => signature
  | _ => ""

/-- What the two runs of the tool meet during a request. The second is not made when
the first fails. -/
structure Round where
  first : Attempt
  second : Attempt

section Route

variable {Key σ : Type} [DecidableEq Key] [Inhabited Key] [Store σ] (tool : Tool Key)
  (rt : Runtime Key) (cfg : Config)

/-- The arguments of one run. -/
def attestArgs (dep : DepositRecord) (onChainAddress : String) (verdict : AmlVerdict)
    (oracleKeypair : String) : AttestArgs where
  oracleKeypair
  vaultAuthority := cfg.vaultAuthorityPubkey
  depositPubkey := onChainAddress
  stealthPubkey := base58Text dep.stealthPubkey
  ephemeralRHex := bytesToHex dep.ephemeralR
  verdict := verdictText verdict

/-- The loop over the oracles, behind the signatures collected so far. The first run that prints
an `error` member ends it. -/
def attestLoop (dep : DepositRecord) (onChainAddress : String) (verdict : AmlVerdict) :
    List (String × Attempt) → List String → World Key → Response × World Key
  | [], sigs, w =>
      (.ok [("stage", .string "attest"), ("verdict", .string (verdictText verdict)),
        ("signatures", .array (sigs.map .string)),
        ("explorer_txs", .array (sigs.map (fun sig => .string (explorerTx sig))))], w)
  | (oracleKeypair, attempt) :: rest, sigs, w =>
      match runCli tool rt (attestArgs cfg dep onChainAddress verdict oracleKeypair) attempt w with
      | (r, w') =>
          if (Json.member r "error").isSome then
            (⟨500, .object
              ([("stage", .string "attest"), ("oracle", .string oracleKeypair)] ++ r)⟩, w')
          else attestLoop dep onChainAddress verdict rest (sigs ++ [signatureOf r]) w'

/-- `POST /v1/demo/attest`: the record is found and checked, and both oracles are run in turn. Of
the request only the key and the body are read. -/
def attest (store : σ) (request : Request) (round : Round) (w : World Key) : Response × World Key :=
  match apiKeyAuth store request, request.body with
  | .error refused, _ => (refused, w)
  | .ok _, none => (.internalError, w)
  | .ok inst, some body =>
      match AttestBody.safeParse body with
      | .error _ => (.error 400 "invalid_body" [], w)
      | .ok body =>
          match Store.getDeposit store body.depositId with
          | none => (.notFound, w)
          | some dep =>
              if dep.institutionId ≠ inst.id then (.notFound, w)
              else match dep.onChainAddress with
                | none | some "" =>
                    (.error 409 "no_onchain_record"
                      [("hint", .string "run simulate-payment first")], w)
                | some onChainAddress =>
                    attestLoop tool rt cfg dep onChainAddress body.verdict
                      [(cfg.oracle1Keypair, round.first), (cfg.oracle2Keypair, round.second)] [] w

/-- The world that requests leave one after the other. -/
def attestAll (store : σ) (w : World Key) (requests : List (Request × Round)) : World Key :=
  requests.foldl (fun w request => (attest tool rt cfg store request.1 request.2 w).2) w

end Route

/-- The state that a verdict decides for. -/
def verdictTarget : AmlVerdict → DepositState
  | .clean => .approved
  | .dirty => .rejected

/-- The transaction of the run gets to the chain. -/
def Attempt.reaches : Attempt → Bool
  | .lost _ => false
  | .reached _ _ => true

/-- If the chain is reached then it is before that time. -/
def Attempt.Before (expireAt : Int) : Attempt → Prop
  | .lost _ => True
  | .reached clock _ => clock.unixTimestamp < expireAt

/-- What gets to the chain does so before that time. -/
def Round.Before (expireAt : Int) (round : Round) : Prop :=
  round.first.Before expireAt ∧ round.second.Before expireAt

/-- The vote that a run of the tool offers, if it comes to that. -/
def Tool.offer {Key : Type} (tool : Tool Key) (verdict : AmlVerdict) (call : String × Attempt) :
    Option (Vote Key) :=
  match tool.readKeypairFile call.1, call.2 with
  | .ok oracle, .reached _ _ => some ⟨oracle, verdict = .dirty⟩
  | _, _ => none

/-- In the first round whose first run reaches the chain the second one does as well, so that
both oracles have voted after it. -/
def Uninterrupted (rounds : List Round) : Prop :=
  ∀ round, rounds.find? (·.first.reaches) = some round → round.second.reaches = true

/-- The request is authenticated as one of the institution, and its body asks for the verdict on
the record. -/
structure Asks {σ : Type} [Store σ] (store : σ) (inst : Institution) (record : DepositRecord)
    (verdict : AmlVerdict) (request : Request) : Prop where
  known : apiKeyAuth store request = .ok inst
  body : ∃ body, request.body = some body ∧
    AttestBody.safeParse body = .ok ⟨record.id, verdict⟩

/-- The record of the institution that is stored for the deposit, with its address on
chain. -/
structure RecordOf {Key σ : Type} [Store σ] (tool : Tool Key) (store : σ) (inst : Institution)
    (record : DepositRecord) (deposit : Deposit Key) : Prop where
  stored : Store.getDeposit store record.id = some record
  owned : record.institutionId = inst.id
  onChainAddress : ∃ address, record.onChainAddress = some address ∧ address ≠ ""
  stealthPubkey : tool.pubkeyFromStr (base58Text record.stealthPubkey) = some deposit.stealthPubkey
  ephemeralR : record.ephemeralR = deposit.ephemeralR.val

/-- The router is configured with the vault's authority and with the oracles' keys: the text of
the one and the files of the others are read as these keys. -/
structure Configured {Key : Type} (tool : Tool Key) (cfg : Config) (vault : Vault Key)
    (first second : Key) : Prop where
  authority : tool.pubkeyFromStr cfg.vaultAuthorityPubkey = some vault.authority
  first : tool.readKeypairFile cfg.oracle1Keypair = .ok first
  second : tool.readKeypairFile cfg.oracle2Keypair = .ok second

/-- The words of the verdicts are read as the verdicts. -/
theorem parse_verdict_text (verdict : AmlVerdict) :
    parseVerdict (verdictText verdict) = .ok verdict := by
  cases verdict <;> rfl

/-- Distinct outcomes leave distinct states. -/
theorem state_of_injective : Function.Injective stateOf := by
  intro left right same
  cases left <;> cases right <;> first | rfl | cases same

/-- A verdict decides for the state that its outcome stands for. -/
theorem verdict_target (verdict : AmlVerdict) :
    verdictTarget verdict = stateOf (decision (verdict = .dirty)) := by
  cases verdict <;> rfl

section Tool

variable {Key : Type} {tool : Tool Key}

/-- Written bytes are read back. -/
theorem parse_hex32_written (reads : tool.ReadsHex) (bytes : Bytes32) :
    parseHex32 tool (bytesToHex bytes.val) = .ok bytes := by
  simp [parseHex32, reads bytes.val, bytes.property]

/-- Without an argument the evidence is zero. -/
theorem parse_hex32_default (reads : tool.ReadsHex) :
    parseHex32 tool "0000000000000000000000000000000000000000000000000000000000000000" =
      .ok Bytes32.zeros := by
  have written : bytesToHex Bytes32.zeros.val =
      "0000000000000000000000000000000000000000000000000000000000000000" := by decide +kernel
  rw [← written, parse_hex32_written reads]

/-- A text that is read as a key is parsed as it. -/
theorem parse_pubkey_some {s : String} {key : Key} (read : tool.pubkeyFromStr s = some key) :
    parsePubkey tool s = .ok key := by
  rw [parsePubkey, read]

/-- An address that the search finds is the one that is derived. -/
theorem pda_found {rt : Runtime Key} {seeds : Seeds Key} {key : Key} {bump : UInt8}
    (found : rt.findProgramAddress seeds.list = some (key, bump)) : pda rt seeds = .ok key := by
  rw [pda, found]

end Tool

section Run

variable {Key : Type} {tool : Tool Key} {rt : Runtime Key} {cfg : Config} {record : DepositRecord}
  {vaultKey key : Key}

variable (tool rt cfg record vaultKey key) in
/-- Run for the record, the tool votes on the deposit at the address, in its vault. Only
the oracle's key can be missing. -/
def Names : Prop :=
  ∀ onChainAddress verdict oracleKeypair,
    attestInstruction tool rt (attestArgs cfg record onChainAddress verdict oracleKeypair) =
      ((tool.readKeypairFile oracleKeypair).mapError ("read oracle keypair: " ++ ·)).map
        (fun oracle => (⟨oracle, vaultKey, key⟩, verdict, Bytes32.zeros))

/-- The call that a run of the tool makes. -/
def cliBallot (key : Key) (verdict : AmlVerdict) (oracle : Key) (clock : Clock) : Ballot Key :=
  ⟨⟨clock, [oracle], [oracle, key]⟩, oracle, verdict, Bytes32.zeros⟩

/-- With a readable key file a run of the tool offers its vote unless it is lost. -/
theorem offer_read {verdict : AmlVerdict} {oracleKeypair : String} {oracle : Key}
    (read : tool.readKeypairFile oracleKeypair = .ok oracle) (attempt : Attempt) :
    tool.offer verdict (oracleKeypair, attempt) =
      if attempt.reaches then some ⟨oracle, verdict = .dirty⟩ else none := by
  cases attempt <;> simp [Tool.offer, read, Attempt.reaches]

/-- A run of the tool that offers a vote reaches the chain with the key of its oracle. -/
theorem offer_some {verdict : AmlVerdict} {oracleKeypair : String} {attempt : Attempt}
    {vote : Vote Key} (offered : tool.offer verdict (oracleKeypair, attempt) = some vote) :
    ∃ oracle clock signature, tool.readKeypairFile oracleKeypair = .ok oracle ∧
      attempt = .reached clock signature ∧ vote = ⟨oracle, verdict = .dirty⟩ := by
  cases read : tool.readKeypairFile oracleKeypair with
  | error message => simp [Tool.offer, read] at offered
  | ok oracle =>
    cases attempt with
    | lost message => simp [Tool.offer, read] at offered
    | reached clock signature =>
      have same : ⟨oracle, decide (verdict = .dirty)⟩ = vote := by
        simpa [Tool.offer, read] using offered
      exact ⟨oracle, clock, signature, rfl, rfl, same.symm⟩

variable [DecidableEq Key] [Inhabited Key] {w w' : World Key}

/-- A run of the tool that offers no vote fails and changes nothing: its arguments are refused,
or it is cut off before it reaches the chain. -/
theorem run_cli_lost (names : Names tool rt cfg record vaultKey key) (onChainAddress : String)
    {verdict : AmlVerdict} {oracleKeypair : String} {attempt : Attempt}
    (offered : tool.offer verdict (oracleKeypair, attempt) = none) :
    ∃ message, runCli tool rt (attestArgs cfg record onChainAddress verdict oracleKeypair) attempt
      w = ([("error", .string message)], w) := by
  have named := names onChainAddress verdict oracleKeypair
  cases read : tool.readKeypairFile oracleKeypair with
  | error message =>
    rw [read] at named
    simp [runCli, cliAttest, named, Except.mapError, Except.map]
  | ok oracle =>
    cases attempt with
    | lost message =>
      rw [read] at named
      simp [runCli, cliAttest, named, Except.mapError, Except.map]
    | reached clock signature => simp [Tool.offer, read] at offered

/-- A run of the tool whose call fails on chain fails and changes nothing. -/
theorem run_cli_refused (names : Names tool rt cfg record vaultKey key) (onChainAddress : String)
    {verdict : AmlVerdict} {oracleKeypair : String} {oracle : Key} {clock : Clock}
    (signature : String) (read : tool.readKeypairFile oracleKeypair = .ok oracle)
    (refused : next rt w ((cliBallot key verdict oracle clock).event vaultKey key) = none) :
    ∃ message, runCli tool rt (attestArgs cfg record onChainAddress verdict oracleKeypair)
      (.reached clock signature) w = ([("error", .string message)], w) := by
  have named := names onChainAddress verdict oracleKeypair
  rw [read] at named
  cases executed : exec rt ⟨clock, [oracle], [oracle, key]⟩
      (.attest ⟨oracle, vaultKey, key⟩ verdict Bytes32.zeros) w with
  | error error => simp [runCli, cliAttest, named, Except.mapError, Except.map, executed]
  | ok result =>
    simp [next, Ballot.event, cliBallot, executed, Except.toOption] at refused

/-- A run of the tool that gets to the chain with a call that is executed prints a signature and
no error. -/
theorem run_cli_executed (names : Names tool rt cfg record vaultKey key) (onChainAddress : String)
    {verdict : AmlVerdict} {oracleKeypair : String} {oracle : Key} {clock : Clock}
    (signature : String) (read : tool.readKeypairFile oracleKeypair = .ok oracle)
    (taken : next rt w ((cliBallot key verdict oracle clock).event vaultKey key) = some w') :
    ∃ members, runCli tool rt (attestArgs cfg record onChainAddress verdict oracleKeypair)
      (.reached clock signature) w = (members, w') ∧ Json.member members "error" = none := by
  have named := names onChainAddress verdict oracleKeypair
  rw [read] at named
  cases executed : exec rt ⟨clock, [oracle], [oracle, key]⟩
      (.attest ⟨oracle, vaultKey, key⟩ verdict Bytes32.zeros) w with
  | error error => simp [next, Ballot.event, cliBallot, executed, Except.toOption] at taken
  | ok result =>
    obtain rfl : result = w' := by
      simpa [next, Ballot.event, cliBallot, executed, Except.toOption] using taken
    refine ⟨[("deposit", .string (tool.pubkeyText key)),
      ("oracle", .string (tool.pubkeyText oracle)), ("verdict", .string (verdictText verdict)),
      ("signature", .string signature)], ?_, ?_⟩
    · simp [runCli, cliAttest, named, Except.mapError, Except.map, executed]
      rfl
    · simp [Json.member]

variable {events : List (Event Key)} {deposit : Deposit Key} {vault : Vault Key}

/-- The loop over the oracles is a canvass of their votes: what is on the deposit after it is
what the abstract canvass of the offered votes leaves.

Proof: by induction on the loop. A run whose vote is accepted lets the loop go on, and one that
is refused or lost ends it, as the canvass does. -/
theorem loop_canvasses (lawful : Lawful rt) (injective : SeedsInjective rt)
    (names : Names tool rt cfg record vaultKey key) (onChainAddress : String)
    (verdict : AmlVerdict) (calls : List (String × Attempt)) (sigs : List String)
    (polled : Polled rt events w key deposit vault) (house : deposit.vault = vaultKey)
    (early : ∀ call ∈ calls, call.2.Before deposit.expireAt) :
    ∃ events' deposit',
      Polled rt events' (attestLoop tool rt cfg record onChainAddress verdict calls sigs w).2 key
        deposit' vault ∧
      deposit.SameTerms deposit' ∧
      deposit'.votes = canvass vault.minAttestations vault.oracleSet deposit.votes
        (calls.map (tool.offer verdict)) := by
  induction calls generalizing events w deposit sigs with
  | nil => exact ⟨events, deposit, polled, .refl _, rfl⟩
  | cons call rest continued =>
    obtain ⟨oracleKeypair, attempt⟩ := call
    rw [List.map_cons, attestLoop]
    cases offered : tool.offer verdict (oracleKeypair, attempt) with
    | none =>
      obtain ⟨message, failed⟩ := run_cli_lost names onChainAddress offered
      rw [failed]
      exact ⟨events, deposit, by simpa [Json.member] using polled, .refl _, rfl⟩
    | some vote =>
      obtain ⟨oracle, clock, signature, read, rfl, rfl⟩ := offer_some offered
      let ballot := cliBallot key verdict oracle clock
      have before : clock.unixTimestamp < deposit.expireAt := early _ List.mem_cons_self
      have valid : ballot.Valid key deposit :=
        ⟨by simp [ballot, cliBallot], by simp [ballot, cliBallot], before⟩
      by_cases accepts :
        Accepts vault.minAttestations vault.oracleSet deposit.votes ballot.attestation.vote
      · obtain ⟨w', taken, voted⟩ := polled.accepted lawful injective valid accepts
        rw [house] at taken
        obtain ⟨members, printed, silent⟩ :=
          run_cli_executed names onChainAddress signature read taken
        have later : ∀ call ∈ rest, call.2.Before
            (deposit.voted vault.minAttestations ballot.attestation).expireAt :=
          fun call member => early call (List.mem_cons_of_mem _ member)
        obtain ⟨events', deposit', polled', terms, votes⟩ :=
          continued (sigs ++ [signatureOf members]) voted house later
        have kept : deposit.SameTerms (deposit.voted vault.minAttestations ballot.attestation) :=
          rfl
        refine ⟨events', deposit', by simpa [printed, silent] using polled', kept.trans terms, ?_⟩
        rw [votes, votes_voted]
        exact (canvass_accepted accepts _).symm
      · have refused := polled.refused lawful injective accepts
        rw [house] at refused
        obtain ⟨message, failed⟩ := run_cli_refused names onChainAddress signature read refused
        rw [failed]
        exact ⟨events, deposit, by simpa [Json.member] using polled, .refl _,
          (canvass_refused accepts _).symm⟩

end Run

section Requests

variable {Key σ : Type} [Store σ] {tool : Tool Key} {rt : Runtime Key} {cfg : Config} {store : σ}
  {inst : Institution} {record : DepositRecord} {verdict : AmlVerdict}

/-- With the record of a deposit the tool votes on that deposit: the keys of the record derive
the address that the deposit has. -/
theorem names_deposit (reads : tool.ReadsHex) {deposit : Deposit Key} {vault : Vault Key}
    {first second : Key} (configured : Configured tool cfg vault first second)
    (recorded : RecordOf tool store inst record deposit) {key : Key}
    (vaultFound : ∃ bump, rt.findProgramAddress (Seeds.vault vault.authority).list =
      some (deposit.vault, bump))
    (depositFound : ∃ bump, rt.findProgramAddress
      (Seeds.deposit deposit.vault deposit.stealthPubkey deposit.ephemeralR).list =
        some (key, bump)) :
    Names tool rt cfg record deposit.vault key := by
  intro onChainAddress verdict oracleKeypair
  obtain ⟨_, vaultFound⟩ := vaultFound
  obtain ⟨_, depositFound⟩ := depositFound
  have ephemeralR : parseHex32 tool (bytesToHex record.ephemeralR) = .ok deposit.ephemeralR := by
    rw [recorded.ephemeralR, parse_hex32_written reads]
  simp only [attestInstruction, attestArgs, bind, Except.bind,
    parse_pubkey_some configured.authority, pda_found vaultFound,
    parse_pubkey_some recorded.stealthPubkey, ephemeralR, pda_found depositFound,
    parse_verdict_text, parse_hex32_default reads]
  cases tool.readKeypairFile oracleKeypair with
  | error message => rfl
  | ok oracle => rfl

variable [DecidableEq Key] [Inhabited Key]

/-- A request that asks for the record runs the loop over the oracles. -/
theorem attest_loop {request : Request} (asks : Asks store inst record verdict request)
    {deposit : Deposit Key} (recorded : RecordOf tool store inst record deposit) (round : Round)
    (w : World Key) :
    ∃ onChainAddress, attest tool rt cfg store request round w =
      attestLoop tool rt cfg record onChainAddress verdict
        [(cfg.oracle1Keypair, round.first), (cfg.oracle2Keypair, round.second)] [] w := by
  obtain ⟨body, sent, parsed⟩ := asks.body
  obtain ⟨address, carried, nonempty⟩ := recorded.onChainAddress
  refine ⟨address, ?_⟩
  simp only [attest, asks.known, sent, parsed, recorded.stored, recorded.owned, carried, ne_eq,
    not_true_eq_false, if_false]

/-- The votes that the runs of a request offer. -/
def offers (tool : Tool Key) (cfg : Config) (verdict : AmlVerdict) (round : Round) :
    List (Option (Vote Key)) :=
  [tool.offer verdict (cfg.oracle1Keypair, round.first),
    tool.offer verdict (cfg.oracle2Keypair, round.second)]

/-- Requests one after the other canvass the votes of their rounds, each on what the last one has
left. -/
theorem requests_canvass (lawful : Lawful rt) (injective : SeedsInjective rt) {vaultKey key : Key}
    (names : Names tool rt cfg record vaultKey key) {original : Deposit Key}
    (recorded : RecordOf tool store inst record original) {events : List (Event Key)}
    {w : World Key} {deposit : Deposit Key} {vault : Vault Key} (requests : List (Request × Round))
    (asked : ∀ request ∈ requests, Asks store inst record verdict request.1)
    (polled : Polled rt events w key deposit vault) (house : deposit.vault = vaultKey)
    (early : ∀ request ∈ requests, request.2.Before deposit.expireAt) :
    ∃ events' deposit',
      Polled rt events' (attestAll tool rt cfg store w requests) key deposit' vault ∧
      deposit'.votes = ((requests.map Prod.snd).map (offers tool cfg verdict)).foldl
        (canvass vault.minAttestations vault.oracleSet) deposit.votes := by
  induction requests generalizing events w deposit with
  | nil => exact ⟨events, deposit, polled, rfl⟩
  | cons request rest continued =>
    obtain ⟨address, looped⟩ :=
      attest_loop (asked request List.mem_cons_self) recorded request.2 w
    obtain ⟨first, second⟩ := early request List.mem_cons_self
    obtain ⟨between, deposit', polled', terms, votes⟩ :=
      loop_canvasses lawful injective names address verdict
        [(cfg.oracle1Keypair, request.2.first), (cfg.oracle2Keypair, request.2.second)] []
        polled house (by simpa using ⟨first, second⟩)
    have house' : deposit'.vault = vaultKey := by rw [terms]; exact house
    have expiry : deposit'.expireAt = deposit.expireAt := by rw [terms]
    have later : ∀ other ∈ rest, other.2.Before deposit'.expireAt := by
      intro other member
      rw [expiry]
      exact early other (List.mem_cons_of_mem _ member)
    rw [← looped] at polled'
    obtain ⟨events', final, polled'', polls⟩ := continued
      (fun other member => asked other (List.mem_cons_of_mem _ member)) polled' house' later
    exact ⟨events', final, polled'', by rw [polls, votes]; rfl⟩

omit [DecidableEq Key] [Inhabited Key] in
/-- What a request offers when the key files can be read. -/
theorem offers_read {vault : Vault Key} {first second : Key}
    (configured : Configured tool cfg vault first second) (round : Round) :
    offers tool cfg verdict round =
      [if round.first.reaches then some ⟨first, verdict = .dirty⟩ else none,
        if round.second.reaches then some ⟨second, verdict = .dirty⟩ else none] := by
  rw [offers, offer_read configured.first, offer_read configured.second]

omit [Inhabited Key] in
/-- Of all rounds the first whose first run reaches the chain is the one that counts: those
before it leave no vote, and those behind it are refused at their first. -/
theorem rounds_first {vault : Vault Key} {first second : Key}
    (configured : Configured tool cfg vault first second) {threshold : Nat} {electorate : List Key}
    (positive : 0 < threshold) (listed : first ∈ electorate) {rounds : List Round} {round : Round}
    (located : rounds.find? (·.first.reaches) = some round) :
    (rounds.map (offers tool cfg verdict)).foldl (canvass threshold electorate) [] =
      canvass threshold electorate [] (offers tool cfg verdict round) := by
  let vote : Vote Key := ⟨first, verdict = .dirty⟩
  have opening : ∀ other, (offers tool cfg verdict other).head? =
      some (if other.first.reaches then some vote else none) := by
    intro other
    rw [offers_read configured, List.head?_cons]
  have opened : ∀ offered ∈ rounds.map (offers tool cfg verdict),
      offered.head? = some none ∨ offered.head? = some (some vote) := by
    intro offered member
    obtain ⟨other, _, rfl⟩ := List.mem_map.mp member
    rw [opening]
    split
    · exact .inr rfl
    · exact .inl rfl
  have same : ((fun offered => decide (offered.head? = some (some vote))) ∘
      offers tool cfg verdict) = fun other => other.first.reaches := by
    funext other
    simp [opening]
  rw [canvasses_first positive listed _ opened, List.find?_map, same, located]
  rfl

/-- A pending deposit without votes in a reachable world, in a vault of a threshold of at
most two that the router is configured for, and its record. -/
structure Awaiting (tool : Tool Key) (rt : Runtime Key) (cfg : Config) (store : σ)
    (inst : Institution) (record : DepositRecord) (events : List (Event Key)) (w : World Key)
    (key : Key) (deposit : Deposit Key) (vault : Vault Key) (first second : Key) : Prop where
  reached : Reached rt events w
  found : depositAt w key = some deposit
  house : vaultAt w deposit.vault = some vault
  pending : deposit.state = .pending
  unvoted : deposit.attestations = []
  small : vault.minAttestations ≤ 2
  configured : Configured tool cfg vault first second
  firstListed : first ∈ vault.oracleSet
  secondListed : second ∈ vault.oracleSet
  recorded : RecordOf tool store inst record deposit

/-- A request whose runs reach the chain in time decides the deposit, if the oracles are
distinct. -/
theorem attest_decides (lawful : Lawful rt) (injective : SeedsInjective rt) (reads : tool.ReadsHex)
    {events : List (Event Key)} {w : World Key} {key first second : Key} {deposit : Deposit Key}
    {vault : Vault Key}
    (awaiting : Awaiting tool rt cfg store inst record events w key deposit vault first second)
    (distinct : first ≠ second) {request : Request} (asks : Asks store inst record verdict request)
    {round : Round} (early : round.Before deposit.expireAt) (begun : round.first.reaches = true)
    (ended : round.second.reaches = true) :
    ∃ decided, depositAt (attest tool rt cfg store request round w).2 key = some decided ∧
      decided.state = verdictTarget verdict := by
  have at_key := deposit_at_iff.mp awaiting.found
  have at_house := vault_at_iff.mp awaiting.house
  have polled := Polled.of_pending lawful injective awaiting.reached at_key at_house
    awaiting.pending
  have positive := ((awaiting.reached.sound lawful).vaults _ _ at_house).positive
  have names := names_deposit reads awaiting.configured awaiting.recorded
    (awaiting.reached.vault_found lawful at_house) (awaiting.reached.deposit_found lawful at_key)
  obtain ⟨events', decided, polled', votes⟩ := requests_canvass lawful injective names
    awaiting.recorded [(request, round)] (by simpa using asks) polled rfl (by simpa using early)
  have unvoted : deposit.votes = [] := by simp [Deposit.votes, awaiting.unvoted]
  have both : outcome vault.minAttestations decided.votes = decision (verdict = .dirty) := by
    rw [votes, unvoted, List.map_singleton, List.map_singleton, List.foldl_cons, List.foldl_nil,
      offers_read awaiting.configured, if_pos begun]
    exact (canvass_pair_decides_iff _ _ positive awaiting.small awaiting.firstListed
      awaiting.secondListed).mpr (.inr ⟨distinct, ended⟩)
  refine ⟨decided, deposit_at_iff.mpr polled'.at_key, ?_⟩
  rw [polled'.agrees, both, verdict_target]

/-- Requests of which the last meets no failure on the way decide the deposit exactly when one
vote decides, or when the oracles are distinct and the first request to cast a vote was not cut
off between the two. A request that finds the first oracle's vote already cast stops at its
refusal, and never asks the second oracle.

Proof: by induction on the requests, with the votes that are on the deposit after them: none
before the first run that reaches the chain, then the first oracle's and, if that request went
on, the second's. No later request adds to them. -/
theorem attest_retryable_iff (lawful : Lawful rt) (injective : SeedsInjective rt)
    (reads : tool.ReadsHex) {events : List (Event Key)} {w : World Key} {key first second : Key}
    {deposit : Deposit Key} {vault : Vault Key}
    (awaiting : Awaiting tool rt cfg store inst record events w key deposit vault first second)
    {requests : List (Request × Round)} {last : Request × Round}
    (asked : ∀ request ∈ requests ++ [last], Asks store inst record verdict request.1)
    (early : ∀ request ∈ requests ++ [last], request.2.Before deposit.expireAt)
    (clear : last.2.first.reaches = true ∧ last.2.second.reaches = true) :
    (depositAt (attestAll tool rt cfg store w (requests ++ [last])) key).map Deposit.state =
        some (verdictTarget verdict) ↔
      vault.minAttestations = 1 ∨
        (first ≠ second ∧ Uninterrupted ((requests ++ [last]).map Prod.snd)) := by
  have at_key := deposit_at_iff.mp awaiting.found
  have at_house := vault_at_iff.mp awaiting.house
  have polled := Polled.of_pending lawful injective awaiting.reached at_key at_house
    awaiting.pending
  have positive := ((awaiting.reached.sound lawful).vaults _ _ at_house).positive
  have names := names_deposit reads awaiting.configured awaiting.recorded
    (awaiting.reached.vault_found lawful at_house) (awaiting.reached.deposit_found lawful at_key)
  obtain ⟨events', final, polled', votes⟩ := requests_canvass lawful injective names
    awaiting.recorded (requests ++ [last]) asked polled rfl early
  -- the last round is one whose first run is not lost, so that there is a first such
  obtain ⟨round, located⟩ : ∃ round,
      ((requests ++ [last]).map Prod.snd).find? (·.first.reaches) = some round :=
    Option.isSome_iff_exists.mp (List.find?_isSome.mpr ⟨last.2, by simp, clear.1⟩)
  have reached := List.find?_some located
  have unvoted : deposit.votes = [] := by simp [Deposit.votes, awaiting.unvoted]
  rw [unvoted, rounds_first awaiting.configured positive awaiting.firstListed located,
    offers_read awaiting.configured, if_pos reached] at votes
  have uninterrupted : Uninterrupted ((requests ++ [last]).map Prod.snd) ↔
      round.second.reaches = true := by
    rw [Uninterrupted, located]
    simp
  rw [deposit_at_iff.mpr polled'.at_key, Option.map_some, Option.some.injEq, polled'.agrees,
    verdict_target, state_of_injective.eq_iff, votes, uninterrupted]
  exact canvass_pair_decides_iff _ _ positive awaiting.small awaiting.firstListed
    awaiting.secondListed

end Requests

namespace Local

open Digits
open Gateway.Local (memory institution)
open Quarantine.Local (runtime after freshDeposit depositKey second wallets)

/-- The router of the sample, with the operator's key and the key files of two oracles. -/
def cfg : Config :=
  ⟨base58Text (toLittleEndian 32 1), "/config/oracles/o1.json", "/config/oracles/o2.json"⟩

/-- Bytes of an address: a wallet's number. -/
def bytesOf : Address → List UInt8
  | .wallet number => toLittleEndian 32 number
  | _ => Bytes32.zeros.val

/-- Two key files, and the texts of the wallets. -/
def tool : Tool Address where
  readKeypairFile path :=
    if path = cfg.oracle1Keypair then .ok (.wallet 2)
    else if path = cfg.oracle2Keypair then .ok (.wallet 3)
    else .error "No such file or directory (os error 2)"
  pubkeyFromStr text := wallets.find? (fun key => base58Text (bytesOf key) = text)
  hexDecode text := some (decodeHex text.toList)
  pubkeyText key := base58Text (bytesOf key)
  refusalText _ := "custom program error"
  failureText stderr := "Command failed: gpay-cli attest\n" ++ stderr

/-- The sample's tool reads what was written in hexadecimal digits. -/
theorem tool_reads : tool.ReadsHex := by
  intro bytes
  rw [bytes_to_hex_eq]
  show some (decodeHex (String.ofList (encodeHex bytes)).toList) = some bytes
  rw [String.toList_ofList, decode_encode_hex]

/-- The address of the deposit under vote, as it was stored. -/
def create : DepositCreate where
  institutionId := institution.id
  customerId := "C-1"
  amountHint := 500
  mint := "SOL"
  stealthPubkey := toLittleEndian 32 8
  ephemeralR := Bytes32.zeros.val
  viewTag := 0
  refundAddr := toLittleEndian 32 6
  expiresAt := 3600000

/-- The record once the indexer has found the deposit. -/
def record : DepositRecord :=
  (create.record (depositId 1) 1000).observe "deposit" 500 "pending" 2000

/-- A store with one record, which shows the deposit. -/
def store : MemoryStore :=
  ((memory.createDeposit ⟨1000, 1000, 0⟩ create).2.applyOnChainMatch ⟨2000, 2000, 0⟩
    (bytesToHex create.stealthPubkey) "deposit" 500 "pending").2

/-- A request to clear the deposit. -/
def request : Request :=
  ⟨.paymentStatus record.id, some institution.apiKey, none,
    some (.object [("deposit_id", .string record.id), ("verdict", .string "clean")])⟩

/-- Both runs of the tool reach the chain. -/
def clear (now : Nat) : Round :=
  ⟨.reached (second now) "first", .reached (second now) "second"⟩

/-- The second run is cut off. -/
def cutOff (now : Nat) : Round := ⟨.reached (second now) "first", .lost "timed out"⟩

/-- The first run is cut off, so that the second is not made. -/
def notBegun : Round := ⟨.lost "timed out", .lost ""⟩

/-- The fresh deposit awaits the votes of the router's two oracles. -/
theorem fresh_awaiting : Awaiting tool runtime cfg store institution record freshDeposit
    (after freshDeposit) depositKey (Quarantine.Local.fresh 1001 default 500)
    (Quarantine.Local.openedVault Quarantine.Local.oracles 2 1) (.wallet 2) (.wallet 3) where
  reached := Quarantine.Local.fresh_reached
  found := fresh_found
  house := fresh_house
  pending := rfl
  unvoted := rfl
  small := le_rfl
  configured := ⟨by decide +kernel, rfl, by decide +kernel⟩
  firstListed := by decide
  secondListed := by decide
  recorded := ⟨by decide +kernel, rfl, ⟨"deposit", rfl, by decide⟩, by decide +kernel, rfl⟩

/-- The institution asks for a clean verdict on its record. -/
theorem request_asks : Asks store institution record .clean request :=
  ⟨by rfl, _, rfl, by rfl⟩

/-- A request that met a failure before the first vote is repeated with success. -/
theorem retried_approved :
    (depositAt (attestAll tool runtime cfg store (after freshDeposit)
      ([(request, notBegun)] ++ [(request, clear 1003)])) depositKey).map Deposit.state =
        some .approved := by
  have asked : ∀ sent ∈ [(request, notBegun)] ++ [(request, clear 1003)],
      Asks store institution record .clean sent.1 := by
    simpa using request_asks
  have early : ∀ sent ∈ [(request, notBegun)] ++ [(request, clear 1003)],
      sent.2.Before (Quarantine.Local.fresh 1001 default 500).expireAt := by
    simp [Round.Before, Attempt.Before, notBegun, clear, second, Quarantine.Local.fresh]
  have uninterrupted :
      Uninterrupted (([(request, notBegun)] ++ [(request, clear 1003)]).map Prod.snd) := by
    intro round found
    obtain rfl : clear 1003 = round := Option.some.inj found
    rfl
  exact (attest_retryable_iff Quarantine.Local.runtime_lawful Quarantine.Local.runtime_injective
    tool_reads fresh_awaiting asked early ⟨rfl, rfl⟩).mpr (.inr ⟨by decide, uninterrupted⟩)

/-- After a request that was cut off between its votes, one that meets no failure on
the way does not decide the deposit. -/
theorem cut_off_pending :
    Awaiting tool runtime cfg store institution record freshDeposit (after freshDeposit) depositKey
      (Quarantine.Local.fresh 1001 default 500)
      (Quarantine.Local.openedVault Quarantine.Local.oracles 2 1) (.wallet 2) (.wallet 3) ∧
    Asks store institution record .clean request ∧
    (cutOff 1002).Before 4601 ∧ (clear 1003).Before 4601 ∧
    (clear 1003).first.reaches = true ∧ (clear 1003).second.reaches = true ∧
    (depositAt (attestAll tool runtime cfg store (after freshDeposit)
      ([(request, cutOff 1002)] ++ [(request, clear 1003)])) depositKey).map Deposit.state =
        some .pending := by
  refine ⟨fresh_awaiting, request_asks, ⟨?_, trivial⟩, ⟨?_, ?_⟩, rfl, rfl, ?_⟩
  · show (second 1002).unixTimestamp < 4601
    decide
  · show (second 1003).unixTimestamp < 4601
    decide
  · show (second 1003).unixTimestamp < 4601
    decide
  · decide +kernel

end Local

end GPay.Demo
