import GPay.Delivery
import GPay.Quarantine.History

/-!
# The vault behind an approval

Chain, indexer and gateway as one system. Anybody may open vaults under oracles of
their own and make deposits in them under any key, the issued ones included; only the
indexer knows the internal secret. A match names neither the vault nor the release
authority of the deposit it reports, so that the gateway approves a record whichever
oracles cleared a deposit with its key.

An approval is backed by the operator's vault when the deposit that it reports was
opened in that vault, for the record's institution.
-/

namespace GPay.Custody

open Solana Runs Stealth Indexing Gateway LawfulStore Delivery
open Quarantine (Opening Deposit DepositState depositAt)

/-- The parts of a deployment: the chain's runtime, the libraries, the reading of accounts, the
indexer with its slices and the gateway's environment, and the authority of the operator's vault,
which no part of it ever looks at. -/
structure Deployment (Point Key : Type) where
  runtime : Quarantine.Runtime Key
  crypto : Primitives Point
  format : AccountFormat Key
  indexer : Indexer Point
  env : Env Point
  vaultAuthority : Key

/-- The chain, the gateway's store, and the matches that the indexer has found. A match stays
among the found ones after its delivery, so that it may be delivered again. -/
structure System (σ Key : Type) where
  world : Quarantine.World Key
  gateway : σ
  found : List (PaymentMatch Key)

/-- A step on chain, a call to the gateway, a pass over the accounts that the RPC node
answers, or the delivery of a match. -/
inductive Happening (Key : Type) where
  | chain (event : Quarantine.Event Key)
  | request (served : Served)
  | pass (accounts : List (Key × List UInt8))
  | deliver (m : PaymentMatch Key) (served : Served)

namespace Happening

variable {Key : Type}

/-- The call that the event makes to the gateway, if it makes one, with its answer. -/
def served : Happening Key → Option Served
  | .request served => some served
  | .deliver _ served => some served
  | _ => none

/-- The match that is delivered, if that is what happens in the event. -/
def reported : Happening Key → Option (PaymentMatch Key)
  | .deliver m _ => some m
  | _ => none

/-- The event on chain, if that is what happens. Passes, requests and deliveries are none. -/
def onChain : Happening Key → Option (Quarantine.Event Key)
  | .chain event => some event
  | _ => none

end Happening

section

variable {Point Key σ : Type} [AddCommGroup Point] [DecidableEq Key] [Inhabited Key] [Store σ]

/-- What deserialises among the accounts is the deposit stored at that address. So the RPC node
invents nothing, but may leave out what it likes. -/
def Truthful (format : AccountFormat Key) (w : Quarantine.World Key)
    (accounts : List (Key × List UInt8)) : Prop :=
  ∀ account ∈ accounts, ∀ deposit, format.tryDeserialize account.2 = some deposit →
    depositAt w account.1 = some deposit

/-- What can happen: a step of the chain, a request of somebody who does not know the internal
secret, a pass of the indexer over what is on chain at that time, and the delivery of a match at
any time after it was found, also late and more than once. -/
inductive Step (d : Deployment Point Key) : System σ Key → Happening Key → System σ Key → Prop
  | chain {s : System σ Key} {event : Quarantine.Event Key} {world : Quarantine.World Key}
      (taken : Quarantine.Step d.runtime s.world event world) :
      Step d s (.chain event) { s with world }
  | request {s : System σ Key} {served : Served} {gateway : σ}
      (outsider : served.call.request.internalSecret ≠ some d.env.expectedSecret)
      (answered : serve d.env s.gateway served.call = (served.response, gateway)) :
      Step d s (.request served) { s with gateway }
  | pass {s : System σ Key} {accounts : List (Key × List UInt8)} {found : List (PaymentMatch Key)}
      (truthful : Truthful d.format s.world accounts)
      (ended : scanProgramAccounts d.crypto d.format (.ok accounts) d.indexer = .ok found) :
      Step d s (.pass accounts) { s with found := s.found ++ found }
  | deliver {s : System σ Key} {m : PaymentMatch Key} {served : Served} {gateway : σ}
      (known : m ∈ s.found)
      (posted : served.call.request = notifyMatch d.format.asRef d.env.expectedSecret m)
      (answered : serve d.env s.gateway served.call = (served.response, gateway)) :
      Step d s (.deliver m served) { s with gateway }

/-- The address of the operator's vault. -/
def vaultOf (d : Deployment Point Key) : Option Key :=
  (d.runtime.findProgramAddress (Quarantine.Seeds.vault d.vaultAuthority).list).map Prod.fst

/-- If the event opens a deposit at the address, then in the operator's vault and under
the release authority of the institution. -/
def OpensFor (d : Deployment Point Key) (inst : Institution) (key : Key)
    (event : Quarantine.Event Key) : Prop :=
  ∀ opening, event.opening = some opening → opening.deposit = key →
    vaultOf d = some opening.vault ∧
      (d.format.asRef opening.args.releaseAuthority).val = inst.releaseAuthority

instance (d : Deployment Point Key) (inst : Institution) (key : Key)
    (event : Quarantine.Event Key) : Decidable (OpensFor d inst key event) :=
  match opened : event.opening with
  | none => isTrue (fun _ found => by simp [opened] at found)
  | some opening =>
      decidable_of_iff (opening.deposit = key → vaultOf d = some opening.vault ∧
        (d.format.asRef opening.args.releaseAuthority).val = inst.releaseAuthority)
        (by simp [OpensFor, opened])

/-- In the course of the run a deposit with the record's key has been approved in the
operator's vault, under the release authority of the institution. -/
def Backed (d : Deployment Point Key) (start : System σ Key) (events : List (Happening Key))
    (inst : Institution) (record : DepositRecord) : Prop :=
  ∃ earlier later past key deposit, events = earlier ++ later ∧ Run (Step d) start earlier past ∧
    depositAt past.world key = some deposit ∧ deposit.state = .approved ∧
    (d.format.asRef deposit.stealthPubkey).val = record.stealthPubkey ∧
    vaultOf d = some deposit.vault ∧
      (d.format.asRef deposit.releaseAuthority).val = inst.releaseAuthority

end

section

variable {Point Key σ : Type} [LawfulStore σ]

/-- The call writes to a record of the institution that it is approved: it is a delivery that is
not refused, it reports the state `approved`, and the record is one that it touches. -/
structure Approves (env : Env Point) (gateway : σ) (call : Call) (inst : Institution)
    (record : DepositRecord) : Prop where
  route : call.request.route = .depositDetected
  stored : record ∈ records gateway
  owner : inst ∈ institutions gateway ∧ inst.id = record.institutionId
  written : ∃ stealthHex body, deliveryArguments env call.request = .ok (stealthHex, body) ∧
    touches gateway stealthHex record = true ∧ body.state = .approved

/-- A record becomes approved in no other way than by such a call: of all that the gateway
answers only a delivered match writes that state. -/
theorem becomes_approved {env : Env Point} {gateway after : σ} {call : Call} {response : Response}
    (answered : serve env gateway call = (response, after)) {inst : Institution}
    {record later : DepositRecord}
    (stored : record ∈ records gateway) (kept : later ∈ records after) (same : later.id = record.id)
    (owner : inst ∈ institutions gateway ∧ inst.id = record.institutionId)
    (waiting : record.state ≠ .approved) (approved : later.state = .approved) :
    Approves env gateway call inst record := by
  have only : ∀ other ∈ records gateway, other.id = record.id → other = record :=
    fun other present named => List.inj_on_of_nodup_map (distinct gateway) present stored named
  cases answered_effect answered with
  | kept quiet => exact absurd (only later kept same ▸ approved) waiting
  | created route known added =>
    obtain ⟨_, appended, _⟩ := create_deposit _ _ _ _ _ added
    have present : record ∈ records after := appended ▸ List.mem_append_left _ stored
    have unchanged : later = record := List.inj_on_of_nodup_map (distinct after) kept present same
    exact absurd (unchanged ▸ approved) waiting
  | @settled inst settlement dep requested known checked =>
    rw [set_records] at kept
    obtain ⟨other, present, rfl⟩ := List.mem_map.mp kept
    obtain rfl := only other present ((other.settled_id _ _).symm.trans same)
    unfold DepositRecord.settled at approved
    split at approved
    · have decided := settlement.decides
      rw [show settlement.target = .approved from approved] at decided
      cases decided
    · exact absurd approved waiting
  | @delivered _ _ stealthHex body result route arguments applied =>
    obtain ⟨_, now, changed, _⟩ := apply_match _ _ _ _ _ _ _ _ applied
    rw [changed] at kept
    obtain ⟨other, present, rfl⟩ := List.mem_map.mp kept
    have named : other.id = record.id := by
      rw [← same]
      split <;> rfl
    obtain rfl := only other present named
    split at approved
    · rename_i touched
      refine ⟨route, stored, owner, stealthHex, body, arguments, touched, ?_⟩
      rw [observe_state] at approved
      split at approved
      · exact absurd approved waiting
      · exact approved
    · exact absurd approved waiting

variable [AddCommGroup Point] [DecidableEq Key] [Inhabited Key] {d : Deployment Point Key}
  {start before after : System σ Key} {events : List (Happening Key)} {event : Happening Key}

/-- The steps on chain are a run of the program. -/
theorem chain_run (run : Run (Step d) start events before) :
    Run (Quarantine.Step d.runtime) start.world (events.filterMap Happening.onChain)
      before.world := by
  induction run with
  | nil => exact Run.nil
  | snoc earlier last projected =>
    rw [List.filterMap_append]
    cases last with
    | chain taken => exact projected.snoc taken
    | request outsider answered => simpa [List.filterMap, Happening.onChain] using projected
    | pass truthful ended => simpa [List.filterMap, Happening.onChain] using projected
    | deliver known posted answered => simpa [List.filterMap, Happening.onChain] using projected

omit [LawfulStore σ] [DecidableEq Key] [Inhabited Key] in
/-- What a pass reports was stored at that time. -/
theorem pass_sighted {accounts : List (Key × List UInt8)} {found : List (PaymentMatch Key)}
    (truthful : Truthful d.format before.world accounts)
    (ended : scanProgramAccounts d.crypto d.format (.ok accounts) d.indexer = .ok found)
    {m : PaymentMatch Key} (listed : m ∈ found) :
    ∃ deposit, depositAt before.world m.depositPubkey = some deposit ∧
      m.stealthPubkey = deposit.stealthPubkey ∧ m.state = deposit.state := by
  rcases scan_accounts_match ended listed with none | ⟨account, member, deposit, sliceId, read, rfl⟩
  · cases none
  · exact ⟨deposit, truthful account member deposit read, rfl, rfl⟩

/-- Every match that was ever found reports a deposit as it was stored in the course of the run,
when a pass read it.

Proof: by induction on the run. A pass adds what it has read, and no other step adds a match. -/
theorem found_sighted (idle : start.found = []) (run : Run (Step d) start events before)
    {m : PaymentMatch Key} (known : m ∈ before.found) :
    ∃ earlier later past deposit, events = earlier ++ later ∧ Run (Step d) start earlier past ∧
      depositAt past.world m.depositPubkey = some deposit ∧
      m.stealthPubkey = deposit.stealthPubkey ∧ m.state = deposit.state := by
  induction run with
  | nil => simp [idle] at known
  | @snoc events middle finish event earlier last sighted =>
    have before : m ∈ middle.found → ∃ first rest past deposit, events ++ [event] = first ++ rest ∧
        Run (Step d) start first past ∧ depositAt past.world m.depositPubkey = some deposit ∧
        m.stealthPubkey = deposit.stealthPubkey ∧ m.state = deposit.state := by
      intro listed
      obtain ⟨first, rest, past, deposit, rfl, reached, read⟩ := sighted listed
      exact ⟨first, rest ++ [event], past, deposit, by simp, reached, read⟩
    cases last with
    | chain taken => exact before known
    | request outsider answered => exact before known
    | deliver listed posted answered => exact before known
    | pass truthful ended =>
      rcases List.mem_append.mp known with listed | new
      · exact before listed
      · obtain ⟨deposit, read⟩ := pass_sighted truthful ended new
        exact ⟨events, _, middle, deposit, rfl, earlier, read⟩

omit [AddCommGroup Point] in
/-- Without the secret nothing is written to a record. -/
theorem outsider_refused {env : Env Point} {request : Request}
    (outsider : request.internalSecret ≠ some env.expectedSecret) :
    deliveryArguments env request = .error (.error 403 "forbidden" []) := by
  rw [deliveryArguments, if_pos (.inr (.inr outsider))]

/-- An approval is the delivery of a match that was found, that reports the record's key, and
that reports it as approved: outsiders are refused for want of the secret. -/
theorem approved_match (taken : Step d before event after) {served : Served}
    (calls : event.served = some served) {inst : Institution} {record : DepositRecord}
    (approves : Approves d.env before.gateway served.call inst record) :
    ∃ m, event.reported = some m ∧ m ∈ before.found ∧ m.state = .approved ∧
      (d.format.asRef m.stealthPubkey).val = record.stealthPubkey := by
  obtain ⟨stealthHex, body, arguments, touched, approved⟩ := approves.written
  cases taken with
  | chain taken => cases calls
  | pass truthful ended => cases calls
  | request outsider answered =>
    obtain rfl := Option.some.inj calls
    rw [outsider_refused outsider] at arguments
    cases arguments
  | @deliver m delivered gateway known posted answered =>
    obtain rfl := Option.some.inj calls
    rw [posted] at arguments
    obtain ⟨rfl, same⟩ := delivery_arguments_of_match d.format.asRef arguments
    exact ⟨m, rfl, known, same.symm.trans approved,
      (touched_key before.gateway _ record approves.stored touched).symm⟩

/-- Whatever parties do on chain and whatever is delivered when: an approval of an institution's
record is backed by a deposit in the operator's vault that was approved on chain when a pass read
it, carries the record's key and names the institution as its release authority. The condition is
that the address which the approving delivery reports was only ever opened in that vault and for
that institution.

Proof: an approval comes with a delivery, a delivery with a match, and a match with a pass that
read the deposit. The deposit has the vault and the authority that its creation gave it, and the
creation is one of the openings that the condition is about. -/
theorem approvals_backed (lawful : Lawful d.runtime) (genesis : Genesis start.world)
    (idle : start.found = [])
    (run : Run (Step d) start events before) (taken : Step d before event after) {served : Served}
    (calls : event.served = some served) {inst : Institution} {record : DepositRecord}
    (approves : Approves d.env before.gateway served.call inst record)
    (opened : ∀ m, event.reported = some m → ∀ earlier ∈ events.filterMap Happening.onChain,
      OpensFor d inst m.depositPubkey earlier) :
    Backed d start events inst record := by
  obtain ⟨m, reported, known, approved, keyed⟩ := approved_match taken calls approves
  obtain ⟨earlier, later, past, deposit, rfl, reached, read, key, state⟩ :=
    found_sighted idle run known
  have stored : past.world.data m.depositPubkey = .program (.deposit deposit) :=
    Quarantine.deposit_at_iff.mp read
  obtain ⟨first, since, ctx, instruction, opening, created⟩ :=
    Quarantine.run_created lawful genesis (chain_run reached) stored
  have listed : Quarantine.Event.call ctx instruction ∈
      (earlier ++ later).filterMap Happening.onChain := by
    rw [List.filterMap_append, created.listed]
    simp
  obtain ⟨vault, authority⟩ := opened m reported _ listed opening created.view created.here
  refine ⟨earlier, later, past, m.depositPubkey, deposit, rfl, reached, read, state ▸ approved,
    ?_, ?_, ?_⟩
  · rw [← key, keyed]
  · rw [created.fields.1, vault]
  · rw [created.fields.2.1, authority]

/-- Whatever backs an approval was opened in the operator's vault. -/
theorem backed_opened (lawful : Lawful d.runtime) (genesis : Genesis start.world)
    {inst : Institution} {record : DepositRecord} (backed : Backed d start events inst record) :
    ∃ event ∈ events.filterMap Happening.onChain, ∃ opening, event.opening = some opening ∧
      vaultOf d = some opening.vault := by
  obtain ⟨earlier, later, past, key, deposit, rfl, reached, read, _, _, vault, _⟩ := backed
  obtain ⟨first, since, ctx, instruction, opening, created⟩ :=
    Quarantine.run_created lawful genesis (chain_run reached) (Quarantine.deposit_at_iff.mp read)
  refine ⟨.call ctx instruction, ?_, opening, created.view, ?_⟩
  · rw [List.filterMap_append, created.listed]
    simp
  · rw [vault, created.fields.1]

/-- A pass before anything was found. -/
theorem first_pass {w : Quarantine.World Key} (gateway : σ) {accounts : List (Key × List UInt8)}
    {found : List (PaymentMatch Key)} (truthful : Truthful d.format w accounts)
    (ended : scanProgramAccounts d.crypto d.format (.ok accounts) d.indexer = .ok found) :
    Step d ⟨w, gateway, []⟩ (.pass accounts) ⟨w, gateway, found⟩ :=
  .pass truthful ended

/-- A run of the program is a run of the system that leaves the rest alone. -/
theorem run_chain {w w' : Quarantine.World Key} {steps : List (Quarantine.Event Key)}
    (run : Run (Quarantine.Step d.runtime) w steps w') (gateway : σ)
    (found : List (PaymentMatch Key)) :
    Run (Step d) ⟨w, gateway, found⟩ (steps.map .chain) ⟨w', gateway, found⟩ := by
  induction run with
  | nil => exact Run.nil
  | snoc earlier last lifted =>
    rw [List.map_append]
    exact lifted.snoc (.chain last)

end

namespace Local

open Quarantine.Plain Gateway.Local Delivery.Local Stealth.Sample
open Indexing.Sample (indexer sampleFormat accountOf payment)

/-- A vote on the deposit of the payment, by an oracle of the payer's vault. -/
def decoyVote (now : Nat) (oracle : Bytes32) : Quarantine.Event Bytes32 :=
  .call (context now) (.attest ⟨oracle, wallet 100, wallet 262⟩ .clean Bytes32.zeros)

/-- A vault of the payer's, a deposit in it with the key of the issued address, and the
votes of the payer's own oracles that clear it. -/
def decoySteps : List (Quarantine.Event Bytes32) :=
  [openVault, depositFor 1001 6 issued.ephemeralR issued.viewTag, decoyVote 1002 (wallet 2),
    decoyVote 1003 (wallet 3)]

/-- The deposit after the votes. -/
def cleared : Deposit Bytes32 :=
  { payment with
    state := .approved
    attestations :=
      [⟨wallet 2, .clean, 1002, Bytes32.zeros⟩, ⟨wallet 3, .clean, 1003, Bytes32.zeros⟩]
    cleanCount := 2 }

/-- The system under an operator whose vault has that authority. -/
def deployment (vaultAuthority : Bytes32) : Deployment Scalar Bytes32 :=
  ⟨runtime derive, primitives, sampleFormat, indexer, Gateway.Local.env, vaultAuthority⟩

/-- What the RPC node answers, the match that is found in it, and its delivery. -/
def accounts : List (Bytes32 × List UInt8) := [accountOf (wallet 262) cleared]

/-- The match that the pass finds. -/
def sighting : PaymentMatch Bytes32 := paymentMatch 1 (wallet 262) cleared

/-- Its delivery. -/
def delivery : Call :=
  ⟨notifyMatch sampleFormat.asRef Gateway.Local.env.expectedSecret sighting, ⟨2000, 2000, 0⟩, []⟩

/-- The calls of the run with their answers. -/
def issuing : Served := ⟨create, (serve Gateway.Local.env memory create).1⟩

/-- The delivery with its answer. -/
def delivering : Served := ⟨delivery, (serve Gateway.Local.env issuedStore delivery).1⟩

/-- An address is issued, the deposit made and cleared, and a pass reads it. -/
def history : List (Happening Bytes32) :=
  .request issuing :: decoySteps.map .chain ++ [.pass accounts]

/-- The system before the run and after it. -/
def quiet : System MemoryStore Bytes32 := ⟨start, memory, []⟩

/-- The system when the pass has ended. -/
def scanned : System MemoryStore Bytes32 := ⟨after decoySteps, issuedStore, [sighting]⟩

/-- The cleared deposit is on chain by then. -/
theorem cleared_stored : depositAt (after decoySteps) (wallet 262) = some cleared := by
  decide +kernel

/-- The account of the deposit is read as what is stored. -/
theorem accounts_truthful : Truthful sampleFormat (after decoySteps) accounts := by
  intro account member deposit read
  have reads : sampleFormat.tryDeserialize (accountOf (wallet 262) cleared).2 = some cleared := by
    decide +kernel
  rw [List.mem_singleton.mp member] at read ⊢
  rw [← Option.some.inj (reads.symm.trans read)]
  exact cleared_stored

/-- The pass finds the deposit. -/
theorem pass_ended :
    scanProgramAccounts primitives sampleFormat (.ok accounts) indexer = .ok [sighting] := by
  decide +kernel

/-- The run does not depend on which vault the operator has. -/
theorem history_run (vaultAuthority : Bytes32) :
    Run (Step (deployment vaultAuthority)) quiet history scanned := by
  have outsider : issuing.call.request.internalSecret ≠ some Gateway.Local.env.expectedSecret := by
    decide +kernel
  have first :
      Step (deployment vaultAuthority) quiet (.request issuing) ⟨quiet.world, issuedStore, []⟩ :=
    .request outsider rfl
  have onChain :
      Run (Quarantine.Step (runtime derive)) quiet.world decoySteps (after decoySteps) :=
    after_run (by decide +kernel)
  have truthful :
      Truthful (deployment vaultAuthority).format (after decoySteps) accounts := by
    dsimp only [deployment]
    exact accounts_truthful
  have ended :
      scanProgramAccounts (deployment vaultAuthority).crypto (deployment vaultAuthority).format
        (.ok accounts) (deployment vaultAuthority).indexer = .ok [sighting] := by
    dsimp only [deployment]
    exact pass_ended
  have last := first_pass issuedStore truthful ended
  have reported := run_chain (d := deployment vaultAuthority) onChain issuedStore []
  exact (Run.cons first reported).snoc last

/-- The first record, which is the only one. -/
def issuedRecord : DepositRecord := (records issuedStore).head (by decide +kernel)

/-- What happens on chain in the run. -/
theorem history_on_chain : history.filterMap Happening.onChain = decoySteps := rfl

/-- The delivery of the match approves the record. -/
theorem decoy_approves :
    Approves Gateway.Local.env issuedStore delivery institution issuedRecord where
  route := rfl
  stored := List.head_mem _
  owner := by decide +kernel
  written := by
    have secret : Gateway.Local.env.expectedSecret ≠ "" := by decide
    have small : sighting.amount < 2 ^ 53 := by decide +kernel
    exact ⟨_, _, delivery_arguments_match sampleFormat.asRef Gateway.Local.env secret small,
      by decide +kernel, by decide +kernel⟩

/-- The delivery is a step of the system. -/
theorem decoy_delivered (vaultAuthority : Bytes32) : Step (deployment vaultAuthority) scanned
    (.deliver sighting delivering)
    { scanned with gateway := (serve Gateway.Local.env issuedStore delivery).2 } :=
  .deliver (List.mem_singleton.mpr rfl) rfl rfl

/-- When the payer is the operator, the approval is backed. -/
theorem operator_backed :
    Backed (deployment (wallet 1)) quiet history institution issuedRecord := by
  refine approvals_backed (d := deployment (wallet 1)) (runtime_lawful derive) start_genesis rfl
    (history_run (wallet 1)) (decoy_delivered (wallet 1)) rfl decoy_approves ?_
  intro m reported earlier listed
  obtain rfl := Option.some.inj reported
  rw [history_on_chain] at listed
  have opened : ∀ event ∈ decoySteps,
      OpensFor (deployment (wallet 1)) institution sighting.depositPubkey event := by
    decide +kernel
  exact opened earlier listed

/-- When somebody else is, the record is approved all the same, and nothing backs it. -/
theorem decoy_unbacked :
    Run (Step (deployment (wallet 9))) quiet history scanned ∧
    (∃ after, Step (deployment (wallet 9)) scanned (.deliver sighting delivering) after) ∧
    Approves Gateway.Local.env scanned.gateway delivery institution issuedRecord ∧
    (Store.getDeposit (serve Gateway.Local.env issuedStore delivery).2 firstId).map
      DepositRecord.state = some .approved ∧
    ¬ Backed (deployment (wallet 9)) quiet history institution issuedRecord := by
  refine ⟨history_run (wallet 9), ⟨_, decoy_delivered (wallet 9)⟩, decoy_approves,
    by decide +kernel, ?_⟩
  intro backed
  obtain ⟨event, listed, opening, view, vault⟩ :=
    backed_opened (runtime_lawful derive) start_genesis backed
  rw [history_on_chain] at listed
  have elsewhere : ∀ event ∈ decoySteps, event.opening.all (fun opening =>
      vaultOf (deployment (wallet 9)) ≠ some opening.vault) = true := by
    decide +kernel
  have other := elsewhere event listed
  rw [view] at other
  simp [vault] at other

end Local

end GPay.Custody
