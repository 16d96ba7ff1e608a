import GPay.Quarantine.Binding

/-!
# The history of a deposit

The events of a run that concern a stored deposit: the call that created it, and
the votes since. The recorded attestations are exactly the votes since creation,
in order, and all other fields but the state and the counts are those of the
creating call. An address may have held an earlier deposit, collected after it was
emptied; events before the creation do not count.
-/

namespace GPay.Quarantine

open Solana Runs

variable {Key : Type} [DecidableEq Key]

/-- The event is a vote with the verdict on the deposit at the address. -/
def Event.attests (key : Key) (verdict : AmlVerdict) (event : Event Key) : Bool :=
  (event.attestation key).any (·.verdict = verdict)

/-- An event that casts a vote is a call of `attest` by that oracle at that time. -/
theorem attestation_call {key : Key} {event : Event Key} {attestation : Attestation Key}
    (vote : event.attestation key = some attestation) :
    ∃ ctx accounts,
      event = .call ctx (.attest accounts attestation.verdict attestation.evidenceHash) ∧
      accounts.oracle = attestation.oracle ∧ accounts.deposit = key ∧
      ctx.now = attestation.timestamp := by
  cases event with
  | outside => simp [Event.attestation] at vote
  | reap => simp [Event.attestation] at vote
  | call ctx instruction =>
    cases instruction with
    | attest accounts verdict evidenceHash =>
      by_cases here : accounts.deposit = key
      · obtain rfl : Attestation.mk accounts.oracle verdict ctx.now evidenceHash = attestation := by
          simpa [Event.attestation, here] using vote
        exact ⟨ctx, accounts, rfl, rfl, here, rfl⟩
      · simp [Event.attestation, here] at vote
    | _ => simp [Event.attestation] at vote

variable [Inhabited Key]

/-- The events of a run, split at the creation of a deposit that the rest of the
run has not replaced. -/
structure Created (events : List (Event Key)) (key : Key) (deposit : Deposit Key)
    (before since : List (Event Key)) (ctx : Context Key) (instruction : Instruction Key)
    (opening : Opening Key) : Prop where
  listed : events = before ++ .call ctx instruction :: since
  view : instruction.opening = some opening
  here : opening.deposit = key
  signed : opening.depositor ∈ ctx.signers
  record : ∃ record,
    newDeposit opening.args record.bump opening.vault opening.mint opening.depositor
      ctx.now = .ok record ∧ record.SameTerms deposit
  unopened : ∀ event ∈ since, ¬ event.Opens key
  votes : deposit.attestations = since.filterMap (Event.attestation key)

/-- The deposit's fields are the creating call's accounts and arguments. -/
theorem Created.fields {events : List (Event Key)} {key : Key} {deposit : Deposit Key}
    {before since : List (Event Key)} {ctx : Context Key} {instruction : Instruction Key}
    {opening : Opening Key}
    (created : Created events key deposit before since ctx instruction opening) :
    deposit.vault = opening.vault ∧ deposit.releaseAuthority = opening.args.releaseAuthority ∧
      deposit.createdAt = ctx.now ∧ deposit.mint = opening.mint := by
  obtain ⟨record, accepted, terms⟩ := created.record
  obtain ⟨_, _, _, filled⟩ := (new_deposit_ok_iff ..).mp accepted
  rw [terms, filled]
  exact ⟨rfl, rfl, rfl, rfl⟩

/-- One more event that keeps the deposit extends its history by the vote it casts, if it casts
one. -/
theorem Created.extend {events : List (Event Key)} {key : Key} {deposit after : Deposit Key}
    {before since : List (Event Key)} {ctx : Context Key} {instruction : Instruction Key}
    {opening : Opening Key}
    (created : Created events key deposit before since ctx instruction opening)
    {event : Event Key} (unopened : ¬ event.Opens key) (terms : deposit.SameTerms after)
    (votes : after.attestations = deposit.attestations ++ (event.attestation key).toList) :
    Created (events ++ [event]) key after before (since ++ [event]) ctx instruction opening where
  listed := by simp [created.listed]
  view := created.view
  here := created.here
  signed := created.signed
  record := by
    obtain ⟨record, accepted, earlier⟩ := created.record
    exact ⟨record, accepted, earlier.trans terms⟩
  unopened := by
    intro other member
    rcases List.mem_append.mp member with inside | last
    · exact created.unopened other inside
    · rwa [List.mem_singleton.mp last]
  votes := by
    rw [votes, created.votes, List.filterMap_append]
    cases vote : event.attestation key <;> simp [vote]

/-- Every stored deposit has a history in the run that reached it: a creation, and the votes
since, which are those on record.

Proof: by induction on the run, by where the deposit found after the last step comes from. -/
theorem run_created {rt : Runtime Key} (lawful : Lawful rt) {start w : World Key}
    (genesis : Genesis start) {events : List (Event Key)} (run : Run (Step rt) start events w)
    {key : Key} {deposit : Deposit Key} (found : w.data key = .program (.deposit deposit)) :
    ∃ before since ctx instruction opening,
      Created events key deposit before since ctx instruction opening := by
  induction run generalizing deposit with
  | nil => exact absurd found (genesis.vacant key _)
  | @snoc events middle finish event earlier last history =>
    have change := deposit_change (step_effect lawful last) found
    cases change with
    | @opened ctx instruction opening vault record view here spec =>
      refine ⟨events, [], ctx, instruction, opening, rfl, view, here, spec.signed,
        ⟨_, spec.accepted, .refl _⟩, by simp, ?_⟩
      obtain ⟨_, _, _, filled⟩ := (new_deposit_ok_iff ..).mp spec.accepted
      rw [filled]
      rfl
    | @attested ctx accounts verdict evidenceHash vault prior after here spec =>
      have at_key := here ▸ spec.at_deposit
      obtain ⟨before, since, creator, instruction, opening, created⟩ := history at_key
      refine ⟨before, _, creator, instruction, opening, created.extend ?_ ?_ ?_⟩
      · simp [Event.Opens, Event.opening, Instruction.opening]
      · exact (DepositChange.attested here spec).same_terms at_key
      · obtain ⟨_, _, _, _, voted⟩ := (attest_handler_ok_iff ..).mp spec.handled
        simp [voted, Deposit.voted, Event.attestation, here]
    | @paid ctx call payout vault prior view here spec =>
      have at_key := here ▸ spec.at_deposit
      obtain ⟨before, since, creator, instruction, opening, created⟩ := history at_key
      obtain ⟨unopened, unattested⟩ := payout_alone view ctx key
      refine ⟨before, _, creator, instruction, opening, created.extend ?_ ?_ ?_⟩
      · simp [Event.Opens, Event.opening, unopened]
      · exact (DepositChange.paid view here spec).same_terms at_key
      · simp [unattested]
    | kept at_key spared =>
      obtain ⟨before, since, creator, instruction, opening, created⟩ := history at_key
      exact ⟨before, _, creator, instruction, opening,
        created.extend spared.unopened (.refl _) (by simp [spared.unattested])⟩

/-- Every stored deposit of a reachable world has a history. -/
theorem Reached.created {rt : Runtime Key} (lawful : Lawful rt) {events : List (Event Key)}
    {w : World Key} (reached : Reached rt events w) {key : Key} {deposit : Deposit Key}
    (found : w.data key = .program (.deposit deposit)) :
    ∃ before since ctx instruction opening,
      Created events key deposit before since ctx instruction opening := by
  obtain ⟨start, genesis, run⟩ := reached
  exact run_created lawful genesis run found

/-- An attestation recorded on the deposit was cast by a call of its history, which
its oracle signed. -/
theorem Created.cast {rt : Runtime Key} {start w : World Key} {events : List (Event Key)}
    (run : Run (Step rt) start events w) {key : Key} {deposit : Deposit Key}
    {before since : List (Event Key)} {ctx : Context Key} {instruction : Instruction Key}
    {opening : Opening Key}
    (created : Created events key deposit before since ctx instruction opening)
    {attestation : Attestation Key} (recorded : attestation ∈ deposit.attestations) :
    ∃ caller accounts,
      .call caller (.attest accounts attestation.verdict attestation.evidenceHash) ∈ since ∧
      accounts.oracle = attestation.oracle ∧ accounts.deposit = key ∧
      attestation.oracle ∈ caller.signers ∧ caller.now = attestation.timestamp := by
  rw [created.votes, List.mem_filterMap] at recorded
  obtain ⟨event, member, vote⟩ := recorded
  obtain ⟨caller, accounts, rfl, oracle, here, time⟩ := attestation_call vote
  have listed : Event.call caller (.attest accounts attestation.verdict attestation.evidenceHash) ∈
      events := by
    rw [created.listed]
    simp [member]
  obtain ⟨middle, next, taken⟩ := run.taken listed
  cases taken with
  | call executed =>
    obtain ⟨_, _, _, spec⟩ := (attest_ok_iff ..).mp executed
    exact ⟨caller, accounts, member, oracle, here, oracle ▸ spec.signed, time⟩

/-- The creation was a step of the run, from a world in which its address was empty. -/
theorem Created.opened {rt : Runtime Key} (lawful : Lawful rt) {start w : World Key}
    {events : List (Event Key)} (run : Run (Step rt) start events w) {key : Key}
    {deposit : Deposit Key}
    {before since : List (Event Key)} {ctx : Context Key} {instruction : Instruction Key}
    {opening : Opening Key}
    (created : Created events key deposit before since ctx instruction opening) :
    ∃ middle next vault record, Run (Step rt) start before middle ∧
      Opened rt ctx opening vault record middle next ∧ Run (Step rt) next since w := by
  rw [created.listed] at run
  obtain ⟨middle, earlier, rest⟩ := run.split
  obtain ⟨next, taken, later⟩ := rest.of_cons
  cases taken with
  | call executed =>
    obtain ⟨vault, record, spec⟩ := opened_of_exec lawful executed created.view
    exact ⟨middle, next, vault, record, earlier, spec, later⟩

/-- A stored deposit is at the address that the bump search finds for its seeds. -/
theorem Reached.deposit_found {rt : Runtime Key} (lawful : Lawful rt) {events : List (Event Key)}
    {w : World Key} (reached : Reached rt events w) {key : Key} {deposit : Deposit Key}
    (found : w.data key = .program (.deposit deposit)) :
    ∃ bump, rt.findProgramAddress
      (Seeds.deposit deposit.vault deposit.stealthPubkey deposit.ephemeralR).list =
        some (key, bump) := by
  obtain ⟨start, genesis, run⟩ := reached
  obtain ⟨before, since, ctx, instruction, opening, created⟩ := run_created lawful genesis run found
  obtain ⟨middle, next, vault, stored, _, spec, _⟩ := created.opened lawful run
  obtain ⟨record, accepted, terms⟩ := created.record
  obtain ⟨_, _, _, filled⟩ := (new_deposit_ok_iff ..).mp accepted
  refine ⟨stored.bump, ?_⟩
  rw [terms, filled, ← created.here]
  exact spec.found

/-- In a run of transactions that the runtime lets through, no deposit is stored at a
reserved address, as the call that created it wrote there. -/
theorem Reached.deposit_writable {rt : Runtime Key} (lawful : Lawful rt)
    {events : List (Event Key)} {w : World Key} (reached : Reached rt events w)
    (permitted : ∀ event ∈ events, event.Permitted rt) {key : Key} {deposit : Deposit Key}
    (found : w.data key = .program (.deposit deposit)) : rt.reserved key = false := by
  obtain ⟨start, genesis, run⟩ := reached
  obtain ⟨before, since, ctx, instruction, opening, created⟩ := run_created lawful genesis run found
  obtain ⟨middle, next, vault, stored, _, spec, _⟩ := created.opened lawful run
  have allowed : ctx.Permitted rt := permitted (.call ctx instruction) (by simp [created.listed])
  exact created.here ▸ allowed _ spec.writable.1

/-- A stored vault is at the address that the bump search finds for its authority. -/
theorem Reached.vault_found {rt : Runtime Key} (lawful : Lawful rt) {events : List (Event Key)}
    {w : World Key} (reached : Reached rt events w) {key : Key} {vault : Vault Key}
    (found : w.data key = .program (.vault vault)) :
    ∃ bump, rt.findProgramAddress (Seeds.vault vault.authority).list = some (key, bump) := by
  obtain ⟨start, genesis, run⟩ := reached
  induction run generalizing key vault with
  | nil => exact absurd found (genesis.vacant key _)
  | snoc earlier last sought =>
    cases vault_change (step_effect lawful last) found with
    | initialized here spec =>
      rw [spec.filled, ← here]
      exact ⟨_, spec.found⟩
    | counted view here spec =>
      subst here
      have before := sought spec.at_vault
      exact before
    | kept before uncounted => exact sought before

/-- Under a clock that does not go back no vote is older than the deposit it is on. -/
theorem Created.ordered {events : List (Event Key)} {key : Key} {deposit : Deposit Key}
    {before since : List (Event Key)} {ctx : Context Key} {instruction : Instruction Key}
    {opening : Opening Key}
    (created : Created events key deposit before since ctx instruction opening)
    (forward : Forward events) {attestation : Attestation Key}
    (recorded : attestation ∈ deposit.attestations) :
    deposit.createdAt ≤ attestation.timestamp := by
  rw [created.fields.2.2.1]
  rw [created.votes, List.mem_filterMap] at recorded
  obtain ⟨event, member, vote⟩ := recorded
  rw [Forward, created.listed, List.filterMap_append, List.pairwise_append] at forward
  have later := (List.pairwise_cons.mp (forward.2.1 : List.Pairwise (· ≤ ·)
    (ctx.now :: since.filterMap Event.time))).1
  obtain ⟨caller, accounts, rfl, _, _, time⟩ := attestation_call vote
  exact later _ (List.mem_filterMap.mpr ⟨_, member, congrArg some time⟩)

end GPay.Quarantine
