import GPay.Quarantine.Tally

/-!
# The gate before a release

A release looks at one field, the deposit's state. That the field says approved
means, over the whole run that led there, that a threshold of distinct oracles of
the vault voted clean in time on this deposit, and that fewer voted dirty.

The votes are those cast since the deposit's creation. An address that was emptied
and collected may hold a second deposit, and votes on the first do not count; in a
run without a collection there are none.
-/

namespace GPay.Quarantine

open Solana Runs

variable {Key : Type} [DecidableEq Key] [Inhabited Key] {rt : Runtime Key}

/-- Without a collection a deposit stays where it is. -/
theorem run_deposit_stays (lawful : Lawful rt) {w w' : World Key} {events : List (Event Key)}
    (run : Run (Step rt) w events w') (uncollected : Event.reap ∉ events) {key : Key}
    {deposit : Deposit Key} (before : w.data key = .program (.deposit deposit)) :
    ∃ after, w'.data key = .program (.deposit after) := by
  have guarded : Run (Guarded (Step rt) (fun _ event => event ≠ .reap)) w events w' :=
    run.guard_events (fun event member collects => uncollected (collects ▸ member))
  have stays : ∀ first event second, (∃ middle, first.data key = .program (.deposit middle)) →
      Guarded (Step rt) (fun _ event => event ≠ .reap) first event second →
      ∃ after, second.data key = .program (.deposit after) := by
    rintro first event second ⟨middle, stored⟩ ⟨step, keeps⟩
    rcases deposit_stays (step_effect lawful step) stored with kept | ⟨collected, _⟩
    · exact kept
    · exact absurd collected keeps
  exact guarded.invariant stays ⟨deposit, before⟩

/-- Without a collection nobody has voted at an address that still holds nothing, as a vote is on
a deposit and deposits stay. -/
theorem unvoted_while_empty (lawful : Lawful rt) {w w' : World Key} {events : List (Event Key)}
    (run : Run (Step rt) w events w') (uncollected : Event.reap ∉ events) {key : Key}
    (empty : w'.data key = .system) : ∀ event ∈ events, event.attestation key = none := by
  intro event member
  by_contra voted
  obtain ⟨attestation, vote⟩ := Option.ne_none_iff_exists'.mp voted
  obtain ⟨before, after, rfl⟩ := List.append_of_mem member
  obtain ⟨middle, _, rest⟩ := run.split
  obtain ⟨next, taken, onward⟩ := rest.of_cons
  obtain ⟨ctx, accounts, rfl, _, rfl, _⟩ := attestation_call vote
  cases taken with
  | call executed =>
    obtain ⟨vault, earlier, later, spec⟩ := (attest_ok_iff ..).mp executed
    have stored : next.data accounts.deposit = .program (.deposit later) := by simp [spec.saved]
    have none_after : Event.reap ∉ after := fun inside => uncollected (by simp [inside])
    obtain ⟨final, found⟩ := run_deposit_stays lawful onward none_after stored
    simp [found] at empty

/-- The votes of a verdict since a deposit's creation are its attestations of that
verdict. -/
theorem Created.count {events : List (Event Key)} {key : Key} {deposit : Deposit Key}
    {before since : List (Event Key)} {ctx : Context Key} {instruction : Instruction Key}
    {opening : Opening Key}
    (created : Created events key deposit before since ctx instruction opening)
    (verdict : AmlVerdict) :
    since.countP (Event.attests key verdict) =
      deposit.attestations.countP (·.verdict = verdict) := by
  rw [created.votes, List.countP_filterMap]
  congr 1
  funext event
  cases vote : event.attestation key <;> simp [Event.attests, vote]

/-- A threshold of distinct oracles of the vault, each with its own clean vote in
time among the events, signed by it. -/
def Cleared (events : List (Event Key)) (key : Key) (vault : Vault Key) (expireAt : Int) : Prop :=
  ∃ oracles : Finset Key, vault.minAttestations ≤ oracles.card ∧ ∀ oracle ∈ oracles,
    oracle ∈ vault.oracleSet ∧
    ∃ ctx accounts evidenceHash, Event.call ctx (.attest accounts .clean evidenceHash) ∈ events ∧
      accounts.oracle = oracle ∧ accounts.deposit = key ∧ oracle ∈ ctx.signers ∧ ctx.now < expireAt

/-- The clean votes of an approved deposit: each was cast since its creation, in a call that the
oracle signed, before its expiry. -/
theorem Created.cleared {start w : World Key} {events : List (Event Key)}
    (run : Run (Step rt) start events w) {key : Key} {deposit : Deposit Key} {vault : Vault Key}
    {before since : List (Event Key)} {ctx : Context Key} {instruction : Instruction Key}
    {opening : Opening Key}
    (created : Created events key deposit before since ctx instruction opening)
    (sound : TallySound vault.minAttestations vault.oracleSet deposit)
    (reached : vault.minAttestations ≤ deposit.cleanCount) :
    Cleared since key vault deposit.expireAt := by
  let clean := deposit.attestations.filter (·.verdict = .clean)
  have distinct : (clean.map Attestation.oracle).Nodup := by
    have all : (deposit.attestations.map Attestation.oracle).Nodup := by
      simpa [Deposit.votes, Attestation.vote, Function.comp_def] using sound.box.distinct
    exact all.sublist (List.filter_sublist.map _)
  have count : clean.length = deposit.cleanCount := by
    rw [sound.clean, ← List.countP_eq_length_filter]
    exact (tally_votes deposit .clean).symm
  refine ⟨(clean.map Attestation.oracle).toFinset, ?_, ?_⟩
  · rwa [List.toFinset_card_of_nodup distinct, List.length_map, count]
  · intro oracle member
    obtain ⟨attestation, inside, rfl⟩ := List.mem_map.mp (List.mem_toFinset.mp member)
    obtain ⟨recorded, verdict⟩ := List.mem_filter.mp inside
    obtain ⟨caller, accounts, cast, by_oracle, here, signed, time⟩ := created.cast run recorded
    refine ⟨sound.box.eligible attestation.vote (List.mem_map_of_mem recorded), caller, accounts,
      attestation.evidenceHash, ?_, by_oracle, here, signed,
      time ▸ sound.early attestation recorded⟩
    rwa [← of_decide_eq_true verdict]

/-- Whenever a release of a deposit succeeds, a threshold of distinct oracles of its vault has
voted clean on it since its creation and before its expiry, each in a call that it signed; fewer
have voted dirty; and the release is signed by the authority that the creation named. If no
account was ever collected, no vote on the address came before the creation.

Proof: the release found the deposit approved, so that its counters are as approval leaves them.
Every vote that they count is recorded with its oracle, and what is recorded was cast in the run
since the creation, on which the run is split. -/
theorem release_gate (lawful : Lawful rt) (injective : SeedsInjective rt)
    {events : List (Event Key)} {w w' : World Key} (reached : Reached rt events w)
    {ctx : Context Key} {instruction : Instruction Key} {payout : Payout Key}
    (executed : exec rt ctx instruction w = .ok w')
    (view : instruction.payout = some payout) (released : payout.outcome = .released) :
    ∃ deposit vault, depositAt w payout.deposit = some deposit ∧ payout.vault = deposit.vault ∧
      vaultAt w payout.vault = some vault ∧
      ∃ before since creator creation opening,
        Created events payout.deposit deposit before since creator creation opening ∧
        Cleared since payout.deposit vault deposit.expireAt ∧
        since.countP (Event.attests payout.deposit .dirty) < vault.minAttestations ∧
        opening.args.releaseAuthority ∈ ctx.signers ∧
        (Event.reap ∉ events → ∀ event ∈ before, event.attestation payout.deposit = none) := by
  obtain ⟨vault, deposit, spec⟩ := paid_of_exec lawful executed view
  have sound := reached.sound lawful
  have house := paid_vault injective sound spec
  have tally := reached.tallied lawful injective _ _ _ spec.at_deposit (house ▸ spec.at_vault)
  have vaultSound := sound.vaults _ _ spec.at_vault
  obtain ⟨start, genesis, run⟩ := reached
  obtain ⟨before, since, creator, creation, opening, created⟩ := run_created lawful genesis run
    spec.at_deposit
  have approved : deposit.state = .approved ∧ deposit.releaseAuthority ∈ ctx.signers := by
    have due := spec.due
    rw [released] at due
    cases due with
    | released approved signed => exact ⟨approved, signed⟩
  have counts := tally.approved vaultSound.positive (.inl approved.1)
  refine ⟨deposit, vault, deposit_at_iff.mpr spec.at_deposit, house, vault_at_iff.mpr spec.at_vault,
    before, since, creator, creation, opening, created, ?_, ?_, ?_, ?_⟩
  · exact created.cleared run tally counts.1.ge
  · have dirty : deposit.dirtyCount = _ := tally.dirty.trans (tally_votes deposit .dirty)
    rw [created.count, ← dirty]
    exact counts.2
  · rw [← created.fields.2.1]
    exact approved.2
  · intro uncollected
    obtain ⟨middle, next, _, _, earlier, opened, _⟩ := created.opened lawful run
    have none_before : Event.reap ∉ before :=
      fun inside => uncollected (by simp [created.listed, inside])
    exact unvoted_while_empty lawful earlier none_before (created.here ▸ opened.empty)

/-- The sample's deposit is approved by enough clean votes and too few dirty ones. -/
theorem release_gate_cleared_deposit :
    ∃ deposit vault, depositAt (Local.after Local.clearedDeposit) Local.depositKey = some deposit ∧
      vaultAt (Local.after Local.clearedDeposit) Local.vaultKey = some vault ∧
      ∃ since, Cleared since Local.depositKey vault deposit.expireAt ∧
        since.countP (Event.attests Local.depositKey .dirty) < vault.minAttestations := by
  have executed : exec Local.runtime (Local.context 1005) (Local.releaseTo (.wallet 7))
      (Local.after Local.clearedDeposit) = .ok _ := Local.called_ok (by decide +kernel)
  obtain ⟨deposit, vault, found, _, house, _, since, _, _, _, _, cleared, dirty, _, _⟩ :=
    release_gate Local.runtime_lawful Local.runtime_injective Local.cleared_reached executed rfl rfl
  exact ⟨deposit, vault, found, house, since, cleared, dirty⟩

end GPay.Quarantine
