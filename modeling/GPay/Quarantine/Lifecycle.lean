import GPay.Quarantine.Tally

/-!
# The life cycle of a deposit

The states a deposit passes through, and the race at its expiry. A deposit is
created pending, moves along five edges and stays where it is once released or
refunded; `expired` exists only inside the refund handlers. So a deposit is paid
out at most once, by whichever of the four payouts comes first.

Votes are taken strictly before the expiry and refunds of an open vote from it
on, so exactly one of them is possible at each time.
-/

namespace GPay.Quarantine

open Solana Runs

variable {Key : Type}

/-- The moves between stored states: a verdict moves a pending deposit, a payout ends one that is
approved, rejected or expired. -/
inductive Edge : DepositState → DepositState → Prop
  | approve : Edge .pending .approved
  | reject : Edge .pending .rejected
  | expire : Edge .pending .refunded
  | release : Edge .approved .released
  | refund : Edge .rejected .refunded

/-- The deposit has been paid out, by a release or by a refund. -/
def DepositState.Final (state : DepositState) : Prop := state = .released ∨ state = .refunded

instance : DecidablePred DepositState.Final := fun _ => inferInstanceAs (Decidable (_ ∨ _))

/-- What may be stored after a step, given what was stored before: a new deposit
is pending, and an old one keeps its state or moves along an edge. -/
def Follows (before : Option (Deposit Key)) (after : Deposit Key) : Prop :=
  match before with
  | none => after.state = .pending
  | some before => after.state = before.state ∨ Edge before.state after.state

/-- A vote leaves a pending deposit pending or decides it. -/
theorem voted_follows {deposit : Deposit Key} (pending : deposit.state = .pending) (threshold : Nat)
    (attestation : Attestation Key) :
    (deposit.voted threshold attestation).state = deposit.state ∨
      Edge deposit.state (deposit.voted threshold attestation).state := by
  rw [voted_state, pending]
  split
  · exact .inr .reject
  · split
    · exact .inr .approve
    · exact .inl rfl

/-- At each time a pending deposit can be refunded exactly when it is too late to
vote. -/
theorem expiry_race {deposit : Deposit Key} (pending : deposit.state = .pending) (now : Int) :
    (refundable deposit now).2 = true ↔ ¬ now < deposit.expireAt := by
  rw [refundable_iff]
  simp [pending]

/-- One until the deposit at the address is paid out, and zero from then on, so that payouts can
be counted against it. -/
def unpaid (key : Key) (w : World Key) : Nat :=
  match depositAt w key with
  | some deposit => if deposit.state.Final then 0 else 1
  | none => 1

/-- At most one payout of a deposit is outstanding. -/
theorem unpaid_le (key : Key) (w : World Key) : unpaid key w ≤ 1 := by
  unfold unpaid
  split
  · split <;> decide
  · exact le_refl _

/-- A payout leaves a final state. -/
theorem due_final {ctx : Context Key} {deposit : Deposit Key} {final : DepositState}
    (due : Due ctx deposit final) : final.Final := by
  cases due with
  | released approved signed => exact .inl rfl
  | refunded allowed => exact .inr rfl

/-- A payout moves a deposit that is not stored as expired along an edge. -/
theorem paid_follows {ctx : Context Key} {deposit : Deposit Key} {final : DepositState}
    (due : Due ctx deposit final) (unexpired : deposit.state ≠ .expired) :
    Edge deposit.state final := by
  cases due with
  | released approved signed => exact approved ▸ .release
  | refunded allowed =>
    rcases (refundable_iff ..).mp allowed with rejected | expired | ⟨pending, _⟩
    · exact rejected ▸ .refund
    · exact absurd expired unexpired
    · exact pending ▸ .expire

/-- A payout needs a deposit that has not been paid out. -/
theorem due_unpaid {ctx : Context Key} {deposit : Deposit Key} {final : DepositState}
    (due : Due ctx deposit final) : ¬ deposit.state.Final := by
  cases due with
  | released approved signed => simp [DepositState.Final, approved]
  | refunded allowed =>
    rcases (refundable_iff ..).mp allowed with state | state | ⟨state, _⟩ <;>
      simp [DepositState.Final, state]

variable [DecidableEq Key]

/-- A vote that passes the other checks of the handler succeeds exactly while the
deposit cannot be refunded. -/
theorem attest_or_refund {vault : Vault Key} {deposit : Deposit Key} {oracleKey : Key}
    (pending : deposit.state = .pending) (eligible : oracleKey ∈ vault.oracleSet)
    (fresh : ∀ attestation ∈ deposit.attestations, attestation.oracle ≠ oracleKey) (now : Int)
    (verdict : AmlVerdict) (evidenceHash : Bytes32) :
    (∃ after, Attest.handler vault deposit oracleKey now verdict evidenceHash = .ok after) ↔
      (refundable deposit now).2 = false := by
  rw [← Bool.not_eq_true, expiry_race pending, not_not]
  constructor
  · rintro ⟨after, handled⟩
    exact ((attest_handler_ok_iff ..).mp handled).2.2.2.1
  · intro early
    exact ⟨_, (attest_handler_ok_iff ..).mpr ⟨pending, eligible, fresh, early, rfl⟩⟩

variable [Inhabited Key] {rt : Runtime Key} {w w' : World Key} {event : Event Key} {key : Key}

/-- Every reachable deposit is in a stored state. -/
theorem unexpired (lawful : Lawful rt) (injective : SeedsInjective rt) {events : List (Event Key)}
    (reached : Reached rt events w) {deposit : Deposit Key}
    (found : w.data key = .program (.deposit deposit)) : deposit.state ≠ .expired := by
  intro expired
  obtain ⟨vault, house⟩ := ((reached.sound lawful).deposits _ _ found).housed
  have dictated := (reached.tallied lawful injective _ _ _ found house).dictated
  rw [expired] at dictated
  exact dictated

/-- Every step of a run stores what may follow: the same state, one that a move leads to under
its guard, or a new pending deposit. -/
theorem step_follows (lawful : Lawful rt) (injective : SeedsInjective rt)
    {events : List (Event Key)}
    (reached : Reached rt events w) (step : Step rt w event w') {deposit : Deposit Key}
    (found : depositAt w' key = some deposit) : Follows (depositAt w key) deposit := by
  cases deposit_change (step_effect lawful step) (deposit_at_iff.mp found) with
  | opened view here spec =>
    have vacant : depositAt w key = none := by simp [depositAt, ← here, spec.empty]
    obtain ⟨_, _, _, filled⟩ := (new_deposit_ok_iff ..).mp spec.accepted
    rw [vacant, filled]
    rfl
  | attested here spec =>
    subst here
    rw [deposit_at_iff.mpr spec.at_deposit]
    obtain ⟨pending, _, _, _, rfl⟩ := (attest_handler_ok_iff ..).mp spec.handled
    exact voted_follows pending _ _
  | paid view here spec =>
    subst here
    rw [deposit_at_iff.mpr spec.at_deposit]
    exact .inr (paid_follows spec.due (unexpired lawful injective reached spec.at_deposit))
  | kept before spared =>
    rw [deposit_at_iff.mpr before]
    exact .inl rfl

/-- The account of a stored deposit is not collected by the step, which a payout of its whole
balance would bring about. -/
def Retains (key : Key) (w : World Key) (event : Event Key) : Prop :=
  event = .reap → ∀ deposit, depositAt w key = some deposit → 0 < w.lamports key

/-- A step that finds a deposit and leaves a deposit keeps a final state. -/
theorem DepositChange.final_stays {before after : Deposit Key}
    (change : DepositChange rt key w w' event after)
    (found : w.data key = .program (.deposit before))
    (final : before.state.Final) : after.state = before.state ∧ ¬ event.Pays key := by
  cases change with
  | opened view here spec => simp [← here, spec.empty] at found
  | attested here spec =>
    obtain ⟨pending, _⟩ := (attest_handler_ok_iff ..).mp spec.handled
    obtain rfl : _ = before := by simpa [← here, spec.at_deposit] using found
    simp [DepositState.Final, pending] at final
  | paid view here spec =>
    obtain rfl : _ = before := by simpa [← here, spec.at_deposit] using found
    exact absurd final (due_unpaid spec.due)
  | kept same spared =>
    obtain rfl : after = before := by simpa [same] using found
    exact ⟨rfl, spared.unpaid⟩

/-- A payout uses the unit up, and no other step brings one back as long as the account stays. -/
theorem payout_uses (lawful : Lawful rt) (step : Step rt w event w')
    (retains : Retains key w event) :
    (decide (event.Pays key)).toNat + unpaid key w' ≤ unpaid key w := by
  have effect := step_effect lawful step
  have bound := unpaid_le key w'
  by_cases final : ∃ before, depositAt w key = some before ∧ before.state.Final
  · obtain ⟨before, found, final⟩ := final
    have spent : unpaid key w = 0 := by simp [unpaid, found, final]
    have at_key := deposit_at_iff.mp found
    rcases deposit_stays effect at_key with ⟨after, stays⟩ | ⟨collected, empty, _⟩
    · have kept := (deposit_change effect stays).final_stays at_key final
      have spent' : unpaid key w' = 0 := by
        simp [unpaid, deposit_at_iff.mpr stays, kept.1, final]
      simp [kept.2, spent']
    · have funded := retains collected before found
      omega
  · have whole : unpaid key w = 1 := by
      unfold unpaid
      split
      · rename_i before found
        rw [if_neg (fun paid => final ⟨before, found, paid⟩)]
      · rfl
    by_cases pays : event.Pays key
    · obtain ⟨payout, view, here⟩ := pays
      obtain ⟨ctx, instruction, vault, deposit, _, spec⟩ := pays_out lawful step view
      have spent : unpaid key w' = 0 := by
        simp [unpaid, ← here, deposit_at_iff.mpr spec.saved, due_final spec.due]
      have unit := Bool.toNat_le (decide (event.Pays key))
      omega
    · simp [pays]
      omega

/-- While its account is not collected, a deposit is paid out at most once. -/
theorem run_paid_once (lawful : Lawful rt) {events : List (Event Key)}
    (run : Run (Guarded (Step rt) (Retains key)) w events w') :
    events.countP (fun event => decide (event.Pays key)) ≤ 1 := by
  have bound := run.count_le (fun _ _ _ taken => payout_uses lawful taken.1 taken.2)
  have unit := unpaid_le key w
  omega

/-- Along a run that does not create it again, a deposit found at the end was there
all the time. -/
theorem run_retains (lawful : Lawful rt) {events : List (Event Key)}
    (run : Run (Step rt) w events w')
    (unopened : ∀ event ∈ events, ¬ event.Opens key) {deposit : Deposit Key}
    (found : w'.data key = .program (.deposit deposit)) :
    Run (Guarded (Step rt) (Retains key)) w events w' ∧
      ∃ before, w.data key = .program (.deposit before) ∧ before.SameTerms deposit ∧
        (before.state.Final → deposit.state = before.state) := by
  induction run generalizing deposit with
  | nil => exact ⟨.nil, deposit, found, .refl _, fun _ => rfl⟩
  | @snoc events middle finish event earlier last continued =>
    have change := deposit_change (step_effect lawful last) found
    have unopened_last : ¬ event.Opens key := unopened event (by simp)
    obtain ⟨previous, at_middle⟩ : ∃ previous, middle.data key = .program (.deposit previous) := by
      cases change with
      | opened view here spec => exact absurd ⟨_, view, here⟩ unopened_last
      | attested here spec => exact ⟨_, here ▸ spec.at_deposit⟩
      | paid view here spec => exact ⟨_, here ▸ spec.at_deposit⟩
      | kept before spared => exact ⟨_, before⟩
    obtain ⟨guarded, before, at_start, terms, stays⟩ :=
      continued (fun other member => unopened other (by simp [member])) at_middle
    refine ⟨guarded.snoc ⟨last, ?_⟩, before, at_start,
      terms.trans (change.same_terms at_middle), ?_⟩
    · rintro rfl stored kept
      by_contra empty
      have gone : finish.data key = .system := by
        cases last with
        | reap => rw [World.data_reap, if_pos (by omega)]
      simp [gone] at found
    · intro final
      have same := stays final
      rw [(change.final_stays at_middle (same ▸ final)).1, same]

/-- Once the clock has passed the expiry of a deposit no vote on it succeeds, as long as the
clock does not go back before it. -/
theorem no_late_votes (lawful : Lawful rt) {events : List (Event Key)}
    (run : Run (Step rt) w events w')
    {deposit : Deposit Key} (found : w.data key = .program (.deposit deposit))
    (unopened : ∀ event ∈ events, ¬ event.Opens key)
    (late : ∀ time ∈ events.filterMap Event.time, deposit.expireAt ≤ time) :
    ∀ event ∈ events, event.attestation key = none := by
  intro event member
  by_contra voted
  obtain ⟨attestation, vote⟩ := Option.ne_none_iff_exists'.mp voted
  obtain ⟨ctx, accounts, rfl, _, rfl, _⟩ := attestation_call vote
  have passed : deposit.expireAt ≤ ctx.now := late _ (List.mem_filterMap.mpr ⟨_, member, rfl⟩)
  obtain ⟨before, after, rfl⟩ := List.append_of_mem member
  obtain ⟨middle, earlier, rest⟩ := run.split
  obtain ⟨next, taken, _⟩ := rest.of_cons
  cases taken with
  | call executed =>
    obtain ⟨vault, current, later, spec⟩ := (attest_ok_iff ..).mp executed
    obtain ⟨_, first, at_start, terms, _⟩ :=
      run_retains lawful earlier (fun other inside => unopened other (by simp [inside]))
        spec.at_deposit
    obtain rfl : first = deposit := by simpa [at_start] using found
    have expiry : current.expireAt = first.expireAt := by rw [terms]
    obtain ⟨_, _, _, early, _⟩ := (attest_handler_ok_iff ..).mp spec.handled
    omega

/-- The life cycle of the deposits at an address, over all runs: the moves that a step makes, the
states that stay, the number of payouts, and which of a vote and a refund is possible at what
time. -/
structure LifeCycle (rt : Runtime Key) (key : Key) : Prop where
  follows : ∀ events w event w', Reached rt events w → Step rt w event w' →
    ∀ deposit, depositAt w' key = some deposit →
      Follows (depositAt w key) deposit ∧ deposit.state ≠ .expired
  absorbing : ∀ w events w', Run (Step rt) w events w' → (∀ event ∈ events, ¬ event.Opens key) →
    ∀ before after, depositAt w key = some before → depositAt w' key = some after →
      before.state.Final → after.state = before.state
  paid_once : ∀ w events w', Run (Guarded (Step rt) (Retains key)) w events w' →
    events.countP (fun event => decide (event.Pays key)) ≤ 1
  paid_once_since : ∀ events w deposit, Reached rt events w → depositAt w key = some deposit →
    ∃ before since ctx instruction opening,
      Created events key deposit before since ctx instruction opening ∧
      since.countP (fun event => decide (event.Pays key)) ≤ 1
  race : ∀ (deposit : Deposit Key) (now : Int), deposit.state = .pending →
    ((refundable deposit now).2 = true ↔ ¬ now < deposit.expireAt)
  vote_or_refund : ∀ (vault : Vault Key) (deposit : Deposit Key) (oracleKey : Key) (now : Int)
      (verdict : AmlVerdict) (evidenceHash : Bytes32), deposit.state = .pending →
    oracleKey ∈ vault.oracleSet →
    (∀ attestation ∈ deposit.attestations, attestation.oracle ≠ oracleKey) →
    ((∃ after, Attest.handler vault deposit oracleKey now verdict evidenceHash = .ok after) ↔
      (refundable deposit now).2 = false)
  closed : ∀ w events w' deposit now, Run (Step rt) w events w' → depositAt w key = some deposit →
    deposit.expireAt ≤ now → (∀ time ∈ events.filterMap Event.time, now ≤ time) →
    (∀ event ∈ events, ¬ event.Opens key) → ∀ event ∈ events, event.attestation key = none

/-- Every deposit follows its life cycle: its state takes the listed transitions only, each under
its guard, and is never expired. A final state stays for as long as no other deposit is made at
the address, the deposit is paid out at most once while its account exists, and from its expiry
on it can be refunded and takes no vote.

Proof: what one step does to a deposit gives the transitions. Along a run the payouts so far and
what is still unpaid come to one at most, and a run is split at the creation to start the count
there. -/
theorem deposit_life_cycle (lawful : Lawful rt) (injective : SeedsInjective rt) (key : Key) :
    LifeCycle rt key where
  follows := by
    intro events w event w' reached step deposit found
    exact ⟨step_follows lawful injective reached step found,
      unexpired lawful injective (reached.step step) (deposit_at_iff.mp found)⟩
  absorbing := by
    intro w events w' run unopened before after found found' final
    obtain ⟨_, first, at_start, _, stays⟩ :=
      run_retains lawful run unopened (deposit_at_iff.mp found')
    obtain rfl : first = before := by simpa [at_start] using deposit_at_iff.mp found
    exact stays final
  paid_once := fun _ _ _ run => run_paid_once lawful run
  paid_once_since := by
    rintro events w deposit ⟨start, genesis, run⟩ found
    have at_key := deposit_at_iff.mp found
    obtain ⟨before, since, ctx, instruction, opening, created⟩ :=
      run_created lawful genesis run at_key
    refine ⟨before, since, ctx, instruction, opening, created, ?_⟩
    obtain ⟨_, _, _, _, _, _, onward⟩ := created.opened lawful run
    exact run_paid_once lawful (run_retains lawful onward created.unopened at_key).1
  race := fun _ now pending => expiry_race pending now
  vote_or_refund := fun _ _ _ now verdict evidenceHash pending eligible fresh =>
    attest_or_refund pending eligible fresh now verdict evidenceHash
  closed := by
    intro w events w' deposit now run found passed forward unopened
    exact no_late_votes lawful run (deposit_at_iff.mp found) unopened
      (fun time member => passed.trans (forward time member))

/-- The local cluster's deposit goes through its life cycle. -/
theorem local_life_cycle : LifeCycle Local.runtime Local.depositKey :=
  deposit_life_cycle Local.runtime_lawful Local.runtime_injective Local.depositKey

end GPay.Quarantine
