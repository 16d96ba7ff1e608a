import GPay.Quarantine.History
import GPay.Quarantine.Local
import GPay.Quorum

/-!
# The vote tally of a deposit

A deposit's attestations are the votes of an eager two-sided threshold vote among
the vault's oracles, a dirty verdict being a vote against. The stored counters are
its tallies and the stored state is what its outcome dictates: the handler updates
them by separate statements, and the invariant says that they never part.

As the vault's oracle list is bounded, so is the number of attestations; the
account holds them all and the one-byte counters do not saturate.
-/

namespace GPay.Quarantine

open Solana Runs Quorum

variable {Key : Type}

/-- An attestation as a vote. -/
def Attestation.vote (attestation : Attestation Key) : Vote Key :=
  ⟨attestation.oracle, attestation.verdict = .dirty⟩

/-- The votes that the record of a deposit keeps. -/
def Deposit.votes (deposit : Deposit Key) : List (Vote Key) :=
  deposit.attestations.map Attestation.vote

/-- The state an accepted vote leaves for each outcome: a deposit is approved when the matter is
carried and rejected when it is defeated. -/
def stateOf : Outcome → DepositState
  | .undecided => .pending
  | .carried => .approved
  | .defeated => .rejected

/-- What the outcome may be in each state. A refund follows a rejection or the
expiry of an open vote, and no deposit is stored as expired. -/
def Dictated (outcome : Outcome) : DepositState → Prop
  | .pending => outcome = .undecided
  | .approved | .released => outcome = .carried
  | .rejected => outcome = .defeated
  | .refunded => outcome ≠ .carried
  | .expired => False

/-- A deposit whose tally is that of accepted votes: its counters count them, the threshold
dictates its state, and every vote is dated before the expiry. -/
structure TallySound (threshold : Nat) (electorate : List Key) (deposit : Deposit Key) : Prop where
  box : Box threshold electorate deposit.votes
  clean : deposit.cleanCount = tally false deposit.votes
  dirty : deposit.dirtyCount = tally true deposit.votes
  dictated : Dictated (outcome threshold deposit.votes) deposit.state
  early : ∀ attestation ∈ deposit.attestations, attestation.timestamp < deposit.expireAt

/-- Counting attestations of a verdict is counting votes of its side. -/
theorem tally_votes (deposit : Deposit Key) (verdict : AmlVerdict) :
    tally (verdict = .dirty) deposit.votes = deposit.attestations.countP (·.verdict = verdict) := by
  rw [tally, Deposit.votes, List.countP_map]
  congr 1
  funext attestation
  cases same : attestation.verdict <;> cases verdict <;> simp [Attestation.vote, same]

/-- A new deposit has an empty tally. -/
theorem TallySound.empty {threshold : Nat} {electorate : List Key} {deposit : Deposit Key}
    (positive : 1 ≤ threshold) (unvoted : deposit.attestations = [])
    (clean : deposit.cleanCount = 0) (dirty : deposit.dirtyCount = 0)
    (pending : deposit.state = .pending) :
    TallySound threshold electorate deposit where
  box := by simpa [Deposit.votes, unvoted] using Box.empty
  clean := by simp [Deposit.votes, unvoted, clean]
  dirty := by simp [Deposit.votes, unvoted, dirty]
  dictated := by
    rw [pending]
    apply (outcome_undecided_iff _ _).mpr
    simp [Deposit.votes, unvoted]
    omega
  early := by simp [unvoted]

/-- There are at most as many attestations as oracles in the list. -/
theorem TallySound.size [DecidableEq Key] {threshold : Nat} {electorate : List Key}
    {deposit : Deposit Key} (sound : TallySound threshold electorate deposit) :
    deposit.attestations.length ≤ electorate.toFinset.card := by
  simpa [Deposit.votes] using sound.box.size

/-- An accepted oracle list bounds the attestations by the account's capacity. -/
theorem TallySound.capacity [DecidableEq Key] {threshold : Nat} {electorate : List Key}
    {deposit : Deposit Key} (sound : TallySound threshold electorate deposit)
    (few : electorate.length ≤ maxOracles) : deposit.attestations.length ≤ maxAttestations :=
  calc deposit.attestations.length ≤ electorate.toFinset.card := sound.size
    _ ≤ electorate.length := List.toFinset_card_le electorate
    _ ≤ maxAttestations := few

/-- Both counters together are the number of attestations. -/
theorem TallySound.total {threshold : Nat} {electorate : List Key} {deposit : Deposit Key}
    (sound : TallySound threshold electorate deposit) :
    deposit.dirtyCount + deposit.cleanCount = deposit.attestations.length := by
  rw [sound.dirty, sound.clean, tally_total, Deposit.votes, List.length_map]

/-- A deposit is pending exactly while the vote is open and it is not refunded. -/
theorem TallySound.pending_open {threshold : Nat} {electorate : List Key} {deposit : Deposit Key}
    (sound : TallySound threshold electorate deposit) (pending : deposit.state = .pending) :
    outcome threshold deposit.votes = .undecided := by
  simpa [pending, Dictated] using sound.dictated

section Vote

variable {threshold : Nat} {electorate : List Key} {deposit : Deposit Key}
  {attestation : Attestation Key}

/-- A vote is kept behind the others. -/
@[simp] theorem votes_voted : (deposit.voted threshold attestation).votes =
    deposit.votes ++ [attestation.vote] := by
  simp [Deposit.votes, Deposit.voted]

/-- What a vote makes of the state: a dirty one is counted against the deposit first. -/
theorem voted_state : (deposit.voted threshold attestation).state =
    if threshold ≤ (deposit.voted threshold attestation).dirtyCount then .rejected
    else if threshold ≤ (deposit.voted threshold attestation).cleanCount then .approved
    else deposit.state := rfl

/-- Below saturation the counters of a deposit with one more vote are its tallies
and its state is the outcome. -/
theorem TallySound.counted (sound : TallySound threshold electorate deposit)
    (pending : deposit.state = .pending) (unsaturated : deposit.attestations.length < 255) :
    (deposit.voted threshold attestation).cleanCount =
        tally false (deposit.votes ++ [attestation.vote]) ∧
      (deposit.voted threshold attestation).dirtyCount =
        tally true (deposit.votes ++ [attestation.vote]) ∧
      (deposit.voted threshold attestation).state =
        stateOf (outcome threshold (deposit.votes ++ [attestation.vote])) := by
  have total := sound.total
  have clean := sound.clean
  have dirty := sound.dirty
  have cleanNext : (deposit.voted threshold attestation).cleanCount =
      tally false (deposit.votes ++ [attestation.vote]) := by
    cases verdict : attestation.verdict <;>
      simp [Deposit.voted, Attestation.vote, verdict, saturatingAdd] <;> omega
  have dirtyNext : (deposit.voted threshold attestation).dirtyCount =
      tally true (deposit.votes ++ [attestation.vote]) := by
    cases verdict : attestation.verdict <;>
      simp [Deposit.voted, Attestation.vote, verdict, saturatingAdd] <;> omega
  refine ⟨cleanNext, dirtyNext, ?_⟩
  rw [voted_state, cleanNext, dirtyNext, pending, outcome]
  split
  · rfl
  · split <;> rfl

/-- The checks of the handler accept the vote in the abstract sense. -/
theorem TallySound.accepts (sound : TallySound threshold electorate deposit)
    (pending : deposit.state = .pending) (eligible : attestation.oracle ∈ electorate)
    (fresh : ∀ earlier ∈ deposit.attestations, earlier.oracle ≠ attestation.oracle) :
    Accepts threshold electorate deposit.votes attestation.vote where
  pending := sound.pending_open pending
  eligible := eligible
  fresh := by
    intro vote member
    obtain ⟨earlier, recorded, rfl⟩ := List.mem_map.mp member
    exact fresh earlier recorded

/-- An accepted vote keeps the tally sound: it goes into the box, its counter moves, and the new
state is what the outcome dictates. -/
theorem TallySound.voted (sound : TallySound threshold electorate deposit)
    (pending : deposit.state = .pending) (eligible : attestation.oracle ∈ electorate)
    (fresh : ∀ earlier ∈ deposit.attestations, earlier.oracle ≠ attestation.oracle)
    (early : attestation.timestamp < deposit.expireAt)
    (unsaturated : deposit.attestations.length < 255) :
    TallySound threshold electorate (deposit.voted threshold attestation) := by
  obtain ⟨clean, dirty, state⟩ := sound.counted pending unsaturated
  refine ⟨?_, ?_, ?_, ?_, ?_⟩
  · rw [votes_voted]
    exact .taken sound.box (sound.accepts pending eligible fresh)
  · rw [votes_voted, clean]
  · rw [votes_voted, dirty]
  · rw [votes_voted, state]
    cases outcome threshold (deposit.votes ++ [attestation.vote]) <;> rfl
  · intro recorded member
    rcases List.mem_append.mp
        (show recorded ∈ deposit.attestations ++ [attestation] from member) with
      inside | last
    · exact sound.early recorded inside
    · rwa [List.mem_singleton.mp last]

end Vote

/-- A payout keeps the tally sound: a release follows an approval, a refund a
rejection or an open vote. -/
theorem TallySound.paid [DecidableEq Key] {threshold : Nat} {electorate : List Key}
    {deposit : Deposit Key} {ctx : Context Key} {final : DepositState}
    (sound : TallySound threshold electorate deposit) (due : Due ctx deposit final) :
    TallySound threshold electorate { deposit with state := final } := by
  refine ⟨sound.box, sound.clean, sound.dirty, ?_, sound.early⟩
  have dictated := sound.dictated
  cases due with
  | released approved signed =>
    rw [approved, Dictated] at dictated
    exact dictated
  | refunded allowed =>
    have undefeated : outcome threshold deposit.votes ≠ .carried := by
      rcases (refundable_iff ..).mp allowed with rejected | expired | ⟨pending, _⟩
      · rw [rejected, Dictated] at dictated
        simp [dictated]
      · rw [expired, Dictated] at dictated
        exact dictated.elim
      · rw [pending, Dictated] at dictated
        simp [dictated]
    exact undefeated

section Counts

variable {threshold : Nat} {electorate : List Key} {deposit : Deposit Key}

/-- An open deposit has both counters below the threshold. -/
theorem TallySound.pending (sound : TallySound threshold electorate deposit)
    (state : deposit.state = .pending) :
    deposit.cleanCount < threshold ∧ deposit.dirtyCount < threshold := by
  rw [sound.clean, sound.dirty]
  exact ((outcome_undecided_iff _ _).mp (sound.pending_open state)).symm

/-- An approved or released deposit has exactly a threshold of clean votes. -/
theorem TallySound.approved (sound : TallySound threshold electorate deposit)
    (positive : 1 ≤ threshold) (state : deposit.state = .approved ∨ deposit.state = .released) :
    deposit.cleanCount = threshold ∧ deposit.dirtyCount < threshold := by
  have dictated := sound.dictated
  have carried : outcome threshold deposit.votes = .carried := by
    rcases state with state | state
    · rwa [state] at dictated
    · rwa [state] at dictated
  rw [sound.clean, sound.dirty]
  exact sound.box.carried positive carried

/-- A rejected deposit has exactly a threshold of dirty votes. -/
theorem TallySound.rejected (sound : TallySound threshold electorate deposit)
    (positive : 1 ≤ threshold) (state : deposit.state = .rejected) :
    deposit.dirtyCount = threshold ∧ deposit.cleanCount < threshold := by
  have dictated := sound.dictated
  rw [state] at dictated
  rw [sound.clean, sound.dirty]
  exact sound.box.defeated positive dictated

/-- A refunded deposit never had a threshold of clean votes. -/
theorem TallySound.refunded (sound : TallySound threshold electorate deposit)
    (positive : 1 ≤ threshold) (state : deposit.state = .refunded) :
    deposit.cleanCount < threshold := by
  have dictated := sound.dictated
  rw [state] at dictated
  rw [sound.clean]
  cases result : outcome threshold deposit.votes with
  | undecided => exact ((outcome_undecided_iff _ _).mp result).2
  | carried => exact absurd result dictated
  | defeated => exact (sound.box.defeated positive result).2

end Counts

/-- A deposit with at most sixteen attestations fits in its account. -/
theorem deposit_fits {deposit : Deposit Key}
    (capacity : deposit.attestations.length ≤ maxAttestations) :
    8 + deposit.borshLen ≤ depositSpace := by
  simp only [Deposit.borshLen, depositSpace, depositInitSpace, attestationLen]
  omega

/-- The tally of a deposit, field by field: who voted and when, what the counters
count, that everything fits, and what each state says about the counters. -/
structure Represented [DecidableEq Key] (vault : Vault Key) (deposit : Deposit Key) : Prop where
  distinct : (deposit.attestations.map Attestation.oracle).Nodup
  listed : ∀ attestation ∈ deposit.attestations, attestation.oracle ∈ vault.oracleSet
  dated : ∀ attestation ∈ deposit.attestations,
    deposit.createdAt ≤ attestation.timestamp ∧ attestation.timestamp < deposit.expireAt
  clean : deposit.cleanCount = deposit.attestations.countP (·.verdict = .clean)
  dirty : deposit.dirtyCount = deposit.attestations.countP (·.verdict = .dirty)
  size : deposit.attestations.length ≤ vault.oracleSet.toFinset.card
  capacity : deposit.attestations.length ≤ maxAttestations
  fits : 8 + deposit.borshLen ≤ depositSpace
  push_fits : ∀ oracleKey now verdict evidenceHash voted,
    Attest.handler vault deposit oracleKey now verdict evidenceHash = .ok voted →
      8 + voted.borshLen ≤ depositSpace
  unsaturated : deposit.cleanCount < 255 ∧ deposit.dirtyCount < 255
  pending : deposit.state = .pending →
    deposit.cleanCount < vault.minAttestations ∧ deposit.dirtyCount < vault.minAttestations
  approved : deposit.state = .approved ∨ deposit.state = .released →
    deposit.cleanCount = vault.minAttestations ∧ deposit.dirtyCount < vault.minAttestations
  rejected : deposit.state = .rejected →
    deposit.dirtyCount = vault.minAttestations ∧ deposit.cleanCount < vault.minAttestations
  refunded : deposit.state = .refunded → deposit.cleanCount < vault.minAttestations

/-- A sound tally is represented as its fields say, given that no vote is older
than the deposit. -/
theorem TallySound.represented [DecidableEq Key] {vault : Vault Key} {deposit : Deposit Key}
    (sound : TallySound vault.minAttestations vault.oracleSet deposit)
    (few : vault.oracleSet.length ≤ maxOracles) (positive : 1 ≤ vault.minAttestations)
    (ordered : ∀ attestation ∈ deposit.attestations, deposit.createdAt ≤ attestation.timestamp) :
    Represented vault deposit := by
  have capacity := sound.capacity few
  have small : maxAttestations < 255 := by decide
  have total := sound.total
  refine {
    distinct := by
      simpa [Deposit.votes, Attestation.vote, Function.comp_def] using sound.box.distinct
    listed := ?_
    dated := fun attestation member => ⟨ordered attestation member, sound.early attestation member⟩
    clean := by rw [sound.clean, ← tally_votes]; rfl
    dirty := by rw [sound.dirty, ← tally_votes]; rfl
    size := sound.size
    capacity
    fits := deposit_fits capacity
    push_fits := ?_
    unsaturated := by omega
    pending := sound.pending
    approved := sound.approved positive
    rejected := sound.rejected positive
    refunded := sound.refunded positive }
  · intro attestation member
    exact sound.box.eligible attestation.vote (List.mem_map_of_mem member)
  · intro oracleKey now verdict evidenceHash voted handled
    obtain ⟨pending, eligible, fresh, early, rfl⟩ := (attest_handler_ok_iff ..).mp handled
    exact deposit_fits ((sound.voted pending eligible fresh early (by omega)).capacity few)

/-- Every stored deposit has a sound tally for its vault: an invariant of the reachable
worlds. -/
def Tallied (w : World Key) : Prop :=
  ∀ key deposit vault, w.data key = .program (.deposit deposit) →
    w.data deposit.vault = .program (.vault vault) →
      TallySound vault.minAttestations vault.oracleSet deposit

section Steps

variable [DecidableEq Key] [Inhabited Key] {rt : Runtime Key} {w w' : World Key} {event : Event Key}

/-- A deposit found before and after a step answers to the same threshold and
oracles, whatever the step did to the vault's counter. -/
theorem same_electorate (sound : Sound rt w) (effect : Effect rt w event w') {key : Key}
    {vault after : Vault Key} (before : w.data key = .program (.vault vault))
    (found : w'.data key = .program (.vault after)) :
    after.minAttestations = vault.minAttestations ∧ after.oracleSet = vault.oracleSet := by
  obtain ⟨count, stays⟩ := vault_stays effect before (sound.vaults _ _ before).funded
  have same : { vault with depositCount := count } = after := by simpa [stays] using found
  rw [← same]
  exact ⟨rfl, rfl⟩

/-- Every step keeps the tallies sound: a vote by the lemma on votes, a payout as it leaves the
counters, and all else as it leaves the deposit. -/
theorem tallied_step (lawful : Lawful rt) (injective : SeedsInjective rt) (sound : Sound rt w)
    (tallied : Tallied w) (step : Step rt w event w') : Tallied w' := by
  intro key deposit vault found atVault
  have effect := step_effect lawful step
  cases deposit_change effect found with
  | @opened ctx instruction opening earlier record view here spec =>
    obtain ⟨_, _, _, filled⟩ := (new_deposit_ok_iff ..).mp spec.accepted
    have positive := (sound_vault lawful sound effect atVault).positive
    rw [filled]
    exact .empty positive rfl rfl rfl rfl
  | @attested ctx accounts verdict evidenceHash voted before after here spec =>
    obtain ⟨pending, eligible, fresh, early, rfl⟩ := (attest_handler_ok_iff ..).mp spec.handled
    have house := attested_vault injective sound spec
    have at_house := house ▸ spec.at_vault
    obtain ⟨threshold, oracles⟩ := same_electorate sound effect at_house atVault
    have previous := tallied _ _ _ spec.at_deposit at_house
    have capacity := previous.capacity (sound.vaults _ _ at_house).few
    have unsaturated : before.attestations.length < 255 := lt_of_le_of_lt capacity (by decide)
    rw [threshold, oracles]
    exact previous.voted pending eligible fresh early unsaturated
  | @paid ctx instruction payout payer before view here spec =>
    obtain ⟨house, at_house⟩ := (sound.deposits _ _ spec.at_deposit).housed
    obtain ⟨threshold, oracles⟩ := same_electorate sound effect at_house atVault
    rw [threshold, oracles]
    exact (tallied _ _ _ spec.at_deposit at_house).paid spec.due
  | kept before spared =>
    obtain ⟨house, at_house⟩ := (sound.deposits _ _ before).housed
    obtain ⟨threshold, oracles⟩ := same_electorate sound effect at_house atVault
    rw [threshold, oracles]
    exact tallied _ _ _ before at_house

/-- Every reachable world has sound tallies. -/
theorem Reached.tallied (lawful : Lawful rt) (injective : SeedsInjective rt)
    {events : List (Event Key)} (reached : Reached rt events w) : Tallied w := by
  obtain ⟨start, genesis, run⟩ := reached
  have initial : Tallied start := fun key _ _ stored => absurd stored (genesis.vacant key _)
  have preserved : ∀ before event after, Sound rt before → Tallied before →
      Step rt before event after → Tallied after := fun _ _ _ => tallied_step lawful injective
  exact run_invariant lawful preserved (genesis_sound genesis) initial run

/-- In every world reached with a clock that never goes back, a deposit's tally is represented as
its fields say: distinct listed voters within the deposit's time, counters that count the votes
of each verdict, room for what the next vote adds, and a state that says which counter stands at
the threshold.

Proof: all but the dates is an invariant of the reachable worlds, which an accepted vote
preserves. The dates are those of the votes in the run since the creation. -/
theorem tally_representation (lawful : Lawful rt) (injective : SeedsInjective rt)
    {events : List (Event Key)} (reached : Reached rt events w) (forward : Forward events)
    {key : Key} {deposit : Deposit Key} (found : depositAt w key = some deposit) :
    ∃ vault, vaultAt w deposit.vault = some vault ∧ Represented vault deposit := by
  have at_key := deposit_at_iff.mp found
  have sound := reached.sound lawful
  obtain ⟨vault, at_house⟩ := (sound.deposits _ _ at_key).housed
  have vaultSound := sound.vaults _ _ at_house
  obtain ⟨before, since, ctx, instruction, opening, created⟩ := reached.created lawful at_key
  have tally := reached.tallied lawful injective _ _ _ at_key at_house
  refine ⟨vault, vault_at_iff.mpr at_house, ?_⟩
  exact tally.represented vaultSound.few vaultSound.positive
    (fun attestation recorded => created.ordered forward recorded)

end Steps

/-- The cleared deposit of the sample is represented by its votes. -/
theorem cleared_deposit_represented : ∃ deposit,
    depositAt (Local.after Local.clearedDeposit) Local.depositKey = some deposit ∧
    deposit.state = .approved ∧
    ∃ vault, vaultAt (Local.after Local.clearedDeposit) deposit.vault = some vault ∧
      Represented vault deposit := by
  obtain ⟨deposit, found, approved⟩ : ∃ deposit,
      depositAt (Local.after Local.clearedDeposit) Local.depositKey = some deposit ∧
        deposit.state = .approved :=
    ⟨_, rfl, by decide +kernel⟩
  exact ⟨deposit, found, approved, tally_representation Local.runtime_lawful Local.runtime_injective
    Local.cleared_reached (by decide +kernel) found⟩

end GPay.Quarantine
