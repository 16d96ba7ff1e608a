import GPay.Quarantine.Lifecycle

/-!
# Identity of deposits

A deposit's address is derived from its vault, stealth key and ephemeral point, and
creation needs an empty address. So the same three cannot make a second deposit as
long as the account of the first exists, and while it exists its terms are those
of its creation.

The lamport payouts do not keep the rent of the account they debit. One that pays
out exactly the account's balance leaves an empty account, which the end of the
transaction collects. Only a deposit of tokens can be emptied in this way, as one of
lamports is covered above its rent. A vault's counter counts every creation.
-/

namespace GPay.Quarantine

open Solana Runs

variable {Key : Type} [Inhabited Key]

/-- The event creates a deposit from the three: a vault, a stealth key and an ephemeral point,
the seeds of its address. -/
def Event.Makes (vaultKey stealthPubkey : Key) (ephemeralR : Bytes32) (event : Event Key) : Prop :=
  ∃ opening, event.opening = some opening ∧ opening.vault = vaultKey ∧
    opening.args.stealthPubkey = stealthPubkey ∧ opening.args.ephemeralR = ephemeralR

/-- The event creates a deposit under the vault. -/
def Event.MakesUnder (vaultKey : Key) (event : Event Key) : Prop :=
  ∃ opening, event.opening = some opening ∧ opening.vault = vaultKey

variable [DecidableEq Key]

instance (vaultKey stealthPubkey : Key) (ephemeralR : Bytes32) (event : Event Key) :
    Decidable (event.Makes vaultKey stealthPubkey ephemeralR) :=
  match opened : event.opening with
  | none => isFalse (fun ⟨_, found, _⟩ => by simp [opened] at found)
  | some opening => decidable_of_iff (opening.vault = vaultKey ∧
      opening.args.stealthPubkey = stealthPubkey ∧ opening.args.ephemeralR = ephemeralR)
      (by simp [Event.Makes, opened])

instance (vaultKey : Key) (event : Event Key) : Decidable (event.MakesUnder vaultKey) :=
  match opened : event.opening with
  | none => isFalse (fun ⟨_, found, _⟩ => by simp [opened] at found)
  | some opening => decidable_of_iff (opening.vault = vaultKey) (by simp [Event.MakesUnder, opened])

/-- The step does not collect the account of a deposit, with or without a payout before it. -/
def Preserving (w : World Key) (event : Event Key) : Prop := ∀ key, Retains key w event

/-- The step does not pay out the whole balance of a deposit's account to another, after which
the account would be collected. -/
def Undrained (w : World Key) (event : Event Key) : Prop :=
  ∀ payout, event.payout = some payout → payout.escrow = none → payout.target ≠ payout.deposit →
    ∀ deposit, depositAt w payout.deposit = some deposit →
      w.lamports payout.deposit ≠ deposit.amount

instance (w : World Key) (event : Event Key) : Decidable (Undrained w event) :=
  match paid : event.payout with
  | none => isTrue (fun _ same => by simp [paid] at same)
  | some payout =>
      match found : depositAt w payout.deposit with
      | none => isTrue (by simp [Undrained, paid, found])
      | some deposit => decidable_of_iff (payout.escrow.isNone → payout.target ≠ payout.deposit →
          w.lamports payout.deposit ≠ deposit.amount) (by simp [Undrained, paid, found])

/-- Whether a deposit may still be created from the three: one as long as their address is
empty. -/
def unmade (rt : Runtime Key) (vaultKey stealthPubkey : Key) (ephemeralR : Bytes32)
    (w : World Key) : Nat :=
  match rt.findProgramAddress (Seeds.deposit vaultKey stealthPubkey ephemeralR).list with
  | some (key, _) => if (depositAt w key).isSome then 0 else 1
  | none => 0

/-- The deposits counted by the vault stored at an address. -/
def depositCount (w : World Key) (key : Key) : Nat :=
  match vaultAt w key with
  | some vault => vault.depositCount
  | none => 0

variable {rt : Runtime Key} {w w' : World Key} {event : Event Key}

/-- A preserved deposit stays, with its terms. -/
theorem preserved_deposit (lawful : Lawful rt) (step : Step rt w event w')
    (preserving : Preserving w event)
    {key : Key} {deposit : Deposit Key} (found : w.data key = .program (.deposit deposit)) :
    ∃ after, w'.data key = .program (.deposit after) ∧ deposit.SameTerms after := by
  have effect := step_effect lawful step
  rcases deposit_stays effect found with ⟨after, stays⟩ | ⟨collected, empty, _⟩
  · exact ⟨after, stays, (deposit_change effect stays).same_terms found⟩
  · have funded := preserving key collected deposit (deposit_at_iff.mpr found)
    omega

/-- A creation uses its three up, and steps that collect no deposit do not bring them back. -/
theorem making_uses (lawful : Lawful rt) (step : Step rt w event w')
    (preserving : Preserving w event) (vaultKey stealthPubkey : Key) (ephemeralR : Bytes32) :
    (decide (event.Makes vaultKey stealthPubkey ephemeralR)).toNat +
      unmade rt vaultKey stealthPubkey ephemeralR w' ≤
        unmade rt vaultKey stealthPubkey ephemeralR w := by
  by_cases makes : event.Makes vaultKey stealthPubkey ephemeralR
  · obtain ⟨opening, view, rfl, rfl, rfl⟩ := makes
    obtain ⟨ctx, vault, record, spec⟩ := opens_out lawful step view
    have free : depositAt w opening.deposit = none := by simp [depositAt, spec.empty]
    have unit := Bool.toNat_le
      (decide (event.Makes opening.vault opening.args.stealthPubkey opening.args.ephemeralR))
    simpa [unmade, spec.found, free, deposit_at_iff.mpr spec.saved] using unit
  · rw [decide_eq_false makes, Bool.toNat_false, Nat.zero_add, unmade, unmade]
    cases rt.findProgramAddress (Seeds.deposit vaultKey stealthPubkey ephemeralR).list with
    | none => exact le_refl _
    | some found =>
      cases before : depositAt w found.1 with
      | none =>
        simp only [before]
        split <;> simp
      | some deposit =>
        obtain ⟨after, stays, _⟩ :=
          preserved_deposit lawful step preserving (deposit_at_iff.mp before)
        simp [before, deposit_at_iff.mpr stays]

/-- A step counts the deposit it creates under a vault, up to the largest counter, and no other
step counts one. -/
theorem deposit_counted (lawful : Lawful rt) (sound : Sound rt w) (step : Step rt w event w')
    (key : Key) (fits : depositCount w key ≤ u64Max) :
    depositCount w' key =
      min u64Max (depositCount w key + (decide (event.MakesUnder key)).toNat) := by
  have effect := step_effect lawful step
  by_cases makes : event.MakesUnder key
  · obtain ⟨opening, view, rfl⟩ := makes
    obtain ⟨ctx, vault, record, spec⟩ := opens_out lawful step view
    have counts : decide (event.MakesUnder opening.vault) = true :=
      decide_eq_true ⟨opening, view, rfl⟩
    rw [counts]
    simp [depositCount, vault_at_iff.mpr spec.at_vault, vault_at_iff.mpr spec.counted,
      Vault.counted, saturatingAdd]
  · rw [decide_eq_false makes, Bool.toNat_false, Nat.add_zero, min_eq_right fits]
    cases after : vaultAt w' key with
    | none =>
      cases before : vaultAt w key with
      | none => simp [depositCount, before, after]
      | some vault =>
        have at_key := vault_at_iff.mp before
        obtain ⟨count, stays⟩ := vault_stays effect at_key (sound.vaults _ _ at_key).funded
        simp [vault_at_iff.mpr stays] at after
    | some vault =>
      cases vault_change effect (vault_at_iff.mp after) with
      | initialized here spec =>
        have fresh : vaultAt w key = none := by simp [vaultAt, ← here, spec.empty]
        rw [depositCount, depositCount, after, fresh, spec.filled]
      | counted view here spec => exact absurd ⟨_, view, here⟩ makes
      | kept before uncounted => simp [depositCount, after, vault_at_iff.mpr before]

/-- A vault's counter is the number of deposits made under it, up to the largest
counter. -/
theorem run_deposit_count (lawful : Lawful rt) {start : World Key} (genesis : Genesis start)
    {events : List (Event Key)} (run : Run (Step rt) start events w) (key : Key) :
    depositCount w key =
      min u64Max (events.countP (fun event => decide (event.MakesUnder key))) := by
  induction run with
  | nil =>
    have fresh : vaultAt start key = none := by
      cases found : vaultAt start key with
      | none => rfl
      | some vault => exact absurd (vault_at_iff.mp found) (genesis.vacant key _)
    simp [depositCount, fresh]
  | @snoc events middle finish event earlier last counted =>
    have sound := run_sound lawful (genesis_sound genesis) earlier
    rw [deposit_counted lawful sound last key (counted ▸ min_le_left _ _), counted,
      List.countP_append]
    have single : List.countP (fun event => decide (event.MakesUnder key)) [event] =
        (decide (event.MakesUnder key)).toNat := by
      cases made : decide (event.MakesUnder key) <;> simp_all
    rw [single]
    omega

/-- Every deposit's account has lamports. -/
def DepositsFunded (w : World Key) : Prop :=
  ∀ key deposit, w.data key = .program (.deposit deposit) → 0 < w.lamports key

/-- An undrained payout leaves lamports on the account, and no other step takes any from a
deposit. -/
theorem deposits_funded_step (lawful : Lawful rt) (funded : DepositsFunded w)
    (step : Step rt w event w') (undrained : Undrained w event) : DepositsFunded w' := by
  intro key deposit found
  have effect := step_effect lawful step
  cases deposit_change effect found with
  | opened view here spec =>
    exact here ▸ lt_of_lt_of_le (lawful.rent_positive depositSpace) spec.rent
  | attested here spec =>
    have before := funded _ _ spec.at_deposit
    rw [spec.saved, World.lamports_set_data, ← here]
    exact before
  | @paid ctx instruction payout vault before view here spec =>
    subst here
    have balance := funded _ _ spec.at_deposit
    have paid := spec.paid
    cases tokens : payout.escrow with
    | some escrow =>
      exact lt_of_lt_of_le balance (spec.lamports _ _ spec.at_deposit (.inr (by simp [tokens])))
    | none =>
      rw [Paid, tokens] at paid
      obtain ⟨covered, moved, _⟩ := paid
      rw [moved]
      by_cases leaves : payout.target = payout.deposit
      · rw [leaves, World.lamports_move_self w _ _ _ covered]
        exact balance
      · have rest := undrained payout view tokens leaves before (deposit_at_iff.mpr spec.at_deposit)
        rw [World.lamports_move w (Ne.symm leaves), if_neg (Ne.symm leaves), if_pos rfl]
        omega
  | kept before spared =>
    exact lt_of_lt_of_le (funded key deposit before) (deposit_credited effect before spared.unpaid)

/-- A run that drains no deposit collects none. -/
theorem undrained_preserving (lawful : Lawful rt) {start : World Key} (genesis : Genesis start)
    {events : List (Event Key)} (run : Run (Guarded (Step rt) Undrained) start events w) :
    Run (Guarded (Step rt) Preserving) start events w := by
  have initial : DepositsFunded start := fun key _ stored => absurd stored (genesis.vacant key _)
  have preserved : ∀ before event after, DepositsFunded before →
      Guarded (Step rt) Undrained before event after → DepositsFunded after :=
    fun _ _ _ funded taken => deposits_funded_step lawful funded taken.1 taken.2
  apply (run.assuming preserved initial).mono
  rintro before event after ⟨⟨step, _⟩, funded⟩
  exact ⟨step, fun key _ deposit found => funded key deposit (deposit_at_iff.mp found)⟩

/-- Each three made at most one deposit, the deposits keep their terms for the rest
of the run, and the vaults have counted them. -/
structure DepositIdentity (rt : Runtime Key) (events : List (Event Key)) (w : World Key) :
    Prop where
  once : ∀ vaultKey stealthPubkey ephemeralR,
    events.countP (fun event => decide (event.Makes vaultKey stealthPubkey ephemeralR)) ≤ 1
  terms : ∀ more w', Run (Guarded (Step rt) Preserving) w more w' → ∀ key deposit,
    depositAt w key = some deposit →
      ∃ after, depositAt w' key = some after ∧ deposit.SameTerms after
  counted : ∀ key vault, vaultAt w key = some vault →
    vault.depositCount = min u64Max (events.countP (fun event => decide (event.MakesUnder key)))

/-- In every run that collects no deposit's account, deposits keep their identity: a vault, a
stealth key and an ephemeral point make one deposit at most, its terms stay, and each vault has
counted its deposits. A run collects none when no payout of lamports takes a deposit's whole
balance.

Proof: the address that the three give is occupied by the first deposit, and a deposit that is
still there refuses a second, so that the creations and what can still be made come to one at
most. -/
theorem deposit_identity (lawful : Lawful rt) :
    (∀ start events w, Genesis start → Run (Guarded (Step rt) Preserving) start events w →
      DepositIdentity rt events w) ∧
    (∀ start events w, Genesis start → Run (Guarded (Step rt) Undrained) start events w →
      Run (Guarded (Step rt) Preserving) start events w) := by
  refine ⟨?_, fun start events w genesis run => undrained_preserving lawful genesis run⟩
  intro start events w genesis run
  refine ⟨?_, ?_, ?_⟩
  · intro vaultKey stealthPubkey ephemeralR
    have bound := run.count_le (fun _ _ _ taken =>
      making_uses lawful taken.1 taken.2 vaultKey stealthPubkey ephemeralR)
    have unit : unmade rt vaultKey stealthPubkey ephemeralR start ≤ 1 := by
      unfold unmade
      split
      · split <;> decide
      · decide
    omega
  · intro more w' onward key deposit found
    have keeps : ∀ first event second,
        (∃ middle, depositAt first key = some middle ∧ deposit.SameTerms middle) →
        Guarded (Step rt) Preserving first event second →
        ∃ after, depositAt second key = some after ∧ deposit.SameTerms after := by
      rintro first event second ⟨middle, stored, terms⟩ ⟨step, preserving⟩
      obtain ⟨after, stays, same⟩ :=
        preserved_deposit lawful step preserving (deposit_at_iff.mp stored)
      exact ⟨after, deposit_at_iff.mpr stays, terms.trans same⟩
    exact onward.invariant keeps ⟨deposit, found, .refl _⟩
  · intro key vault found
    have counted := run_deposit_count lawful genesis run.unguarded key
    rwa [depositCount, found] at counted

/-- A cleared deposit of lamports and its release. -/
def releasedDeposit : List (Event Address) :=
  Local.clearedDeposit ++ [.call (Local.context 1005) (Local.releaseTo (.wallet 1)), .reap]

/-- The run of the sample keeps the identity of its deposit. -/
theorem released_deposit_identity :
    DepositIdentity Local.runtime releasedDeposit (Local.afterGuarded Undrained releasedDeposit) :=
  (deposit_identity Local.runtime_lawful).1 _ _ _ Local.start_genesis
    ((deposit_identity Local.runtime_lawful).2 _ _ _ Local.start_genesis
      (Local.guarded_run (by decide +kernel)))

/-- A deposit of as many tokens as its account has lamports is released in lamports,
the empty account is collected, and the same three make a deposit of lamports. -/
def replayedDeposit : List (Event Address) :=
  Local.clearedTokens (Local.minimumBalance depositSpace) ++
    [.call (Local.context 1004) (Local.releaseTo (.wallet 1)), .reap,
      Local.depositLamports 1010 700]

/-- A cleared deposit of tokens is released as lamports, which drains its account. The account is
collected, and the same deposit is made a second time with another asset. -/
theorem deposit_replayed :
    Reached Local.runtime replayedDeposit (Local.after replayedDeposit) ∧
    replayedDeposit.countP (fun event =>
      decide (event.Makes Local.vaultKey (.wallet 8) Bytes32.zeros)) = 2 ∧
    (depositAt (Local.after (Local.clearedTokens (Local.minimumBalance depositSpace)))
      Local.depositKey).map (fun deposit => (deposit.mint, deposit.amount)) =
        some (.wallet 10, Local.minimumBalance depositSpace) ∧
    (depositAt (Local.after replayedDeposit) Local.depositKey).map
      (fun deposit => (deposit.mint, deposit.amount)) = some (default, 700) :=
  ⟨Local.after_reached (by decide +kernel), by decide +kernel, by decide +kernel, by decide +kernel⟩

end GPay.Quarantine
