import GPay.Quarantine.Assets

/-!
# What a payout of lamports does to every balance

The balance of the deposit account is written before the balance of the target is
read. Between two accounts this moves the amount, whoever else they belong to. On one
account the credit undoes the debit, and the deposit is over with nothing paid.
-/

namespace GPay.Quarantine

open Solana

variable {Key : Type} [DecidableEq Key]

/-- The amount leaves the deposit account and reaches the target, no other account notices,
and none of it is lost. -/
structure Deltas (payout : Payout Key) (amount : Nat) (w w' : World Key) : Prop where
  debited : w'.lamports payout.deposit + amount = w.lamports payout.deposit
  credited : w'.lamports payout.target = w.lamports payout.target + amount
  others : ∀ key, key ≠ payout.deposit → key ≠ payout.target → w'.lamports key = w.lamports key
  conserved : ∀ keys : Finset Key, payout.deposit ∈ keys → payout.target ∈ keys →
    ∑ key ∈ keys, w'.lamports key = ∑ key ∈ keys, w.lamports key

variable {rt : Runtime Key} {ctx : Context Key} {payout : Payout Key} {vault : Vault Key}
  {deposit : Deposit Key} {w w' : World Key}

/-- The balances after a payout are those after a move of the amount. -/
theorem LamportPayout.moved (spec : LamportPayout rt ctx payout vault deposit w w') (key : Key) :
    w'.lamports key = (w.move payout.deposit payout.target deposit.amount).lamports key := by
  simp [spec.saved]

/-- A payout has its deltas exactly when it is to another account, or of nothing: a move from an
account to itself leaves its balance. -/
theorem LamportPayout.deltas_iff (spec : LamportPayout rt ctx payout vault deposit w w') :
    Deltas payout deposit.amount w w' ↔
      payout.target ≠ payout.deposit ∨ deposit.amount = 0 := by
  have covered := spec.covered
  constructor
  · intro deltas
    by_contra stays
    obtain ⟨same, positive⟩ := not_or.mp stays
    have debited := deltas.debited
    rw [spec.moved, not_not.mp same, World.lamports_move_self w _ _ _ covered] at debited
    omega
  · intro leaves
    by_cases same : payout.target = payout.deposit
    · have nothing : deposit.amount = 0 := leaves.resolve_left (not_not_intro same)
      have still : ∀ key, w'.lamports key = w.lamports key := by
        intro key
        rw [spec.moved, same, World.lamports_move_self w _ _ _ covered]
      exact ⟨by rw [still, nothing, Nat.add_zero], by rw [still, nothing, Nat.add_zero],
        fun key _ _ => still key, fun keys _ _ => Finset.sum_congr rfl (fun key _ => still key)⟩
    · have distinct : payout.deposit ≠ payout.target := Ne.symm same
      refine ⟨?_, ?_, ?_, ?_⟩
      · rw [spec.moved, World.lamports_move w distinct, if_neg distinct, if_pos rfl]
        omega
      · rw [spec.moved, World.lamports_move w distinct, if_pos rfl]
      · intro key apart elsewhere
        rw [spec.moved, World.lamports_move w distinct, if_neg elsewhere, if_neg apart]
      · intro keys source target
        rw [← w.sum_move distinct covered source target]
        exact Finset.sum_congr rfl (fun key _ => spec.moved key)

variable [Inhabited Key]

/-- `release` and `refund` are the payouts of lamports. -/
theorem lamport_payout_of_exec {instruction : Instruction Key}
    (executed : exec rt ctx instruction w = .ok w') (view : instruction.payout = some payout)
    (lamports : payout.escrow = none) :
    ∃ vault deposit, LamportPayout rt ctx payout vault deposit w w' := by
  cases instruction with
  | release accounts =>
    obtain rfl := Option.some.inj view
    obtain ⟨vault, deposit, _, _, spec⟩ := release_ok_iff.mp executed
    exact ⟨vault, deposit, spec⟩
  | refund accounts =>
    obtain rfl := Option.some.inj view
    obtain ⟨vault, deposit, _, _, _, spec⟩ := refund_ok_iff.mp executed
    exact ⟨vault, deposit, spec⟩
  | releaseToken accounts =>
    obtain rfl := Option.some.inj view
    nomatch lamports
  | refundToken accounts =>
    obtain rfl := Option.some.inj view
    nomatch lamports
  | _ => nomatch view

/-- A successful `release` or `refund` has the deltas of its amount, that is, the deposit account
loses the amount, the target gains it and no other account notices, exactly when its target is
not the deposit account, or the amount is zero.

Proof: the handler takes the amount from the deposit account and then gives it to the target.
When the two are one account, the sum is zero, which is the delta of no other amount. -/
theorem payout_deltas_iff {instruction : Instruction Key}
    (executed : exec rt ctx instruction w = .ok w') (view : instruction.payout = some payout)
    (lamports : payout.escrow = none) :
    ∃ deposit, depositAt w payout.deposit = some deposit ∧
      depositAt w' payout.deposit = some { deposit with state := payout.outcome } ∧
      (Deltas payout deposit.amount w w' ↔
        payout.target ≠ payout.deposit ∨ deposit.amount = 0) := by
  obtain ⟨vault, deposit, spec⟩ := lamport_payout_of_exec executed view lamports
  have saved : w'.data payout.deposit =
      .program (.deposit { deposit with state := payout.outcome }) := spec.paid_out.saved
  exact ⟨deposit, deposit_at_iff.mpr spec.at_deposit, deposit_at_iff.mpr saved, spec.deltas_iff⟩

namespace Local

/-- The world after the cleared deposit is released to an account. -/
def releasedTo (target : Address) : World Address :=
  called (context 1004) (releaseTo target) (after clearedDeposit)

/-- A release to its own vault moves the amount. -/
theorem released_to_vault : ∃ deposit, depositAt (after clearedDeposit) depositKey = some deposit ∧
    Deltas ⟨vaultKey, depositKey, none, vaultKey, .released⟩ deposit.amount
      (after clearedDeposit) (releasedTo vaultKey) := by
  have executed : (exec runtime (context 1004) (releaseTo vaultKey) (after clearedDeposit)).isOk =
      true := by decide +kernel
  obtain ⟨deposit, found, _, deltas⟩ := payout_deltas_iff (called_ok executed) rfl rfl
  exact ⟨deposit, found, deltas.mpr (.inl (by decide))⟩

/-- Released to its own account, a deposit is over and its balance is as it was. -/
theorem released_to_itself :
    Reached runtime clearedDeposit (after clearedDeposit) ∧
    exec runtime (context 1004) (releaseTo depositKey) (after clearedDeposit) =
      .ok (releasedTo depositKey) ∧
    ∃ deposit, depositAt (after clearedDeposit) depositKey = some deposit ∧
      depositAt (releasedTo depositKey) depositKey = some { deposit with state := .released } ∧
      ¬ Deltas ⟨vaultKey, depositKey, none, depositKey, .released⟩ deposit.amount
        (after clearedDeposit) (releasedTo depositKey) := by
  have executed : exec runtime (context 1004) (releaseTo depositKey) (after clearedDeposit) =
      .ok (releasedTo depositKey) := called_ok (by decide +kernel)
  obtain ⟨vault, deposit, spec⟩ := lamport_payout_of_exec executed rfl rfl
  have saved : (releasedTo depositKey).data depositKey =
      .program (.deposit { deposit with state := .released }) := spec.paid_out.saved
  refine ⟨cleared_reached, executed, deposit, deposit_at_iff.mpr spec.at_deposit,
    deposit_at_iff.mpr saved, ?_⟩
  have amount : (depositAt (after clearedDeposit) depositKey).map Deposit.amount = some 500 := by
    decide +kernel
  rw [deposit_at_iff.mpr spec.at_deposit, Option.map_some, Option.some.injEq] at amount
  rw [spec.deltas_iff, amount]
  decide

end Local

end GPay.Quarantine
