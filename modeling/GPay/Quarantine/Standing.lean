import GPay.Quarantine.Local
import GPay.Quarantine.Solvency

/-!
# Deposits of lamports stand

A payout of lamports takes the amount of a deposit and leaves the rent of its account, so
that the account is never collected. From its creation on a deposit of lamports stands in
the way of every other deposit at its address; only a deposit of tokens can be drained of
the lamports of its account and be followed by another one.
-/

namespace GPay.Quarantine

open Solana Runs

variable {Key : Type} [Inhabited Key]

/-- The accounts of deposits of lamports have their rent, before their payout and after it. -/
def Rented (rt : Runtime Key) (w : World Key) : Prop :=
  ∀ key deposit, w.data key = .program (.deposit deposit) → deposit.mint = default →
    rt.minimumBalance depositSpace ≤ w.lamports key

variable [DecidableEq Key] {rt : Runtime Key} {w w' : World Key} {event : Event Key} {key : Key}

/-- A payout of a deposit of lamports leaves its rent, which its account had on top of the
amount. -/
theorem PaidOut.rented (held : LamportsHeld rt w) {ctx : Context Key}
    {payout : Payout Key} {vault : Vault Key} {deposit : Deposit Key}
    (spec : PaidOut rt ctx payout vault deposit w w') (recorded : deposit.mint = default) :
    rt.minimumBalance depositSpace ≤ w'.lamports payout.deposit := by
  have before := held _ _ spec.at_deposit recorded (due_unpaid spec.due)
  cases lamports : payout.escrow with
  | some escrow =>
    have grown := spec.lamports _ _ spec.at_deposit (.inr (by simp [lamports]))
    omega
  | none =>
    have paid := spec.paid
    rw [Paid, lamports] at paid
    obtain ⟨covered, moved, -⟩ := paid
    rw [moved]
    by_cases leaves : payout.deposit = payout.target
    · rw [← leaves, World.lamports_move_self w _ _ _ covered]
      omega
    · rw [World.lamports_move w leaves, if_neg leaves, if_pos rfl]
      omega

/-- A step keeps the rent of deposits of lamports, by where the deposit found after it comes
from. -/
theorem rented_step (lawful : Lawful rt) (held : LamportsHeld rt w) (rented : Rented rt w)
    (step : Step rt w event w') : Rented rt w' := by
  intro key deposit found recorded
  have effect := step_effect lawful step
  cases deposit_change effect found with
  | opened view here spec => exact here ▸ spec.rent
  | attested here spec =>
    subst here
    obtain ⟨-, -, -, -, rfl⟩ := (attest_handler_ok_iff ..).mp spec.handled
    rw [spec.saved, World.lamports_set_data]
    exact rented _ _ spec.at_deposit recorded
  | paid view here spec => exact here ▸ spec.rented held recorded
  | kept before spared =>
    exact (rented key deposit before recorded).trans
      (deposit_credited effect before spared.unpaid)

/-- In every reachable world the accounts of deposits of lamports have their rent. -/
theorem Reached.rented (lawful : Lawful rt) {events : List (Event Key)}
    (reached : Reached rt events w) : Rented rt w := by
  obtain ⟨start, genesis, run⟩ := reached
  induction run with
  | nil => exact fun key _ stored => absurd stored (genesis.vacant key _)
  | snoc earlier last rented =>
    have before : Reached rt _ _ := ⟨start, genesis, earlier⟩
    exact rented_step lawful (before.lamports_held lawful) rented last

/-- What stands at an address in the course of a run: the deposit with its terms and its rent,
never opened again, and paid out at most once, together with what is still unpaid. -/
structure Stands (rt : Runtime Key) (key : Key) (deposit after : Deposit Key)
    (since : List (Event Key)) (w : World Key) : Prop where
  found : depositAt w key = some after
  terms : deposit.SameTerms after
  rent : rt.minimumBalance depositSpace ≤ w.lamports key
  unopened : ∀ event ∈ since, ¬ event.Opens key
  paid : since.countP (fun event => decide (event.Pays key)) + unpaid key w ≤
    if deposit.state.Final then 0 else 1
  final : deposit.state.Final → after.state = deposit.state

/-- A deposit of lamports is still there after every run, with what stands at its address.

Proof: by induction on the run. Its account has its rent, so that it is not collected, and its
address is occupied, so that nothing is opened there. -/
theorem stands_run (lawful : Lawful rt) {events since : List (Event Key)}
    (reached : Reached rt events w) {deposit : Deposit Key}
    (found : depositAt w key = some deposit) (recorded : deposit.mint = default)
    (run : Run (Step rt) w since w') : ∃ after, Stands rt key deposit after since w' := by
  induction run with
  | nil =>
    have rent := reached.rented lawful key deposit (deposit_at_iff.mp found) recorded
    refine ⟨deposit, found, .refl _, rent, by simp, ?_, fun _ => rfl⟩
    simp [unpaid, found]
  | @snoc since middle after event earlier last stands =>
    obtain ⟨current, standing⟩ := stands
    have before : Reached rt (events ++ since) middle := reached.append earlier
    have at_key := deposit_at_iff.mp standing.found
    have lamports : current.mint = default := by rw [standing.terms]; exact recorded
    have rented := rented_step lawful (before.lamports_held lawful) (before.rented lawful) last
    have funded : 0 < middle.lamports key := (lawful.rent_positive _).trans_le standing.rent
    have effect := step_effect lawful last
    obtain ⟨next, at_next⟩ : ∃ next, after.data key = .program (.deposit next) := by
      rcases deposit_stays effect at_key with stays | ⟨-, empty, -⟩
      · exact stays
      · omega
    have change := deposit_change effect at_next
    have terms := change.same_terms at_key
    have nextLamports : next.mint = default := by rw [terms]; exact lamports
    refine ⟨next, deposit_at_iff.mpr at_next, standing.terms.trans terms,
      rented key next at_next nextLamports, ?_, ?_, ?_⟩
    · intro other listed
      rcases List.mem_append.mp listed with listed | listed
      · exact standing.unopened other listed
      · obtain rfl := List.mem_singleton.mp listed
        rintro ⟨opening, view, here⟩
        obtain ⟨ctx, vault, record, spec⟩ := opens_out lawful last view
        exact World.apart (here ▸ spec.empty) at_key (by simp) rfl
    · have used := payout_uses lawful last (fun _ _ _ => funded)
      have paid := standing.paid
      rw [List.countP_append, List.countP_singleton]
      by_cases pays : event.Pays key
      · simp only [pays, decide_true, Bool.toNat_true, if_true] at used ⊢
        omega
      · simp only [pays, decide_false, Bool.toNat_false, Bool.false_eq_true, if_false] at used ⊢
        omega
    · intro final
      have kept := standing.final final
      have stays := (change.final_stays at_key (kept ▸ final)).1
      exact stays.trans kept

/-- A deposit of lamports outlives every run, its account being never collected: it keeps its
terms and its rent, it is paid out at most once, and every call that would make another deposit
at its address is refused.

Proof: a payout of lamports must leave the account its rent, so that the account never becomes
empty. While it stands, its address is occupied. -/
theorem lamport_deposit_stands (lawful : Lawful rt) {events since : List (Event Key)}
    (reached : Reached rt events w) {deposit : Deposit Key}
    (found : depositAt w key = some deposit) (recorded : deposit.mint = default)
    (run : Run (Step rt) w since w') :
    (∃ after, Stands rt key deposit after since w') ∧
      ∀ ctx instruction opening, instruction.opening = some opening → opening.deposit = key →
        ∃ error, exec rt ctx instruction w' = .error error := by
  obtain ⟨after, standing⟩ := stands_run lawful reached found recorded run
  refine ⟨⟨after, standing⟩, ?_⟩
  intro ctx instruction opening view here
  cases executed : exec rt ctx instruction w' with
  | error error => exact ⟨error, rfl⟩
  | ok opened =>
    obtain ⟨_, _, _, spec⟩ := opens_out lawful (.call executed) view
    exact absurd rfl (World.apart (here ▸ spec.empty) (deposit_at_iff.mp standing.found) (by simp))

namespace Local

/-- The fresh deposit is cleared, released and left to the collector. -/
def clearedAndReleased : List (Event Address) :=
  [vote 1002 (.wallet 2) .clean, vote 1003 (.wallet 4) .clean,
    .call (context 1005) (releaseTo (.wallet 1)), .reap]

/-- The released deposit stands in the way of the one that was made at its address. -/
theorem fresh_stands :
    (∃ deposit, Stands runtime depositKey (fresh 1001 default 500) deposit clearedAndReleased
      (afterFrom (after freshDeposit) clearedAndReleased)) ∧
    ∃ error, exec runtime (context 1006) (.deposit ⟨.wallet 1, vaultKey, depositKey⟩ (terms 500))
      (afterFrom (after freshDeposit) clearedAndReleased) = .error error := by
  have found : depositAt (after freshDeposit) depositKey = some (fresh 1001 default 500) := by
    decide +kernel
  have run : Run (Step runtime) (after freshDeposit) clearedAndReleased
      (afterFrom (after freshDeposit) clearedAndReleased) := after_run (by decide +kernel)
  obtain ⟨stands, refused⟩ := lamport_deposit_stands runtime_lawful fresh_reached found rfl run
  exact ⟨stands, refused _ _ _ rfl rfl⟩

end Local

end GPay.Quarantine
