import GPay.Quarantine.Acceptance
import GPay.Quarantine.Standing
import GPay.Quarantine.Wire

/-!
# What the runtime adds to the program's checks

The program decides on what it is shown of a transaction. Around it the runtime withholds
the leave to write a reserved address, and at the end it refuses a transaction that leaves
an account it may write without its rent. For payouts of lamports this comes to two
conditions on the account that is paid; the vault, the deposit and the one who signs were
settled when the deposit was made.
-/

namespace GPay.Quarantine

open Solana Runs

variable {Key : Type}

/-- Why a transaction is refused: by the program, or as these accounts would be left without
their rent. -/
inductive Refusal (Key : Type) where
  | program (error : Error)
  | rent (accounts : List Key)

/-- The account that is paid is no reserved one, and the runtime lets it end with the amount.
The deposit itself passes as its account keeps its rent. -/
structure Receivable (rt : Runtime Key) (w : World Key) (key target : Key) (amount : Nat) :
    Prop where
  free : rt.reserved target = false
  kept : target ≠ key → rt.rentKept target (w.account target)
    ⟨w.lamports target + amount, w.data target⟩ = true

variable [DecidableEq Key] [Inhabited Key]

/-- A transaction of one instruction, signed and asking to write as in the context: what is
left of the world, or why it is refused. A refused transaction leaves the world as it was.
The fee is not part of it: the runtime takes it from the payer beforehand. -/
def transact (rt : Runtime Key) (ctx : Context Key) (instruction : Instruction Key)
    (w : World Key) : Except (Refusal Key) (World Key) :=
  match exec rt (ctx.demoted rt) instruction w with
  | .error error => .error (.program error)
  | .ok w' =>
      match rt.unkept (ctx.demoted rt).writable w w' with
      | [] => .ok w'
      | accounts => .error (.rent accounts)

variable {rt : Runtime Key} {ctx : Context Key} {instruction : Instruction Key} {w w' : World Key}

/-- What a transaction leaves is what its instruction leaves, shown as the runtime shows it, if
the rent check lets it. -/
theorem transact_ok_iff :
    transact rt ctx instruction w = .ok w' ↔
      exec rt (ctx.demoted rt) instruction w = .ok w' ∧
        ∀ key ∈ (ctx.demoted rt).writable,
          rt.rentKept key (w.account key) (w'.account key) = true := by
  rw [← unkept_nil_iff]
  unfold transact
  split
  · rename_i failed
    simp [failed]
  · rename_i after executed
    simp only [executed, Except.ok.injEq]
    split
    · rename_i kept
      constructor
      · rintro ⟨⟩
        exact ⟨rfl, kept⟩
      · rintro ⟨rfl, -⟩
        rfl
    · rename_i accounts unkept
      constructor
      · rintro ⟨⟩
      · rintro ⟨rfl, kept⟩
        exact absurd kept unkept

/-- A transaction that gets through is a step of the program, by a call whose transaction the
runtime lets through as it is. So a run of transactions is one of permitted calls. -/
theorem transact_step (made : transact rt ctx instruction w = .ok w') :
    Guarded (Step rt) (fun _ event => event.Permitted rt) w
      (.call (ctx.demoted rt) instruction) w' :=
  ⟨.call (transact_ok_iff.mp made).1, demoted_permitted rt ctx⟩

/-- What the program refuses of a transaction is what it refuses of the instruction, shown as
the runtime shows it. -/
theorem transact_program_iff {error : Error} :
    transact rt ctx instruction w = .error (.program error) ↔
      exec rt (ctx.demoted rt) instruction w = .error error := by
  unfold transact
  split
  · rename_i failed
    simp [failed]
  · rename_i executed
    rw [executed]
    split <;> simp

section Payouts

variable {payout : Payout Key} {vault : Vault Key} {deposit : Deposit Key}

omit [Inhabited Key] in
/-- A payout of lamports passes the rent check when the account that is paid does.

Proof: the deposit's account keeps its rent behind the amount, and no account but these two
is another at the end. -/
theorem LamportPayout.kept_iff (checked : RentChecked rt Content.space)
    (held : rt.minimumBalance depositSpace + deposit.amount ≤ w.lamports payout.deposit)
    (spec : LamportPayout rt ctx payout vault deposit w w') :
    (∀ key ∈ ctx.writable, rt.rentKept key (w.account key) (w'.account key) = true) ↔
      (payout.target ≠ payout.deposit → rt.rentKept payout.target (w.account payout.target)
        ⟨w.lamports payout.target + deposit.amount, w.data payout.target⟩ = true) := by
  have saved := spec.saved
  have source : rt.rentKept payout.deposit (w.account payout.deposit)
      (w'.account payout.deposit) = true := by
    apply checked.stored _ _ _ (.deposit { deposit with state := payout.outcome })
    · show w'.data payout.deposit = _
      simp [saved]
    · show rt.minimumBalance depositSpace ≤ w'.lamports payout.deposit
      rw [saved, World.lamports_set_data]
      by_cases leaves : payout.deposit = payout.target
      · rw [← leaves, World.lamports_move_self w _ _ _ spec.covered]
        omega
      · rw [World.lamports_move w leaves, if_neg leaves, if_pos rfl]
        omega
  have target (leaves : payout.target ≠ payout.deposit) : w'.account payout.target =
      ⟨w.lamports payout.target + deposit.amount, w.data payout.target⟩ := by
    have lamports : w'.lamports payout.target = w.lamports payout.target + deposit.amount := by
      rw [saved, World.lamports_set_data, World.lamports_move w leaves.symm, if_pos rfl]
    have data : w'.data payout.target = w.data payout.target := by simp [saved, leaves]
    rw [← lamports, ← data]
    rfl
  constructor
  · intro kept leaves
    rw [← target leaves]
    exact kept _ spec.writable.2
  · intro kept key _
    by_cases atDeposit : key = payout.deposit
    · exact atDeposit ▸ source
    · by_cases atTarget : key = payout.target
      · subst atTarget
        rw [target atDeposit]
        exact kept atDeposit
      · have same : w'.account key = w.account key := by
          have lamports : w'.lamports key = w.lamports key := by
            rw [saved, World.lamports_set_data]
            by_cases leaves : payout.deposit = payout.target
            · rw [← leaves, World.lamports_move_self w _ _ _ spec.covered]
            · rw [World.lamports_move w leaves, if_neg atTarget, if_neg atDeposit]
          have data : w'.data key = w.data key := by simp [saved, atDeposit]
          show (⟨w'.lamports key, w'.data key⟩ : Account Key (Content Key)) = _
          rw [lamports, data]
          rfl
        rw [same]
        exact checked.kept key _

/-- A transaction that asks for a payout of a deposit of lamports gets through exactly when
the payout is due and its target may receive the amount, provided that the deposit's own
address is no reserved one.

Proof: a payout that is executed was due, found its target writable and passes the rent
check; one that is due is executed, as the balance and the supply allow it. -/
theorem payout_transacted_iff (lawful : Lawful rt) (injective : SeedsInjective rt)
    (checked : RentChecked rt Content.space) {events : List (Event Key)}
    (reached : Reached rt events w) (fits : SupplyFits w) {allowed : Deposit Key → Prop}
    (calls : ∀ w', exec rt (ctx.demoted rt) instruction w = .ok w' ↔ ∃ vault deposit,
      allowed deposit ∧ LamportPayout rt (ctx.demoted rt) payout vault deposit w w')
    (found : depositAt w payout.deposit = some deposit) (recorded : deposit.mint = default)
    (named : deposit.vault = payout.vault) (lamports : payout.escrow = none)
    (asks : payout.deposit ∈ ctx.writable ∧ payout.target ∈ ctx.writable)
    (standing : rt.reserved payout.deposit = false) (permitted : allowed deposit) :
    (∃ w', transact rt ctx instruction w = .ok w') ↔
      Due (ctx.demoted rt) deposit payout.outcome ∧
        Receivable rt w payout.deposit payout.target deposit.amount := by
  have at_deposit := deposit_at_iff.mp found
  have held (due : Due (ctx.demoted rt) deposit payout.outcome) :
      rt.minimumBalance depositSpace + deposit.amount ≤ w.lamports payout.deposit :=
    reached.lamports_held lawful _ _ at_deposit recorded (due_unpaid due)
  constructor
  · rintro ⟨w', made⟩
    obtain ⟨executed, kept⟩ := transact_ok_iff.mp made
    obtain ⟨vault, other, -, spec⟩ := (calls w').mp executed
    obtain rfl := Option.some.inj (found.symm.trans (deposit_at_iff.mpr spec.at_deposit))
    exact ⟨spec.due, ((mem_demoted rt ctx _).mp spec.writable.2).2,
      (spec.kept_iff checked (held spec.due)).mp kept⟩
  · rintro ⟨due, free, kept⟩
    have writable : payout.deposit ∈ (ctx.demoted rt).writable ∧
        payout.target ∈ (ctx.demoted rt).writable :=
      ⟨(mem_demoted rt ctx _).mpr ⟨asks.1, standing⟩, (mem_demoted rt ctx _).mpr ⟨asks.2, free⟩⟩
    have payable : Payable (ctx.demoted rt) payout deposit (w.lamports payout.deposit) :=
      ⟨named, writable, due, .inl recorded⟩
    obtain ⟨vault, w', spec⟩ :=
      (lamport_payout_iff lawful injective reached fits _ payout lamports deposit).mpr
        ⟨found, payable⟩
    exact ⟨w', transact_ok_iff.mpr ⟨(calls w').mpr ⟨vault, deposit, permitted, spec⟩,
      (spec.kept_iff checked (held due)).mpr kept⟩⟩

/-- So a release gets through exactly when the deposit is approved and the target may receive
the amount. -/
theorem release_transacted_iff (lawful : Lawful rt) (injective : SeedsInjective rt)
    (checked : RentChecked rt Content.space) {events : List (Event Key)}
    (reached : Reached rt events w) (fits : SupplyFits w) {accounts : Release Key}
    (found : depositAt w accounts.deposit = some deposit) (recorded : deposit.mint = default)
    (named : deposit.vault = accounts.vault)
    (authority : deposit.releaseAuthority = accounts.releaseAuthority)
    (sent : SentBy ctx accounts.releaseAuthority accounts.deposit accounts.target)
    (free : rt.reserved accounts.releaseAuthority = false)
    (standing : rt.reserved accounts.deposit = false) :
    (∃ w', transact rt ctx (.release accounts) w = .ok w') ↔
      deposit.state = .approved ∧
        Receivable rt w accounts.deposit accounts.target deposit.amount := by
  let payout : Payout Key :=
    ⟨accounts.vault, accounts.deposit, none, accounts.target, .released⟩
  have calls (w' : World Key) : exec rt (ctx.demoted rt) (.release accounts) w = .ok w' ↔
      ∃ vault deposit, (deposit.releaseAuthority = accounts.releaseAuthority ∧
        accounts.releaseAuthority ∈ (ctx.demoted rt).writable) ∧
          LamportPayout rt (ctx.demoted rt) payout vault deposit w w' := by
    simp only [and_assoc]
    exact release_ok_iff
  have writable := (mem_demoted rt ctx _).mpr ⟨sent.signer, free⟩
  rw [payout_transacted_iff lawful injective checked reached fits calls found recorded named rfl
    ⟨sent.deposit, sent.target⟩ standing ⟨authority, writable⟩, due_released_iff]
  simp [authority, sent.signed, payout]

/-- And a refund exactly when the deposit is rejected, or pending when it has expired, and its
refund address may receive the amount. -/
theorem refund_transacted_iff (lawful : Lawful rt) (injective : SeedsInjective rt)
    (checked : RentChecked rt Content.space) {events : List (Event Key)}
    (reached : Reached rt events w) (fits : SupplyFits w) {accounts : Refund Key}
    (found : depositAt w accounts.deposit = some deposit) (recorded : deposit.mint = default)
    (named : deposit.vault = accounts.vault) (target : accounts.refundTarget = deposit.refundAddr)
    (sent : SentBy ctx accounts.caller accounts.deposit accounts.refundTarget)
    (free : rt.reserved accounts.caller = false) (standing : rt.reserved accounts.deposit = false) :
    (∃ w', transact rt ctx (.refund accounts) w = .ok w') ↔
      (deposit.state = .rejected ∨ deposit.state = .pending ∧ deposit.expireAt ≤ ctx.now) ∧
        Receivable rt w accounts.deposit accounts.refundTarget deposit.amount := by
  let payout : Payout Key :=
    ⟨accounts.vault, accounts.deposit, none, accounts.refundTarget, .refunded⟩
  have calls (w' : World Key) : exec rt (ctx.demoted rt) (.refund accounts) w = .ok w' ↔
      ∃ vault deposit, (accounts.caller ∈ (ctx.demoted rt).signers ∧
        accounts.caller ∈ (ctx.demoted rt).writable ∧
          accounts.refundTarget = deposit.refundAddr) ∧
            LamportPayout rt (ctx.demoted rt) payout vault deposit w w' := by
    simp only [and_assoc]
    exact refund_ok_iff
  have writable := (mem_demoted rt ctx _).mpr ⟨sent.signer, free⟩
  rw [payout_transacted_iff lawful injective checked reached fits calls found recorded named rfl
    ⟨sent.deposit, sent.target⟩ standing ⟨sent.signed, writable, target⟩,
    due_refunded_iff lawful injective reached found]
  rfl

end Payouts

section Votes

/-- The runtime adds nothing to the checks of a vote on a deposit of lamports whose address is
no reserved one.

Proof: the deposit is all that a vote writes, so that the program sees the same leave to write
it. The vote leaves the account its rent, which is an invariant of the reachable world. -/
theorem vote_transacted (lawful : Lawful rt) (checked : RentChecked rt Content.space)
    {events : List (Event Key)} (reached : Reached rt events w) (ctx : Context Key)
    {accounts : Attest Key} (verdict : AmlVerdict) (evidenceHash : Bytes32) {deposit : Deposit Key}
    (found : depositAt w accounts.deposit = some deposit) (recorded : deposit.mint = default)
    (standing : rt.reserved accounts.deposit = false) :
    transact rt ctx (.attest accounts verdict evidenceHash) w =
      (exec rt ctx (.attest accounts verdict evidenceHash) w).mapError .program := by
  have shown : exec rt (ctx.demoted rt) (.attest accounts verdict evidenceHash) w =
      exec rt ctx (.attest accounts verdict evidenceHash) w := by
    simp only [exec, attest, writable, mem_demoted, standing, and_true]
    rfl
  cases executed : exec rt ctx (.attest accounts verdict evidenceHash) w with
  | error error =>
    rw [executed] at shown
    exact transact_program_iff.mpr shown
  | ok w' =>
    rw [executed] at shown
    refine transact_ok_iff.mpr ⟨shown, fun key _ => ?_⟩
    obtain ⟨vault, before, after, spec⟩ := (attest_ok_iff ..).mp executed
    obtain rfl := Option.some.inj (found.symm.trans (deposit_at_iff.mpr spec.at_deposit))
    by_cases here : key = accounts.deposit
    · subst here
      apply checked.stored _ _ _ (.deposit after)
      · show w'.data accounts.deposit = _
        simp [spec.saved]
      · show rt.minimumBalance depositSpace ≤ w'.lamports accounts.deposit
        rw [spec.saved, World.lamports_set_data]
        exact reached.rented lawful _ _ spec.at_deposit recorded
    · have same : w'.account key = w.account key := by
        simp [spec.saved, World.setData, here]
      rw [same]
      exact checked.kept key _

end Votes

end GPay.Quarantine
