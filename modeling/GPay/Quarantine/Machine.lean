import GPay.Quarantine.Instructions
import GPay.Runs

/-!
# The program as a transition system

A step is a successful call, a step of the world outside the program, or the end
of a transaction, where empty accounts are collected. Failed calls are rolled
back and take no step. Grouping calls into transactions is left open: a run may
end a transaction between any two calls.

Instructions that create a deposit and instructions that pay one out share a
view each. `Opening` names what a deposit is made of; `Payout` names the account
paid from, the account paid to and the state it ends in.
-/

namespace GPay.Quarantine

open Solana Runs

variable {Key : Type}

/-- What happens to the cluster: a call of the program, whatever other programs and users do in
between, or the removal of the accounts that have no lamports left. -/
inductive Event (Key : Type) where
  | call (ctx : Context Key) (instruction : Instruction Key)
  | outside
  | reap

/-- One event leads from one world to the next. A call that is refused leaves no trace, as its
transaction is rolled back. -/
inductive Step [DecidableEq Key] [Inhabited Key] (rt : Runtime Key) :
    World Key → Event Key → World Key → Prop
  | call {w w' : World Key} {ctx : Context Key} {instruction : Instruction Key}
      (executed : exec rt ctx instruction w = .ok w') : Step rt w (.call ctx instruction) w'
  | outside {w w' : World Key} (bounded : Outside rt w w') : Step rt w .outside w'
  | reap {w : World Key} : Step rt w .reap w.reap

/-- The transaction of a call is one that the runtime lets through as it is, so that no reserved
key is written. -/
def Event.Permitted (rt : Runtime Key) : Event Key → Prop
  | .call ctx _ => ctx.Permitted rt
  | _ => True

/-- A run of the program from a world in which it owns nothing. All that holds of reachable
worlds is proved along such runs. -/
def Reached [DecidableEq Key] [Inhabited Key] (rt : Runtime Key) (events : List (Event Key))
    (w : World Key) : Prop :=
  ∃ start, Genesis start ∧ Run (Step rt) start events w

/-- The clock value of a call. -/
def Event.time : Event Key → Option Int
  | .call ctx _ => some ctx.now
  | _ => none

/-- The clock never goes back along the events. -/
def Forward (events : List (Event Key)) : Prop :=
  (events.filterMap Event.time).Pairwise (· ≤ ·)

instance (events : List (Event Key)) : Decidable (Forward events) :=
  inferInstanceAs (Decidable (List.Pairwise _ _))

/-- What `deposit` and `deposit_token` have in common. The token instruction also
names an escrow account. -/
structure Opening (Key : Type) where
  depositor : Key
  vault : Key
  deposit : Key
  mint : Key
  escrow : Option Key
  args : DepositArgs Key

/-- The deposit that a call would make, of lamports or of tokens: one view of both
instructions. -/
def Instruction.opening [Inhabited Key] : Instruction Key → Option (Opening Key)
  | .deposit accounts args =>
      some ⟨accounts.depositor, accounts.vault, accounts.deposit, default, none, args⟩
  | .depositToken accounts args =>
      some ⟨accounts.depositor, accounts.vault, accounts.deposit, accounts.mint,
        some accounts.escrowTokenAccount, args⟩
  | _ => none

/-- What the four payout instructions have in common. Without an escrow account
the payout is in lamports of the deposit account. -/
structure Payout (Key : Type) where
  vault : Key
  deposit : Key
  escrow : Option Key
  target : Key
  outcome : DepositState

/-- The payout that a call would make, a release or a refund, of lamports or of tokens: one view
of the four instructions. -/
def Instruction.payout : Instruction Key → Option (Payout Key)
  | .release accounts =>
      some ⟨accounts.vault, accounts.deposit, none, accounts.target, .released⟩
  | .releaseToken accounts =>
      some ⟨accounts.vault, accounts.deposit, some accounts.escrowTokenAccount,
        accounts.targetTokenAccount, .released⟩
  | .refund accounts =>
      some ⟨accounts.vault, accounts.deposit, none, accounts.refundTarget, .refunded⟩
  | .refundToken accounts =>
      some ⟨accounts.vault, accounts.deposit, some accounts.escrowTokenAccount,
        accounts.refundTargetTokenAccount, .refunded⟩
  | _ => none

/-- The deposit an event creates, if it creates one. -/
def Event.opening [Inhabited Key] : Event Key → Option (Opening Key)
  | .call _ instruction => instruction.opening
  | _ => none

/-- The payout an event makes, if it makes one. -/
def Event.payout : Event Key → Option (Payout Key)
  | .call _ instruction => instruction.payout
  | _ => none

/-- The event creates a deposit at the address. -/
def Event.Opens [Inhabited Key] (key : Key) (event : Event Key) : Prop :=
  ∃ opening, event.opening = some opening ∧ opening.deposit = key

/-- The event pays out the deposit at the address. -/
def Event.Pays (key : Key) (event : Event Key) : Prop :=
  ∃ payout, event.payout = some payout ∧ payout.deposit = key

instance [DecidableEq Key] [Inhabited Key] (key : Key) (event : Event Key) :
    Decidable (event.Opens key) :=
  match opened : event.opening with
  | none => isFalse (fun ⟨_, found, _⟩ => by simp [opened] at found)
  | some opening => decidable_of_iff (opening.deposit = key) (by simp [Event.Opens, opened])

instance [DecidableEq Key] (key : Key) (event : Event Key) : Decidable (event.Pays key) :=
  match paid : event.payout with
  | none => isFalse (fun ⟨_, found, _⟩ => by simp [paid] at found)
  | some payout => decidable_of_iff (payout.deposit = key) (by simp [Event.Pays, paid])

/-- The attestation an event records on the deposit at the address, with the time of its
transaction. -/
def Event.attestation [DecidableEq Key] (key : Key) : Event Key → Option (Attestation Key)
  | .call ctx (.attest accounts verdict evidenceHash) =>
      if accounts.deposit = key then some ⟨accounts.oracle, verdict, ctx.now, evidenceHash⟩
      else none
  | _ => none

/-- An executable step, for calls and the end of a transaction. What others do is not
computed. -/
def next [DecidableEq Key] [Inhabited Key] (rt : Runtime Key) (w : World Key) :
    Event Key → Option (World Key)
  | .call ctx instruction => (exec rt ctx instruction w).toOption
  | .outside => none
  | .reap => some w.reap

/-- The executable step takes steps of the program. -/
theorem next_step [DecidableEq Key] [Inhabited Key] (rt : Runtime Key) (w : World Key)
    (event : Event Key) (w' : World Key) (taken : next rt w event = some w') :
    Step rt w event w' := by
  cases event with
  | call ctx instruction =>
    cases executed : exec rt ctx instruction w with
    | error error => simp [next, executed, Except.toOption] at taken
    | ok result =>
      have same : result = w' := by simpa [next, executed, Except.toOption] using taken
      exact same ▸ Step.call executed
  | outside => simp [next] at taken
  | reap =>
    have same : w.reap = w' := Option.some.inj taken
    exact same ▸ Step.reap

end GPay.Quarantine
