import Mathlib.Data.Rat.Floor
import Mathlib.Logic.Function.Basic
import GPay.Solana

/-!
# Admission to the relayer

Every institution has a policy, which rations its submissions and prices them, and a
ledger of the fees it has accrued. Admission takes a token from the bucket and charges
the ledger in one step. The bucket counts in floating-point numbers; what it counts in
is left open here, and the rationals are one choice.
-/

namespace GPay.Relaying

open Solana

/-- The arithmetic of the bucket. `seconds` is the length of a time in nanoseconds, and
`toU64` is the cast that drops fractions and saturates. -/
class Number (F : Type) where
  ofNat : Nat → F
  seconds : Nat → F
  add : F → F → F
  sub : F → F → F
  mul : F → F → F
  min : F → F → F
  le : F → F → Bool
  toU64 : F → UInt64

instance : Number ℚ where
  ofNat value := value
  seconds nanoseconds := nanoseconds / 10 ^ 9
  add left right := left + right
  sub left right := left - right
  mul left right := left * right
  min left right := min left right
  le left right := left ≤ right
  toU64 value := UInt64.ofNat (min u64Max value.floor.toNat)

/-- `u64::saturating_add`. -/
def saturatingAddU64 (left right : UInt64) : UInt64 :=
  UInt64.ofNat (saturatingAdd u64Max left.toNat right.toNat)

/-- A saturating sum is the sum up to the largest value. -/
theorem to_nat_saturating_add (left right : UInt64) :
    (saturatingAddU64 left right).toNat = min u64Max (left.toNat + right.toNat) := by
  rw [saturatingAddU64, saturatingAdd, UInt64.toNat_ofNat']
  exact Nat.mod_eq_of_lt (by unfold u64Max; omega)

/-- A time, in nanoseconds. -/
abbrev Instant := Nat

/-- A bucket of tokens: how many it holds at most, how fast it fills, how many it holds, and the
last time it was filled. -/
structure TokenBucket (F : Type) where
  capacity : F
  refillPerSec : F
  tokens : F
  lastRefill : Instant

/-- What a transaction is charged, in millionths of a dollar. -/
structure FeeQuote where
  microUsdc : UInt64
  deriving DecidableEq

/-- What an institution has been charged in all, and for how many transactions. -/
structure BillingLedger where
  accruedMicroUsdc : UInt64
  txCount : UInt64
  deriving DecidableEq

namespace BillingLedger

/-- `BillingLedger::default`. -/
def empty : BillingLedger := ⟨0, 0⟩

/-- One more transaction is charged. Both sums stop at the largest value of their type, so that
no charge makes the ledger panic. -/
def accrue (ledger : BillingLedger) (fee : FeeQuote) : BillingLedger where
  accruedMicroUsdc := saturatingAddU64 ledger.accruedMicroUsdc fee.microUsdc
  txCount := saturatingAddU64 ledger.txCount 1

/-- What has been charged in all. -/
def totalMicroUsdc (ledger : BillingLedger) : UInt64 := ledger.accruedMicroUsdc

end BillingLedger

/-- What an institution may do: its bucket, its fee, the cap on what it may be charged, if any,
and whether it is suspended. -/
structure InstitutionPolicy (F : Type) where
  bucket : TokenBucket F
  fee : FeeQuote
  monthlyCapMicroUsdc : Option UInt64
  suspended : Bool

/-- What an admitted transaction was charged and how many tokens were left. -/
structure SubmissionDecision where
  fee : FeeQuote
  bucketRemaining : UInt64
  deriving DecidableEq

/-- Why a transaction is not admitted. -/
inductive RelayerError where
  | unknownInstitution
  | rateLimited
  | suspended
  | feeCapExceeded
  deriving DecidableEq

/-- The maps by institution: the policies that were registered, with their buckets, and the
ledgers of what was charged. -/
structure Relayer (F : Type) where
  policies : String → Option (InstitutionPolicy F)
  ledgers : String → Option BillingLedger

variable {F : Type} [Number F]

namespace TokenBucket

/-- A bucket that is full. -/
def new (capacity : UInt32) (refillPerSec : F) (now : Instant) : TokenBucket F :=
  ⟨Number.ofNat capacity.toNat, refillPerSec, Number.ofNat capacity.toNat, now⟩

/-- A bucket is filled by the time that has passed, up to its capacity. A time that is not later
changes nothing, so that a clock that steps back takes no tokens. -/
def refill (bucket : TokenBucket F) (now : Instant) : TokenBucket F :=
  if now ≤ bucket.lastRefill then bucket
  else
    let elapsed := now - bucket.lastRefill
    let added := Number.mul (Number.seconds elapsed) bucket.refillPerSec
    { bucket with
      tokens := Number.min (Number.add bucket.tokens added) bucket.capacity, lastRefill := now }

/-- Whether there were enough tokens, and the bucket after it, which has been refilled in either
case. -/
def tryConsumeAt (bucket : TokenBucket F) (n : UInt32) (now : Instant) : Bool × TokenBucket F :=
  let refilled := bucket.refill now
  let cost := Number.ofNat n.toNat
  if Number.le cost refilled.tokens then
    (true, { refilled with tokens := Number.sub refilled.tokens cost })
  else (false, refilled)

/-- How many tokens there are, as of the last refill. -/
def available (bucket : TokenBucket F) : F := bucket.tokens

/-- The tokens suffice once the bucket is refilled at this time. -/
def covers (bucket : TokenBucket F) (n : UInt32) (now : Instant) : Bool :=
  Number.le (Number.ofNat n.toNat) (bucket.refill now).tokens

/-- Tokens are taken exactly when the refilled bucket covers them. -/
theorem consumes_iff (bucket : TokenBucket F) (n : UInt32) (now : Instant) :
    (bucket.tryConsumeAt n now).1 = bucket.covers n now := by
  unfold tryConsumeAt covers
  dsimp only
  split
  · rename_i enough
    exact enough.symm
  · rename_i short
    exact (Bool.eq_false_iff.mpr short).symm

end TokenBucket

namespace InstitutionPolicy

/-- A policy without a cap, for an institution that is not suspended. -/
def new (bucket : TokenBucket F) (fee : FeeQuote) : InstitutionPolicy F :=
  ⟨bucket, fee, none, false⟩

/-- The policy with a cap on what may be charged. -/
def withMonthlyCap (policy : InstitutionPolicy F) (capMicroUsdc : UInt64) : InstitutionPolicy F :=
  { policy with monthlyCapMicroUsdc := some capMicroUsdc }

/-- One more fee would pass the monthly cap. The sum saturates, so that a cap of the largest
value is never passed. -/
def overCap (policy : InstitutionPolicy F) (ledger : BillingLedger) : Bool :=
  policy.monthlyCapMicroUsdc.any (fun cap =>
    cap < saturatingAddU64 ledger.totalMicroUsdc policy.fee.microUsdc)

end InstitutionPolicy

namespace Relayer

/-- A relayer that knows no institution. -/
def new : Relayer F := ⟨fun _ => none, fun _ => none⟩

/-- An institution is registered with its policy. Registered again, it keeps its ledger, while
its bucket and its cap are the new ones. -/
def register (relayer : Relayer F) (institutionId : String) (policy : InstitutionPolicy F) :
    Relayer F where
  policies := Function.update relayer.policies institutionId (some policy)
  ledgers := Function.update relayer.ledgers institutionId
    (some ((relayer.ledgers institutionId).getD .empty))

/-- A registered institution is suspended; nothing lifts that but another registration. -/
def suspend (relayer : Relayer F) (institutionId : String) : Relayer F :=
  match relayer.policies institutionId with
  | none => relayer
  | some policy =>
      let stopped := { policy with suspended := true }
      { relayer with policies := Function.update relayer.policies institutionId (some stopped) }

/-- What the institution has been charged. -/
def ledger (relayer : Relayer F) (institutionId : String) : Option BillingLedger :=
  relayer.ledgers institutionId

/-- The relayer's `admit` at a time. A policy without a ledger makes it panic, which is the
decision `none`. -/
def admitAt (relayer : Relayer F) (institutionId : String) (now : Instant) :
    Option (Except RelayerError SubmissionDecision) × Relayer F :=
  match relayer.policies institutionId with
  | none => (some (.error .unknownInstitution), relayer)
  | some policy =>
      if policy.suspended then (some (.error .suspended), relayer)
      else
        match relayer.ledgers institutionId with
        | none => (none, relayer)
        | some ledger =>
            if policy.overCap ledger then (some (.error .feeCapExceeded), relayer)
            else
              let (consumed, bucket) := policy.bucket.tryConsumeAt 1 now
              let policies :=
                Function.update relayer.policies institutionId (some { policy with bucket })
              if !consumed then (some (.error .rateLimited), { relayer with policies })
              else
                let ledgers :=
                  Function.update relayer.ledgers institutionId (some (ledger.accrue policy.fee))
                (some (.ok ⟨policy.fee, Number.toU64 bucket.available⟩), { policies, ledgers })

/-- The conditions of an admission, as a predicate of the relayer before the call: the
institution is registered and not suspended, its cap is not passed, and its bucket covers a
token. -/
def admits (relayer : Relayer F) (institutionId : String) (now : Instant) : Bool :=
  match relayer.policies institutionId, relayer.ledgers institutionId with
  | some policy, some ledger =>
      !policy.suspended && !policy.overCap ledger && policy.bucket.covers 1 now
  | _, _ => false

end Relayer

/-- What an institution has been charged, for how many transactions, and what its cap leaves. -/
structure Billing where
  totalMicroUsdc : UInt64
  txCount : UInt64
  headroom : Option Nat
  deriving DecidableEq

/-- What the institution is told of its charges, and how far they are from its cap. -/
def Relayer.billing (relayer : Relayer F) (institutionId : String) : Option Billing :=
  (relayer.ledger institutionId).map (fun ledger =>
    { totalMicroUsdc := ledger.totalMicroUsdc
      txCount := ledger.txCount
      headroom := (relayer.policies institutionId).bind (fun policy =>
        policy.monthlyCapMicroUsdc.map (fun cap => cap.toNat - ledger.totalMicroUsdc.toNat)) })

/-- What an admission does: it charges the fee, and what it changes of the policy is
the bucket. -/
structure Charged (relayer : Relayer F) (institutionId : String) (decision : SubmissionDecision)
    (after : Relayer F) (policy : InstitutionPolicy F) (ledger : BillingLedger) : Prop where
  found : relayer.policies institutionId = some policy
  opened : relayer.ledgers institutionId = some ledger
  fee : decision.fee = policy.fee
  policies : ∃ bucket,
    after.policies = Function.update relayer.policies institutionId (some { policy with bucket })
  ledgers : after.ledgers =
    Function.update relayer.ledgers institutionId (some (ledger.accrue policy.fee))

/-- What a refusal does: it may refill the institution's bucket, and it changes nothing else. -/
structure Spared (relayer : Relayer F) (institutionId : String) (after : Relayer F) : Prop where
  policies : after.policies = relayer.policies ∨
    ∃ policy bucket, relayer.policies institutionId = some policy ∧
    after.policies = Function.update relayer.policies institutionId (some { policy with bucket })
  ledgers : after.ledgers = relayer.ledgers

/-- Past the other checks, the bucket decides. -/
theorem admitAt_eq {relayer : Relayer F} {institutionId : String} {policy : InstitutionPolicy F}
    {ledger : BillingLedger} (found : relayer.policies institutionId = some policy)
    (running : policy.suspended = false) (opened : relayer.ledgers institutionId = some ledger)
    (within : policy.overCap ledger = false) (now : Instant) :
    relayer.admitAt institutionId now =
      let bucket := (policy.bucket.tryConsumeAt 1 now).2
      let policies := Function.update relayer.policies institutionId (some { policy with bucket })
      let ledgers := Function.update relayer.ledgers institutionId (some (ledger.accrue policy.fee))
      if policy.bucket.covers 1 now then
        (some (.ok ⟨policy.fee, Number.toU64 bucket.available⟩), ⟨policies, ledgers⟩)
      else (some (.error .rateLimited), ⟨policies, relayer.ledgers⟩) := by
  rw [← policy.bucket.consumes_iff 1 now]
  cases consumed : (policy.bucket.tryConsumeAt 1 now).1 with
  | false => simp [Relayer.admitAt, found, running, opened, within, consumed]
  | true => simp [Relayer.admitAt, found, running, opened, within, consumed]

/-- An admission charges the institution's fee once, and everything else spares the ledgers and
may refill a bucket at most. -/
theorem admitAt_cases (relayer : Relayer F) (institutionId : String) (now : Instant) :
    (relayer.admits institutionId now = true ∧ ∃ decision policy ledger,
      (relayer.admitAt institutionId now).1 = some (.ok decision) ∧
        Charged relayer institutionId decision (relayer.admitAt institutionId now).2 policy
          ledger) ∨
    (relayer.admits institutionId now = false ∧
      (∀ decision, (relayer.admitAt institutionId now).1 ≠ some (.ok decision)) ∧
        Spared relayer institutionId (relayer.admitAt institutionId now).2) := by
  have untouched : Spared relayer institutionId relayer := ⟨.inl rfl, rfl⟩
  cases found : relayer.policies institutionId with
  | none => exact .inr (by simp [Relayer.admits, Relayer.admitAt, found, untouched])
  | some policy =>
    cases suspended : policy.suspended with
    | true =>
      refine .inr ⟨?_, ?_, ?_⟩
      · cases opened : relayer.ledgers institutionId with
        | none => simp [Relayer.admits, found, opened]
        | some ledger => simp [Relayer.admits, found, suspended, opened]
      · simp [Relayer.admitAt, found, suspended]
      · simpa [Relayer.admitAt, found, suspended] using untouched
    | false =>
      cases opened : relayer.ledgers institutionId with
      | none =>
        exact .inr (by simp [Relayer.admits, Relayer.admitAt, found, suspended, opened, untouched])
      | some ledger =>
        cases capped : policy.overCap ledger with
        | true =>
          exact .inr
            (by simp [Relayer.admits, Relayer.admitAt, found, suspended, opened, capped, untouched])
        | false =>
          have admits : relayer.admits institutionId now = policy.bucket.covers 1 now := by
            simp [Relayer.admits, found, suspended, opened, capped]
          rw [admits, admitAt_eq found suspended opened capped now]
          cases policy.bucket.covers 1 now with
          | false => exact .inr ⟨rfl, by simp, .inr ⟨policy, _, found, rfl⟩, rfl⟩
          | true => exact .inl ⟨rfl, _, policy, ledger, rfl, found, opened, rfl, ⟨_, rfl⟩, rfl⟩

end GPay.Relaying
