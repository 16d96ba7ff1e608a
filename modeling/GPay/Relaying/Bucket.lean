import Mathlib.Tactic.Linarith
import GPay.Relaying.Policy
import GPay.Runs

/-!
# The token bucket over the rationals

A bucket that was created full never holds less than nothing or more than its
capacity, and a clock that goes back does not refill it. Refilling it twice is
refilling it once at the later time. What it grants in any window of calls is bounded
by its capacity and what the window refills: every token granted is paid for by the
tokens in the bucket, or by the time since its last refill.
-/

namespace GPay.Relaying

open Runs

/-- A time in seconds. -/
def secondsOf (now : Instant) : ℚ := now / 10 ^ 9

/-- Later times are more seconds. -/
theorem seconds_of_le {earlier later : Instant} (le : earlier ≤ later) :
    secondsOf earlier ≤ secondsOf later := by
  unfold secondsOf
  gcongr

namespace TokenBucket

variable (bucket : TokenBucket ℚ) (n : UInt32) (now : Instant)

/-- Filling up over the time since the last refill, to the capacity at most. -/
theorem refill_late (late : bucket.lastRefill < now) :
    bucket.refill now = { bucket with
      tokens := min (bucket.tokens +
        (secondsOf now - secondsOf bucket.lastRefill) * bucket.refillPerSec) bucket.capacity
      lastRefill := now } := by
  have elapsed : ((now - bucket.lastRefill : Nat) : ℚ) / 10 ^ 9 =
      secondsOf now - secondsOf bucket.lastRefill := by
    rw [Nat.cast_sub late.le, sub_div]
    rfl
  rw [refill, if_neg (not_le.mpr late), ← elapsed]
  rfl

/-- A time that is not later fills nothing. -/
theorem refill_early (early : now ≤ bucket.lastRefill) : bucket.refill now = bucket := if_pos early

/-- Filling keeps the rate. -/
@[simp] theorem rate_refill : (bucket.refill now).refillPerSec = bucket.refillPerSec := by
  unfold refill
  split <;> rfl

/-- Filling moves the time on, never back. -/
@[simp] theorem last_refill : (bucket.refill now).lastRefill = max bucket.lastRefill now := by
  rcases le_or_gt now bucket.lastRefill with early | late
  · rw [refill_early bucket now early, max_eq_left early]
  · rw [refill_late bucket now late, max_eq_right late.le]

/-- A bucket covers what it holds when it has been filled. -/
theorem covers_iff : bucket.covers n now = true ↔ (n.toNat : ℚ) ≤ (bucket.refill now).tokens :=
  decide_eq_true_iff

/-- A call refills the bucket, and takes the tokens if they suffice. -/
theorem try_consume : bucket.tryConsumeAt n now = (bucket.covers n now,
    { bucket.refill now with
      tokens := (bucket.refill now).tokens -
        if bucket.covers n now then (n.toNat : ℚ) else 0 }) := by
  cases enough : bucket.covers n now with
  | false =>
    have short : Number.le (Number.ofNat n.toNat) (bucket.refill now).tokens = false := enough
    simp only [tryConsumeAt, short, Bool.false_eq_true, if_false, sub_zero]
  | true =>
    have held : Number.le (Number.ofNat n.toNat) (bucket.refill now).tokens = true := enough
    simp only [tryConsumeAt, held, if_true]
    rfl

/-- A call that is not granted refills the bucket and takes nothing. -/
theorem try_refused (short : bucket.covers n now = false) :
    (bucket.tryConsumeAt n now).2 = bucket.refill now := by
  rw [bucket.try_consume, short]
  simp only [Bool.false_eq_true, if_false, sub_zero]

/-- Refilling at two times is refilling at the later, whichever order they come in, if the bucket
does not leak. -/
theorem refill_refill (rate : 0 ≤ bucket.refillPerSec) {earlier later : Instant}
    (le : earlier ≤ later) : (bucket.refill earlier).refill later = bucket.refill later := by
  rcases le_or_gt earlier bucket.lastRefill with early | late
  · rw [refill_early bucket earlier early]
  · rcases le.eq_or_lt with rfl | before
    · rw [refill_early (bucket.refill earlier) earlier (by simp)]
    · have still : (bucket.refill earlier).lastRefill < later := by
        rw [last_refill]
        exact max_lt (late.trans before) before
      rw [refill_late _ later still, refill_late bucket earlier late,
        refill_late bucket later (late.trans before)]
      have more : 0 ≤ (secondsOf later - secondsOf earlier) * bucket.refillPerSec :=
        mul_nonneg (sub_nonneg.mpr (seconds_of_le le)) rate
      -- What the first refill cut off at the capacity, the second would cut off too.
      have joined : ∀ tokens : ℚ, min (min tokens bucket.capacity +
            (secondsOf later - secondsOf earlier) * bucket.refillPerSec) bucket.capacity =
          min (tokens + (secondsOf later - secondsOf earlier) * bucket.refillPerSec)
            bucket.capacity := by
        intro tokens
        rcases le_total tokens bucket.capacity with below | above
        · rw [min_eq_left below]
        · rw [min_eq_right above, min_eq_right (by linarith), min_eq_right (by linarith)]
      simp only [joined]
      congr 2
      ring

/-- A call leaves the rate as it is. -/
@[simp] theorem rate_tried : (bucket.tryConsumeAt n now).2.refillPerSec = bucket.refillPerSec := by
  rw [bucket.try_consume]
  exact bucket.rate_refill now

end TokenBucket

/-- A call of the bucket for a number of tokens at a time, and whether it was granted. -/
structure Draw where
  n : UInt32
  now : Instant
  granted : Bool
  deriving DecidableEq

/-- What a call took. -/
def Draw.cost (draw : Draw) : ℚ := if draw.granted then draw.n.toNat else 0

/-- One draw was granted or not, and left that bucket. -/
def Draws (bucket : TokenBucket ℚ) (draw : Draw) (after : TokenBucket ℚ) : Prop :=
  bucket.tryConsumeAt draw.n draw.now = (draw.granted, after)

/-- The running maximum of the creation time and the times of the calls. -/
def latest (created : Instant) (draws : List Draw) : Instant :=
  (draws.map Draw.now).foldl max created

/-- A bucket in use: of the capacity and the speed that it was created with, and holding no less
than nothing and no more than the capacity. -/
structure Level (capacity refillPerSec : ℚ) (bucket : TokenBucket ℚ) : Prop where
  size : bucket.capacity = capacity
  speed : bucket.refillPerSec = refillPerSec
  nonneg : 0 ≤ bucket.tokens
  full : bucket.tokens ≤ capacity

section Window

variable {capacity refillPerSec : ℚ} {bucket after : TokenBucket ℚ} {draw : Draw}

/-- A refill keeps the level, and adds no more than the time since the last one is worth. -/
theorem Level.refill (rate : 0 ≤ refillPerSec) (level : Level capacity refillPerSec bucket)
    (now : Instant) : Level capacity refillPerSec (bucket.refill now) ∧
      (bucket.refill now).tokens ≤ bucket.tokens +
        (secondsOf (bucket.refill now).lastRefill - secondsOf bucket.lastRefill) *
          refillPerSec := by
  obtain ⟨size, speed, nonneg, full⟩ := level
  rcases le_or_gt now bucket.lastRefill with early | late
  · rw [bucket.refill_early now early]
    exact ⟨⟨size, speed, nonneg, full⟩, by simp⟩
  · have added : 0 ≤ (secondsOf now - secondsOf bucket.lastRefill) * refillPerSec :=
      mul_nonneg (sub_nonneg.mpr (seconds_of_le late.le)) rate
    rw [bucket.refill_late now late, size, speed]
    exact ⟨⟨rfl, rfl, le_min (by linarith) (nonneg.trans full), min_le_right _ _⟩,
      min_le_left _ _⟩

/-- What a call takes is paid by the level and by the time that passed: granted or not, the
bucket is in use afterwards. -/
theorem Level.draws (rate : 0 ≤ refillPerSec) (level : Level capacity refillPerSec bucket)
    (taken : Draws bucket draw after) : Level capacity refillPerSec after ∧
      after.lastRefill = max bucket.lastRefill draw.now ∧
      draw.cost + after.tokens ≤ capacity ∧
      draw.cost + after.tokens ≤ bucket.tokens +
        (secondsOf after.lastRefill - secondsOf bucket.lastRefill) * refillPerSec := by
  unfold Draws at taken
  rw [bucket.try_consume] at taken
  obtain ⟨granted, rfl⟩ := Prod.mk.inj taken
  obtain ⟨⟨size, speed, nonneg, full⟩, refilled⟩ := level.refill rate draw.now
  have cost : 0 ≤ draw.cost ∧ draw.cost ≤ (bucket.refill draw.now).tokens := by
    unfold Draw.cost
    rw [← granted]
    split
    · rename_i enough
      exact ⟨Nat.cast_nonneg _, (bucket.covers_iff _ _).mp enough⟩
    · exact ⟨le_rfl, nonneg⟩
  have cost_eq : draw.cost =
      if bucket.covers draw.n draw.now then (draw.n.toNat : ℚ) else 0 := by
    rw [Draw.cost, ← granted]
  rw [← cost_eq]
  refine ⟨⟨size, speed, ?_, ?_⟩, bucket.last_refill draw.now, ?_, ?_⟩
  · linarith
  · linarith
  · linarith
  · linarith

/-- Every bucket reached has a level. -/
theorem level_run (rate : 0 ≤ refillPerSec) {draws : List Draw}
    (level : Level capacity refillPerSec bucket) (run : Run Draws bucket draws after) :
    Level capacity refillPerSec after :=
  run.invariant (fun _ _ _ level taken => (level.draws rate taken).1) level

/-- The clock of the bucket is the latest time it was called at. -/
theorem latest_run (rate : 0 ≤ refillPerSec) {draws : List Draw}
    (level : Level capacity refillPerSec bucket) (run : Run Draws bucket draws after) :
    after.lastRefill = latest bucket.lastRefill draws := by
  induction run with
  | nil => rfl
  | @snoc draws middle finish draw earlier last timed =>
    rw [((level_run rate level earlier).draws rate last).2.1, timed]
    simp [latest]

/-- Calls take no more than the tokens there were and the time that passed is worth, by induction
on their run. -/
theorem cost_run (rate : 0 ≤ refillPerSec) {draws : List Draw}
    (level : Level capacity refillPerSec bucket) (run : Run Draws bucket draws after) :
    (draws.map Draw.cost).sum + after.tokens ≤ bucket.tokens +
      (secondsOf after.lastRefill - secondsOf bucket.lastRefill) * refillPerSec := by
  have held : Run (Guarded Draws (fun bucket _ => Level capacity refillPerSec bucket))
      bucket draws after :=
    run.assuming (fun _ _ _ level taken => (level.draws rate taken).1) level
  -- The potential: tokens less what the time up to the last refill is worth.
  have potential : (draws.map Draw.cost).sum +
      (after.tokens - secondsOf after.lastRefill * refillPerSec) ≤
        bucket.tokens - secondsOf bucket.lastRefill * refillPerSec := by
    apply held.sum_le Draw.cost
      (fun bucket => bucket.tokens - secondsOf bucket.lastRefill * refillPerSec)
    rintro before draw after ⟨taken, level⟩
    obtain ⟨_, _, _, paid⟩ := level.draws rate taken
    linarith
  linarith

end Window

/-- A bucket that is created full always holds between nothing and its capacity, and grants in
any block of calls no more than the capacity and what it refills from the first call to the last.
Clocks that go back refill nothing, so that the time is that of the latest call.

Proof: the level of the bucket is the invariant. Over a block, what was granted and what is left
come to what was there and what came in, and there was the capacity at most. -/
theorem grants_bounded (capacity : UInt32) {refillPerSec : ℚ} (rate : 0 ≤ refillPerSec)
    (created : Instant) {draws : List Draw} {bucket : TokenBucket ℚ}
    (run : Run Draws (TokenBucket.new capacity refillPerSec created) draws bucket) :
    (0 ≤ bucket.available ∧ bucket.available ≤ capacity.toNat) ∧
    ∀ before first rest after, draws = before ++ (first :: rest) ++ after →
      ((first :: rest).map Draw.cost).sum ≤ capacity.toNat + refillPerSec *
        (secondsOf (latest created (before ++ first :: rest)) -
          secondsOf (latest created (before ++ [first]))) := by
  have level : Level capacity.toNat refillPerSec
      (TokenBucket.new capacity refillPerSec created) :=
    ⟨rfl, rfl, Nat.cast_nonneg _, le_rfl⟩
  have reached := level_run rate level run
  refine ⟨⟨reached.nonneg, reached.full⟩, ?_⟩
  rintro before first rest after rfl
  obtain ⟨last, block, _⟩ := run.split
  obtain ⟨start, earlier, blocked⟩ := block.split
  obtain ⟨middle, taken, later⟩ := blocked.of_cons
  obtain ⟨opened, _, once, _⟩ := (level_run rate level earlier).draws rate taken
  have rested := cost_run rate opened later
  have ended := level_run rate opened later
  have first_time := latest_run rate level (earlier.snoc taken)
  have last_time := latest_run rate level block
  have created_at : (TokenBucket.new capacity refillPerSec created).lastRefill = created := rfl
  rw [created_at] at first_time last_time
  rw [List.map_cons, List.sum_cons, ← first_time, ← last_time]
  linarith [ended.nonneg]

namespace Local

/-- A burst, a call that comes too soon, one in time, and one of a clock that went back. -/
def draws : List Draw :=
  [⟨2, 0, true⟩, ⟨1, 500000000, false⟩, ⟨1, 1000000000, true⟩, ⟨1, 7, false⟩]

/-- The bucket a call leaves behind, if the call is answered as listed. -/
def answered (bucket : TokenBucket ℚ) (draw : Draw) : Option (TokenBucket ℚ) :=
  if (bucket.tryConsumeAt draw.n draw.now).1 = draw.granted then
    some (bucket.tryConsumeAt draw.n draw.now).2
  else none

/-- A draw that is checked against its answer was answered so. -/
theorem answered_draws (bucket : TokenBucket ℚ) (draw : Draw) (after : TokenBucket ℚ)
    (left : answered bucket draw = some after) : Draws bucket draw after := by
  obtain ⟨same, reached⟩ := Option.ite_none_right_eq_some.mp left
  exact Prod.ext same (Option.some.inj reached)

/-- A bucket of two tokens that gains one a second grants three in a second. -/
theorem draws_bounded : (draws.map Draw.cost).sum = 3 ∧
    (draws.map Draw.cost).sum ≤ 2 + 1 * (secondsOf (latest 0 draws) - secondsOf 0) := by
  have played : (play answered (TokenBucket.new 2 1 0) draws).isSome = true := by decide +kernel
  obtain ⟨bucket, ended⟩ := Option.isSome_iff_exists.mp played
  have run := play_run answered_draws ended
  exact ⟨by decide +kernel, (grants_bounded 2 zero_le_one 0 run).2 [] _ _ [] rfl⟩

end Local

end GPay.Relaying
