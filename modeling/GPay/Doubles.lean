import Mathlib.Data.Int.Log
import Mathlib.Data.Rat.Floor
import Mathlib.Tactic.Linarith
import Mathlib.Tactic.FieldSimp

/-!
# Double-precision numbers

A double is not a number, an infinity, or a rational; the sign of zero is not kept.
A rational is rounded to a multiple of the unit in its last place, ties to the even
multiple. The unit leaves 53 significant bits, fewer near zero. Integers of at most
53 bits are doubles already; longer ones are rounded to integers that are no shorter, or
to an infinity, and stay the same if and only if 53 bits hold their odd part.
-/

namespace GPay.Doubles

/-- A double as far as it matters: a number, an infinity of either sign, or none. Numbers are the
rational numbers that they stand for, so that the two zeros are one. -/
inductive Double where
  | nan
  | infinity (negative : Bool)
  | finite (value : ℚ)
  deriving DecidableEq

namespace Double

/-- `Number.isInteger`. -/
def isInteger : Double → Bool
  | .finite value => value.isInt
  | _ => false

/-- The comparison with a bound from below, which only an unordered value fails on both sides. -/
def atLeast (bound : Int) : Double → Bool
  | .nan => false
  | .infinity negative => !negative
  | .finite value => bound ≤ value

/-- The comparison with a bound from above. -/
def atMost (bound : Int) : Double → Bool
  | .nan => false
  | .infinity negative => negative
  | .finite value => value ≤ bound

/-- The integer that a double stands for. -/
def toInt : Double → Int
  | .finite value => value.num
  | _ => 0

end Double

/-- The nearest integer, and of two the even one. -/
def roundHalfEven (value : ℚ) : ℤ :=
  let below := ⌊value⌋
  if value - below < 1 / 2 then below
  else if 1 / 2 < value - below then below + 1
  else if below % 2 = 0 then below else below + 1

/-- Exponent of the unit in the last place. -/
def unitExponent (value : ℚ) : ℤ := max (Int.log 2 |value| - 52) (-1074)

/-- The double that is closest to a number, or an infinity when the number is too large: what
arithmetic on doubles and reading a decimal text come to. -/
def nearest (value : ℚ) : Double :=
  let unit : ℚ := 2 ^ unitExponent value
  let rounded := roundHalfEven (value / unit) * unit
  if 2 ^ 1024 ≤ |rounded| then .infinity (value < 0) else .finite rounded

/-- Rounding a number gives a number. -/
theorem nearest_ne_nan (value : ℚ) : nearest value ≠ .nan := by
  simp only [nearest]
  split
  · simp
  · simp

/-- Integers are their own rounding. -/
theorem round_half_even_int (value : ℤ) : roundHalfEven value = value := by
  simp [roundHalfEven]

/-- A multiple of its own unit is not rounded. -/
theorem nearest_multiple {value : ℚ} {multiple : ℤ}
    (whole : value = multiple * 2 ^ unitExponent value)
    (small : |value| < 2 ^ 1024) : nearest value = .finite value := by
  have positive : (2 : ℚ) ^ unitExponent value ≠ 0 := zpow_ne_zero _ (by norm_num)
  have quotient : value / 2 ^ unitExponent value = multiple := by
    rw [div_eq_iff positive]
    exact whole
  have kept : (roundHalfEven (value / 2 ^ unitExponent value) : ℚ) * 2 ^ unitExponent value =
      value := by
    rw [quotient, round_half_even_int]
    exact whole.symm
  rw [nearest]
  simp only [kept]
  rw [if_neg (not_le.mpr small)]

/-- The unit of an integer depends on its length in bits. -/
theorem unit_exponent_int (value : ℤ) :
    unitExponent value = max ((Nat.log 2 value.natAbs : ℤ) - 52) (-1074) := by
  have size : |(value : ℚ)| = (value.natAbs : ℚ) := by
    rw [Nat.cast_natAbs, Int.cast_abs]
  rw [unitExponent, size, Int.log_natCast]

/-- Integers of at most 53 bits are exact. -/
theorem nearest_int {value : ℤ} (small : value.natAbs < 2 ^ 53) :
    nearest value = .finite value := by
  have digits : Nat.log 2 value.natAbs < 53 := Nat.log_lt_of_lt_pow' (by decide) small
  obtain ⟨depth, exponent⟩ : ∃ depth : Nat, unitExponent value = -(depth : ℤ) :=
    ⟨(-unitExponent value).toNat, by rw [unit_exponent_int]; omega⟩
  have whole : (value : ℚ) = ((value * 2 ^ depth : ℤ) : ℚ) * 2 ^ unitExponent value := by
    rw [exponent, zpow_neg, zpow_natCast]
    push_cast
    field_simp
  apply nearest_multiple whole
  rw [← Int.cast_abs, ← Nat.cast_natAbs]
  calc (value.natAbs : ℚ) < 2 ^ 53 := by exact_mod_cast small
    _ < 2 ^ 1024 := pow_lt_pow_right₀ (by norm_num) (by decide)

/-- Naturals of at most 53 bits are exact. -/
theorem nearest_nat {value : Nat} (small : value < 2 ^ 53) : nearest value = .finite value := by
  have whole : (value : ℤ).natAbs < 2 ^ 53 := by simpa using small
  simpa using nearest_int whole

example : nearest (2 ^ 53 + 1) = .finite (2 ^ 53) := by decide +kernel

/-- An integer bound survives the rounding. -/
theorem round_half_even_le {value : ℚ} {bound : ℤ} (le : value ≤ bound) :
    roundHalfEven value ≤ bound := by
  rcases le.eq_or_lt with rfl | below
  · rw [round_half_even_int]
  · have floor : ⌊value⌋ < bound := Int.floor_lt.mpr below
    unfold roundHalfEven
    dsimp only
    split_ifs <;> omega

/-- Rounding does not cross an integer from above. -/
theorem le_round_half_even {value : ℚ} {bound : ℤ} (le : (bound : ℚ) ≤ value) :
    bound ≤ roundHalfEven value := by
  have floor : bound ≤ ⌊value⌋ := Int.le_floor.mpr le
  unfold roundHalfEven
  dsimp only
  split_ifs <;> omega

/-- From the 54th bit on the unit is an even number, of which the integer holds 52 bits. -/
theorem unit_exponent_large {value : ℤ} (large : 2 ^ 53 ≤ value.natAbs) :
    ∃ shift : Nat, 1 ≤ shift ∧ unitExponent value = shift ∧
      2 ^ 52 * 2 ^ shift ≤ value.natAbs ∧ value.natAbs < 2 ^ 53 * 2 ^ shift := by
  have nonzero : value.natAbs ≠ 0 := by omega
  have digits : 53 ≤ Nat.log 2 value.natAbs := Nat.le_log_of_pow_le (by decide) large
  obtain ⟨shift, logarithm⟩ : ∃ shift, Nat.log 2 value.natAbs = 52 + shift :=
    ⟨Nat.log 2 value.natAbs - 52, by omega⟩
  refine ⟨shift, by omega, by rw [unit_exponent_int, logarithm]; omega, ?_, ?_⟩
  · rw [← pow_add, ← logarithm]
    exact Nat.pow_log_le_self 2 nonzero
  · rw [← pow_add, show 53 + shift = Nat.log 2 value.natAbs + 1 by omega]
    exact Nat.lt_pow_succ_log_self (by decide) value.natAbs

/-- From the 54th bit on an integer is rounded to an integer of at least as many bits, or to
an infinity. -/
theorem nearest_large {value : ℤ} (large : 2 ^ 53 ≤ value.natAbs) :
    nearest value = .infinity (decide (value < 0)) ∨
    ∃ rounded : ℤ, nearest value = .finite rounded ∧
      (0 < value → 2 ^ 53 ≤ rounded) ∧ (value < 0 → rounded ≤ -2 ^ 53) := by
  obtain ⟨shift, positive, exponent, low, _⟩ := unit_exponent_large large
  have unit : (0 : ℚ) < 2 ^ shift := by positivity
  have even : (2 : ℤ) ≤ 2 ^ shift := by
    calc (2 : ℤ) = 2 ^ 1 := rfl
      _ ≤ 2 ^ shift := pow_le_pow_right₀ (by decide) positive
  simp only [nearest, exponent, zpow_natCast]
  split
  · left
    simp
  · right
    refine ⟨roundHalfEven (value / 2 ^ shift) * 2 ^ shift, by push_cast; rfl, ?_, ?_⟩
    · intro above
      have quotient : (((2 ^ 52 : ℤ)) : ℚ) ≤ value / 2 ^ shift := by
        rw [le_div_iff₀ unit]
        have whole : (2 ^ 52 * 2 ^ shift : ℤ) ≤ value := by
          have size : (value.natAbs : ℤ) = value := by omega
          rw [← size]
          exact_mod_cast low
        exact_mod_cast whole
      have rounded := le_round_half_even quotient
      nlinarith
    · intro below
      have quotient : (value : ℚ) / 2 ^ shift ≤ ((-2 ^ 52 : ℤ) : ℚ) := by
        rw [div_le_iff₀ unit]
        have whole : value ≤ (-2 ^ 52) * 2 ^ shift := by
          have size : (value.natAbs : ℤ) = -value := by omega
          have bound : ((2 ^ 52 * 2 ^ shift : ℕ) : ℤ) ≤ value.natAbs := Int.ofNat_le.mpr low
          rw [size] at bound
          push_cast at bound
          linarith
        exact_mod_cast whole
      have rounded := round_half_even_le quotient
      nlinarith

/-- A natural is rounded to a natural, unless it is so large that it becomes an infinity. -/
theorem nearest_natural (value : Nat) :
    nearest value = .infinity false ∨ ∃ rounded : Nat, nearest value = .finite rounded := by
  by_cases small : value < 2 ^ 53
  · exact .inr ⟨value, nearest_nat small⟩
  · have large : 2 ^ 53 ≤ (value : ℤ).natAbs := by simpa using not_lt.mp small
    have whole : nearest ((value : ℤ) : ℚ) = nearest value := by rw [Int.cast_natCast]
    rcases nearest_large large with infinite | ⟨rounded, same, above, _⟩
    · exact .inl (by rw [← whole, infinite]; simp)
    · have positive : 2 ^ 53 ≤ rounded := above (by omega)
      obtain ⟨count, rfl⟩ := Int.eq_ofNat_of_zero_le (show 0 ≤ rounded by omega)
      exact .inr ⟨count, by rw [← whole, same, Int.cast_natCast]⟩

/-- A natural of 64 bits is rounded to a natural of that size. -/
theorem nearest_nat_bounded {value : Nat} (bounded : value < 2 ^ 64) :
    ∃ rounded : Nat, nearest value = .finite rounded ∧ rounded ≤ 2 ^ 64 := by
  by_cases small : value < 2 ^ 53
  · exact ⟨value, nearest_nat small, bounded.le⟩
  · have large : 2 ^ 53 ≤ (value : ℤ).natAbs := by simpa using not_lt.mp small
    obtain ⟨shift, _, exponent, low, _⟩ := unit_exponent_large large
    rw [Int.natAbs_natCast] at low
    have unit : unitExponent value = shift := by exact_mod_cast exponent
    have narrow : shift ≤ 64 := by
      by_contra wide
      have longer : 2 ^ 64 ≤ 2 ^ shift := Nat.pow_le_pow_right (by decide) (by omega)
      omega
    have quotient : (value : ℚ) / 2 ^ shift ≤ ((2 ^ (64 - shift) : ℤ) : ℚ) := by
      rw [div_le_iff₀ (by positivity)]
      push_cast
      rw [← pow_add, Nat.sub_add_cancel narrow]
      exact_mod_cast bounded.le
    have upper := round_half_even_le quotient
    obtain ⟨multiple, same⟩ : ∃ multiple : Nat,
        roundHalfEven (value / 2 ^ shift) = multiple :=
      ⟨_, (Int.toNat_of_nonneg (le_round_half_even (by positivity))).symm⟩
    have fits : multiple * 2 ^ shift ≤ 2 ^ 64 := by
      rw [same] at upper
      have natural : multiple ≤ 2 ^ (64 - shift) := by exact_mod_cast upper
      calc multiple * 2 ^ shift ≤ 2 ^ (64 - shift) * 2 ^ shift := Nat.mul_le_mul_right _ natural
        _ = 2 ^ 64 := by rw [← pow_add, Nat.sub_add_cancel narrow]
    refine ⟨multiple * 2 ^ shift, ?_, fits⟩
    have finite : |((multiple * 2 ^ shift : Nat) : ℚ)| < 2 ^ 1024 := by
      rw [abs_of_nonneg (Nat.cast_nonneg _)]
      calc ((multiple * 2 ^ shift : Nat) : ℚ) ≤ 2 ^ 64 := by exact_mod_cast fits
        _ < 2 ^ 1024 := pow_lt_pow_right₀ (by norm_num) (by decide)
    have product : (roundHalfEven (value / 2 ^ shift) : ℚ) * 2 ^ shift =
        ((multiple * 2 ^ shift : Nat) : ℚ) := by
      rw [same]
      push_cast
      rfl
    simp only [nearest, unit, zpow_natCast, product]
    rw [if_neg (not_le.mpr finite)]

/-- A natural of 64 bits is exact as a double if and only if 53 bits hold its odd part.

Proof: the unit of the last place is a power of two, and the natural is exact when the unit
divides it. Its odd part is what is left when all powers of two are divided out. -/
theorem nearest_nat_iff {value : Nat} (bounded : value < 2 ^ 64) :
    nearest value = .finite value ↔
      ∃ significand exponent, significand < 2 ^ 53 ∧ value = significand * 2 ^ exponent := by
  by_cases small : value < 2 ^ 53
  · exact iff_of_true (nearest_nat small) ⟨value, 0, small, by simp⟩
  · have large : 2 ^ 53 ≤ (value : ℤ).natAbs := by simpa using not_lt.mp small
    obtain ⟨shift, _, exponent, low, high⟩ := unit_exponent_large large
    rw [Int.natAbs_natCast] at low high
    have unit : unitExponent value = shift := by exact_mod_cast exponent
    have size : |(value : ℚ)| < 2 ^ 1024 := by
      rw [abs_of_nonneg (Nat.cast_nonneg value)]
      calc (value : ℚ) < 2 ^ 64 := by exact_mod_cast bounded
        _ < 2 ^ 1024 := pow_lt_pow_right₀ (by norm_num) (by decide)
    constructor
    · intro kept
      simp only [nearest, unit, zpow_natCast] at kept
      split at kept
      · nomatch kept
      · have whole : (roundHalfEven (value / 2 ^ shift) : ℚ) * 2 ^ shift = value :=
          Double.finite.inj kept
        have multiple : roundHalfEven (value / 2 ^ shift) * 2 ^ shift = (value : ℤ) := by
          exact_mod_cast whole
        obtain ⟨significand, same⟩ : ∃ significand : Nat,
            roundHalfEven (value / 2 ^ shift) = significand :=
          ⟨_, (Int.toNat_of_nonneg (le_round_half_even (by positivity))).symm⟩
        rw [same] at multiple
        have exact_value : value = significand * 2 ^ shift := by exact_mod_cast multiple.symm
        refine ⟨significand, shift, ?_, exact_value⟩
        rw [exact_value] at high
        exact Nat.lt_of_mul_lt_mul_right high
    · rintro ⟨significand, power, narrow, rfl⟩
      -- The unit divides the power of two, as the significand has no more bits.
      have divides : shift ≤ power := by
        by_contra longer
        have doubled : 2 * 2 ^ power ≤ 2 ^ shift := by
          rw [← pow_succ']
          exact Nat.pow_le_pow_right (by decide) (by omega)
        have room : significand * 2 ^ power < 2 ^ 53 * 2 ^ power :=
          Nat.mul_lt_mul_of_pos_right narrow (by positivity)
        omega
      have multiple : ((significand * 2 ^ power : Nat) : ℚ) =
          ((significand * 2 ^ (power - shift) : Nat) : ℤ) *
            2 ^ unitExponent (significand * 2 ^ power : Nat) := by
        rw [unit, zpow_natCast]
        push_cast
        rw [mul_assoc, ← pow_add, Nat.sub_add_cancel divides]
      exact nearest_multiple multiple size

end GPay.Doubles
