import GPay.Gateway.Json

/-!
# Integers in decimal

The text of an integer is read as the nearest double of the integer.
-/

namespace GPay.Gateway

open Doubles Text

/-- The digits of a natural are read as the natural, digit by digit from the left. -/
theorem natural_digits (value : Nat) : ∃ digits,
    (Nat.toDigits 10 value).mapM (fun char =>
      (hexAlphabet.digit char.toLower).filter (· < 10)) = some digits ∧
    digits ≠ [] ∧ Nat.ofDigits 10 digits.reverse = value := by
  induction value using Nat.strongRecOn with
  | ind value smaller =>
    have single : ∀ digit < 10,
        (hexAlphabet.digit (Nat.digitChar digit).toLower).filter (· < 10) = some digit := by
      decide +kernel
    by_cases short : value < 10
    · refine ⟨[value], ?_, by simp, by simp⟩
      rw [Nat.toDigits_of_lt_base short]
      simp [single value short]
    · obtain ⟨digits, read, _, same⟩ := smaller (value / 10) (by omega)
      refine ⟨digits ++ [value % 10], ?_, by simp, ?_⟩
      · rw [Nat.toDigits_of_base_le (by decide) (by omega), List.mapM_append, read]
        simp [single _ (Nat.mod_lt value (by decide))]
      · rw [List.reverse_append, List.reverse_singleton, List.singleton_append, Nat.ofDigits_cons,
          same]
        exact Nat.mod_add_div value 10

/-- So they are as a number in base 10. -/
theorem natural_in_digits (value : Nat) : naturalIn 10 (Nat.toDigits 10 value) = some value := by
  obtain ⟨digits, read, nonempty, same⟩ := natural_digits value
  cases digits with
  | nil => exact absurd rfl nonempty
  | cons first rest => simpa [naturalIn, read] using same

/-- Every text of decimal digits is read as a natural. -/
theorem natural_in_text {text : List Char} (nonempty : text ≠ [])
    (digits : ∀ char ∈ text, char.isDigit = true) : ∃ value, naturalIn 10 text = some value := by
  have table : ∀ code < 58, (Char.ofNat code).isDigit = true →
      ((hexAlphabet.digit (Char.ofNat code).toLower).filter (· < 10)).isSome = true := by
    decide +kernel
  have single : ∀ char : Char, char.isDigit = true →
      ((hexAlphabet.digit char.toLower).filter (· < 10)).isSome = true := by
    intro char digit
    have range : 48 ≤ char.toNat ∧ char.toNat ≤ 57 := by
      simpa [Char.isDigit, UInt32.le_iff_toNat_le] using digit
    simpa using table char.toNat (by omega) (by simpa using digit)
  have read : ∃ values : List Nat, values.length = text.length ∧ text.mapM (fun char =>
      (hexAlphabet.digit char.toLower).filter (· < 10)) = some values := by
    clear nonempty
    induction text with
    | nil => exact ⟨[], rfl, rfl⟩
    | cons char rest continued =>
      obtain ⟨values, counted, read⟩ :=
        continued (fun other member => digits other (List.mem_cons_of_mem _ member))
      obtain ⟨value, here⟩ := Option.isSome_iff_exists.mp (single char (digits char (by simp)))
      exact ⟨value :: values, by simp [counted], by simp [List.mapM_cons, here, read]⟩
  obtain ⟨values, counted, same⟩ := read
  cases values with
  | nil => exact absurd (List.length_eq_zero_iff.mp counted.symm) nonempty
  | cons first rest => exact ⟨_, by rw [naturalIn, same]⟩

/-- The digits of a natural are decimal digits. -/
theorem digits_are (value : Nat) : ∀ char ∈ Nat.toDigits 10 value, char.isDigit = true :=
  fun _ member => Nat.isDigit_of_mem_toDigits (by decide) (by decide) member

/-- Nothing ends the digits early. -/
theorem span_digits (value : Nat) {inside : Char → Bool}
    (kept : ∀ char, char.isDigit = true → inside char = true) :
    (Nat.toDigits 10 value).span inside = (Nat.toDigits 10 value, []) := by
  have all : ∀ char ∈ Nat.toDigits 10 value, inside char = true :=
    fun char member => kept char (digits_are value char member)
  rw [List.span_eq_takeWhile_dropWhile, List.takeWhile_eq_self_iff.mpr all,
    List.dropWhile_eq_nil_iff.mpr all]

/-- Digits alone are a decimal number without a sign. -/
theorem unsigned_digits (value : Nat) :
    unsignedDecimal (Nat.toDigits 10 value) = some (value : ℚ) := by
  have no_exponent : ∀ char : Char, char.isDigit = true →
      decide (char ≠ 'e' ∧ char ≠ 'E') = true := by
    intro char digit
    refine decide_eq_true ⟨?_, ?_⟩
    · rintro rfl
      exact absurd digit (by decide)
    · rintro rfl
      exact absurd digit (by decide)
  have no_point : ∀ char : Char, char.isDigit = true → decide (char ≠ '.') = true := by
    intro char digit
    apply decide_eq_true
    rintro rfl
    exact absurd digit (by decide)
  simp only [unsignedDecimal, span_digits value no_exponent, span_digits value no_point]
  simp [natural_in_digits]

/-- With a sign in front they are the number or its negative. -/
theorem signed_digits (negative : Bool) (value : Nat) :
    signedDecimal negative (Nat.toDigits 10 value) =
      nearest (if negative then -(value : ℚ) else value) := by
  have finite : Nat.toDigits 10 value ≠ "Infinity".toList := by
    intro same
    have member : 'I' ∈ Nat.toDigits 10 value := by
      rw [same]
      decide
    exact absurd (digits_are value 'I' member) (by decide)
  rw [signedDecimal, if_neg finite, unsigned_digits]

/-- Digits are no white space. -/
theorem digit_not_space {char : Char} (digit : char.isDigit = true) : isSpace char = false := by
  have range : 48 ≤ char.toNat ∧ char.toNat ≤ 57 := by
    simpa [Char.isDigit, UInt32.le_iff_toNat_le] using digit
  simp only [isSpace, Bool.decide_or, Bool.or_eq_false_iff, decide_eq_false_iff_not, List.mem_cons,
    List.not_mem_nil, or_false]
  omega

/-- A text without space loses nothing. -/
theorem trim_solid {text : List Char} (solid : ∀ char ∈ text, isSpace char = false) :
    trim text = text := by
  have unspaced : ∀ {chars : List Char}, (∀ char ∈ chars, isSpace char = false) →
      chars.dropWhile isSpace = chars := by
    intro chars solid
    cases chars with
    | nil => rfl
    | cons first rest => rw [List.dropWhile_cons_of_neg (by simp [solid first (by simp)])]
  have reversed : ∀ char ∈ text.reverse, isSpace char = false :=
    fun char member => solid char (List.mem_reverse.mp member)
  rw [trim, unspaced solid, unspaced reversed, List.reverse_reverse]

/-- The text of a natural is read as its nearest double, as the language rounds what it reads. -/
theorem number_of_natural (value : Nat) : numberOf (toString value) = nearest value := by
  have text : (toString value).toList = Nat.toDigits 10 value := by
    rw [Nat.toString_eq_repr, Nat.toList_repr]
  have solid := trim_solid (fun char member => digit_not_space (digits_are value char member))
  have foreign : ∀ char, char ∈ Nat.toDigits 10 value → char.isDigit = false → False :=
    fun char member other => by simp [digits_are value char member] at other
  unfold numberOf
  rw [text, solid]
  dsimp only
  split
  · rename_i none
    exact absurd none Nat.toDigits_ne_nil
  · rename_i digits same
    exact (foreign 'x' (by simp [same]) rfl).elim
  · rename_i digits same
    exact (foreign 'X' (by simp [same]) rfl).elim
  · rename_i digits same
    exact (foreign 'o' (by simp [same]) rfl).elim
  · rename_i digits same
    exact (foreign 'O' (by simp [same]) rfl).elim
  · rename_i digits same
    exact (foreign 'b' (by simp [same]) rfl).elim
  · rename_i digits same
    exact (foreign 'B' (by simp [same]) rfl).elim
  · rename_i rest same
    exact (foreign '-' (by simp [same]) rfl).elim
  · rename_i rest same
    exact (foreign '+' (by simp [same]) rfl).elim
  · rw [signed_digits]
    simp

/-- The text of an integer is read as its nearest double, with a sign in front of the digits of a
negative one. -/
theorem number_of_integer (value : ℤ) : numberOf (toString value) = nearest value := by
  rcases lt_or_ge value 0 with below | above
  · have text : (toString value).toList = '-' :: Nat.toDigits 10 value.natAbs := by
      rw [Int.toString_eq_repr, Int.repr_eq_if, if_neg (not_le.mpr below), String.toList_append,
        Nat.toList_repr, show (-value).toNat = value.natAbs by omega]
      rfl
    have solid : trim ('-' :: Nat.toDigits 10 value.natAbs) =
        '-' :: Nat.toDigits 10 value.natAbs := by
      apply trim_solid
      intro char member
      rcases List.mem_cons.mp member with rfl | digit
      · decide
      · exact digit_not_space (digits_are _ char digit)
    have magnitude : (-(value.natAbs : ℚ)) = value := by
      rw [Nat.cast_natAbs, abs_of_neg below]
      push_cast
      ring
    unfold numberOf
    rw [text, solid]
    simp only [signed_digits, if_true, magnitude]
  · have same : toString value = toString value.toNat := by
      rw [Int.toString_eq_repr, Int.repr_eq_if, if_pos above, Nat.toString_eq_repr]
    rw [same, number_of_natural]
    exact congrArg nearest (by exact_mod_cast Int.toNat_of_nonneg above)

end GPay.Gateway
