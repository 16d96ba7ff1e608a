import Mathlib.Data.Nat.Digits.Lemmas
import Mathlib.Data.List.TakeWhile

/-!
# Positional notations

Byte strings of a fixed length, the number they write with the least significant
byte first, and the loop that assembles it from shifts and bitwise disjunctions.

A number is also written with its most significant digit first. Changing the base
of such a string keeps its leading zeros, one for one; it is undone by changing
the base back, which is what makes such texts names of byte strings.
-/

namespace GPay.Digits

/-- A byte string of the given length. -/
abbrev Bytes (size : Nat) := { bytes : List UInt8 // bytes.length = size }

/-- One byte throughout. -/
def Bytes.replicate (size : Nat) (byte : UInt8) : Bytes size :=
  ⟨List.replicate size byte, List.length_replicate⟩

/-- The number whose bytes these are, least significant first. -/
def littleEndian (bytes : List UInt8) : Nat := Nat.ofDigits 256 (bytes.map UInt8.toNat)

/-- The given number of bytes of a number, least significant first. -/
def toLittleEndian : Nat → Nat → List UInt8
  | 0, _ => []
  | count + 1, value => UInt8.ofNat value :: toLittleEndian count (value / 256)

/-- No bytes are zero. -/
@[simp] theorem little_endian_nil : littleEndian [] = 0 := rfl

/-- The first byte is the lowest digit. -/
@[simp] theorem little_endian_cons (byte : UInt8) (rest : List UInt8) :
    littleEndian (byte :: rest) = byte.toNat + 256 * littleEndian rest :=
  Nat.ofDigits_cons

/-- A number is written in as many bytes as are asked for. -/
@[simp] theorem length_to_little_endian (count value : Nat) :
    (toLittleEndian count value).length = count := by
  induction count generalizing value with
  | zero => rfl
  | succ count shorter => simp [toLittleEndian, shorter]

/-- Writing a number and reading it back loses what does not fit. -/
theorem little_endian_to_little_endian (count value : Nat) :
    littleEndian (toLittleEndian count value) = value % 256 ^ count := by
  induction count generalizing value with
  | zero => simp [toLittleEndian, Nat.mod_one]
  | succ count shorter =>
    have split := Nat.mod_mul (a := 256) (b := 256 ^ count) (x := value)
    simp only [toLittleEndian, little_endian_cons, shorter, UInt8.toNat_ofNat', Nat.reducePow]
    rw [Nat.pow_succ', split]

/-- Reading bytes and writing their number gives them back. -/
theorem to_little_endian_little_endian (bytes : List UInt8) :
    toLittleEndian bytes.length (littleEndian bytes) = bytes := by
  induction bytes with
  | nil => rfl
  | cons byte rest written =>
    have small := byte.toNat_lt
    have low : UInt8.ofNat (byte.toNat + 256 * littleEndian rest) = byte := by
      apply UInt8.toNat_inj.mp
      rw [UInt8.toNat_ofNat']
      omega
    have high : (byte.toNat + 256 * littleEndian rest) / 256 = littleEndian rest := by omega
    rw [List.length_cons, little_endian_cons, toLittleEndian, low, high, written]

/-- A number of so many bytes. -/
theorem little_endian_lt (bytes : List UInt8) : littleEndian bytes < 256 ^ bytes.length := by
  have written := little_endian_to_little_endian bytes.length (littleEndian bytes)
  rw [to_little_endian_little_endian] at written
  rw [written]
  exact Nat.mod_lt _ (Nat.pow_pos (by decide))

/-- Shifting by a byte and joining the next one appends it as a digit. -/
theorem shift_or (value : Nat) (byte : UInt8) :
    (value <<< 8) ||| byte.toNat = byte.toNat + 256 * value := by
  rw [← Nat.shiftLeft_add_eq_or_of_lt byte.toNat_lt, Nat.shiftLeft_eq]
  omega

/-- The loop over the bytes from the last to the first computes their value. -/
theorem shift_or_loop (bytes : List UInt8) :
    bytes.foldr (fun byte value => (value <<< 8) ||| byte.toNat) 0 = littleEndian bytes := by
  induction bytes with
  | nil => rfl
  | cons byte rest assembled => rw [List.foldr_cons, assembled, shift_or, little_endian_cons]

/-- The loop over the digits from the first to the last computes the number they write. -/
theorem of_digits_loop (base : Nat) (digits : List Nat) :
    digits.foldl (fun value digit => value * base + digit) 0 =
      Nat.ofDigits base digits.reverse := by
  induction digits using List.reverseRecOn with
  | nil => rfl
  | append_singleton before last counted =>
    rw [List.foldl_append, counted, List.reverse_append, List.reverse_singleton,
      List.singleton_append, Nat.ofDigits_cons, List.foldl_cons, List.foldl_nil, Nat.mul_comm,
      Nat.add_comm]

/-- Number of zeros before the first other digit. -/
def leadingZeros (digits : List Nat) : Nat := (digits.takeWhile (· == 0)).length

/-- The same number in another base, most significant digit first, behind as many
zeros as it had. -/
def rebase (source target : Nat) (digits : List Nat) : List Nat :=
  List.replicate (leadingZeros digits) 0 ++
    (Nat.digits target (Nat.ofDigits source digits.reverse)).reverse

/-- A digit string starts with zeros, and what follows them does not. -/
theorem leading_zeros_split (digits : List Nat) :
    digits = List.replicate (leadingZeros digits) 0 ++ digits.dropWhile (· == 0) := by
  have zeros : digits.takeWhile (· == 0) = List.replicate (leadingZeros digits) 0 :=
    List.eq_replicate_of_mem (fun digit member => by simpa using List.mem_takeWhile_imp member)
  rw [← zeros, List.takeWhile_append_dropWhile]

/-- Zeros in front do not change the number. -/
theorem of_digits_leading (base count : Nat) (digits : List Nat) :
    Nat.ofDigits base (List.replicate count 0 ++ digits).reverse =
      Nat.ofDigits base digits.reverse := by
  rw [List.reverse_append, List.reverse_replicate, Nat.ofDigits_append_replicate_zero]

/-- The digits of a number have no leading zero. -/
theorem leading_zeros_digits (base count value : Nat) :
    leadingZeros (List.replicate count 0 ++ (Nat.digits base value).reverse) = count := by
  have none : (Nat.digits base value).reverse.takeWhile (· == 0) = [] := by
    by_cases zero : value = 0
    · simp [zero]
    · have last := Nat.getLast_digit_ne_zero base zero
      have written := Nat.digits_ne_nil_iff_ne_zero (b := base).mpr zero
      rw [List.takeWhile_eq_nil_iff]
      intro nonempty
      simpa [List.getLast_eq_getElem] using last
  rw [leadingZeros, List.takeWhile_append_of_pos (by simp), none]
  simp

/-- Changing the base and changing it back restores the digits. -/
theorem rebase_rebase {source target : Nat} (wide : 1 < source) {digits : List Nat}
    (bounded : ∀ digit ∈ digits, digit < source) :
    rebase target source (rebase source target digits) = digits := by
  let rest := digits.dropWhile (· == 0)
  have parts : digits = List.replicate (leadingZeros digits) 0 ++ rest := leading_zeros_split digits
  have value : Nat.ofDigits source digits.reverse = Nat.ofDigits source rest.reverse := by
    rw [parts]
    exact of_digits_leading _ _ _
  have canonical : Nat.digits source (Nat.ofDigits source rest.reverse) = rest.reverse := by
    refine Nat.digits_ofDigits source wide _ (fun digit member => ?_) (fun nonempty => ?_)
    · have inside : digit ∈ rest := List.mem_reverse.mp member
      exact bounded digit ((List.dropWhile_suffix _).subset inside)
    · have first :=
        List.head_dropWhile_not (p := (· == 0)) (l := digits) (by simpa [rest] using nonempty)
      simpa [rest] using first
  have kept : leadingZeros (rebase source target digits) = leadingZeros digits :=
    leading_zeros_digits _ _ _
  calc rebase target source (rebase source target digits)
      = List.replicate (leadingZeros digits) 0 ++ (Nat.digits source
          (Nat.ofDigits target (rebase source target digits).reverse)).reverse := by
        rw [rebase, kept]
    _ = List.replicate (leadingZeros digits) 0 ++ rest.reverse.reverse := by
        rw [rebase, of_digits_leading, List.reverse_reverse, Nat.ofDigits_digits, value, canonical]
    _ = digits := by rw [List.reverse_reverse, ← parts]

/-- Digits in the new base are below it. -/
theorem rebase_lt {source target : Nat} (wide : 1 < target) (digits : List Nat) :
    ∀ digit ∈ rebase source target digits, digit < target := by
  intro digit member
  rcases List.mem_append.mp member with zero | written
  · rw [List.eq_of_mem_replicate zero]
    omega
  · exact Nat.digits_lt_base wide (List.mem_reverse.mp written)

end GPay.Digits
