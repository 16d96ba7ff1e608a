import Mathlib.Data.List.Forall2
import GPay.Digits

/-!
# Byte strings as text

An alphabet lists the characters of the digits of a base. In base 16 every byte is
two digits, which determine it. In base 58 a byte string is one number behind as many
zero digits as it has leading zero bytes.
-/

namespace GPay.Text

open Digits

/-- Distinct characters, the digit being the position. -/
structure Alphabet where
  chars : List Char
  distinct : chars.Nodup

namespace Alphabet

/-- The character of a digit. -/
def char (alphabet : Alphabet) (digit : Nat) : Char := alphabet.chars.getD digit ' '

/-- The digit of a character. -/
def digit (alphabet : Alphabet) (char : Char) : Option Nat :=
  if char ∈ alphabet.chars then some (alphabet.chars.idxOf char) else none

/-- A digit has a character of the alphabet, or none and is written as a blank. -/
theorem char_listed (alphabet : Alphabet) (digit : Nat) :
    alphabet.char digit ∈ ' ' :: alphabet.chars := by
  rw [Alphabet.char, List.getD_eq_getElem?_getD]
  cases found : alphabet.chars[digit]? with
  | none => exact List.mem_cons_self
  | some char => exact List.mem_cons_of_mem _ (List.mem_of_getElem? found)

/-- The character of a digit is read as the digit. -/
theorem digit_char (alphabet : Alphabet) {digit : Nat} (below : digit < alphabet.chars.length) :
    alphabet.digit (alphabet.char digit) = some digit := by
  have found : alphabet.char digit = alphabet.chars[digit] := by
    rw [Alphabet.char, List.getD_eq_getElem?_getD, List.getElem?_eq_getElem below, Option.getD_some]
  rw [Alphabet.digit, found, if_pos (List.getElem_mem below), alphabet.distinct.idxOf_getElem]

/-- A character of the alphabet is that of the digit it is read as. -/
theorem char_digit (alphabet : Alphabet) {char : Char} (listed : char ∈ alphabet.chars) :
    ∃ digit < alphabet.chars.length, alphabet.digit char = some digit ∧
      alphabet.char digit = char := by
  have below := List.idxOf_lt_length_of_mem listed
  refine ⟨alphabet.chars.idxOf char, below, if_pos listed, ?_⟩
  rw [Alphabet.char, List.getD_eq_getElem?_getD, List.getElem?_eq_getElem below, Option.getD_some,
    List.getElem_idxOf]

end Alphabet

/-- Hexadecimal digits in lower case. -/
def hexAlphabet : Alphabet := ⟨"0123456789abcdef".toList, by decide⟩

/-- Digits and letters without those that are mistaken for one another. -/
def base58Alphabet : Alphabet :=
  ⟨"123456789ABCDEFGHJKLMNPQRSTUVWXYZabcdefghijkmnopqrstuvwxyz".toList, by decide⟩

/-- Two digits a byte. -/
def encodeHex : List UInt8 → List Char
  | [] => []
  | byte :: rest =>
      hexAlphabet.char (byte.toNat / 16) :: hexAlphabet.char (byte.toNat % 16) :: encodeHex rest

/-- Pairs of digits back to bytes, up to the first pair that is not one. -/
def decodeHex : List Char → List UInt8
  | high :: low :: rest =>
      match hexAlphabet.digit high, hexAlphabet.digit low with
      | some first, some second => UInt8.ofNat (16 * first + second) :: decodeHex rest
      | _, _ => []
  | _ => []

/-- The digits of the bytes' number in base 58, behind one zero for each leading zero. -/
def encodeBase58 (bytes : List UInt8) : List Char :=
  (rebase 256 58 (bytes.map UInt8.toNat)).map base58Alphabet.char

/-- The text that a key or a signature is displayed as. -/
def base58Text (bytes : List UInt8) : String := String.ofList (encodeBase58 bytes)

/-- A text with any of the letters of another in upper case. -/
def CaseMix (text written : List Char) : Prop :=
  List.Forall₂ (fun char letter => char = letter ∨ char = letter.toUpper) text written

instance (text written : List Char) : Decidable (CaseMix text written) :=
  inferInstanceAs (Decidable (List.Forall₂ _ text written))

/-- A text is a mix of its own cases. -/
theorem CaseMix.refl (text : List Char) : CaseMix text text :=
  List.forall₂_same.mpr (fun _ _ => .inl rfl)

/-- A byte takes two digits. -/
theorem length_encode_hex (bytes : List UInt8) : (encodeHex bytes).length = 2 * bytes.length := by
  induction bytes with
  | nil => rfl
  | cons byte rest counted =>
    rw [encodeHex, List.length_cons, List.length_cons, counted, List.length_cons]
    omega

/-- Digits are read as the bytes that they were written for. -/
theorem decode_encode_hex (bytes : List UInt8) : decodeHex (encodeHex bytes) = bytes := by
  induction bytes with
  | nil => rfl
  | cons byte rest decoded =>
    have small := byte.toNat_lt
    have high : hexAlphabet.digit (hexAlphabet.char (byte.toNat / 16)) = some (byte.toNat / 16) :=
      hexAlphabet.digit_char (Nat.div_lt_of_lt_mul small)
    have low : hexAlphabet.digit (hexAlphabet.char (byte.toNat % 16)) = some (byte.toNat % 16) :=
      hexAlphabet.digit_char (Nat.mod_lt _ (by decide))
    have joined : 16 * (byte.toNat / 16) + byte.toNat % 16 = byte.toNat := Nat.div_add_mod _ _
    simp only [encodeHex, decodeHex, high, low, decoded, joined, UInt8.ofNat_toNat]

/-- An even number of digits is the text of the bytes it is read as. -/
theorem encode_decode_hex (text : List Char) (even : text.length % 2 = 0)
    (digits : ∀ char ∈ text, char ∈ hexAlphabet.chars) : encodeHex (decodeHex text) = text := by
  match text with
  | [] => rfl
  | [_] => simp at even
  | high :: low :: rest =>
    obtain ⟨first, firstBelow, readHigh, high_char⟩ :=
      hexAlphabet.char_digit (digits high (by simp))
    obtain ⟨second, secondBelow, readLow, low_char⟩ :=
      hexAlphabet.char_digit (digits low (by simp))
    have sixteen : hexAlphabet.chars.length = 16 := rfl
    have value : (UInt8.ofNat (16 * first + second)).toNat = 16 * first + second := by
      rw [UInt8.toNat_ofNat', Nat.mod_eq_of_lt (by omega)]
    have encoded := encode_decode_hex rest
      (by simp only [List.length_cons] at even; omega)
      (fun char member => digits char (by simp [member]))
    have upper : (16 * first + second) / 16 = first := by omega
    have lower : (16 * first + second) % 16 = second := by omega
    simp only [decodeHex, readHigh, readLow, encodeHex, value, upper, lower, high_char, low_char,
      encoded]

/-- Distinct byte strings have distinct texts. -/
theorem encode_hex_injective : Function.Injective encodeHex :=
  Function.LeftInverse.injective decode_encode_hex

/-- Bytes are digits of base 256. -/
theorem bytes_bounded (bytes : List UInt8) : ∀ digit ∈ bytes.map UInt8.toNat, digit < 256 := by
  simpa using fun byte _ => byte.toNat_lt

/-- The text of 32 bytes is shorter than two digits a byte. With a leading zero it
saves a character there; without, the number has at most 44 digits. -/
theorem length_encode_base58 {bytes : List UInt8} (sized : bytes.length = 32) :
    (encodeBase58 bytes).length < 64 := by
  let digits := bytes.map UInt8.toNat
  let rest := digits.dropWhile (· == 0)
  have parts : digits = List.replicate (leadingZeros digits) 0 ++ rest := leading_zeros_split digits
  have counted : leadingZeros digits + rest.length = 32 := by
    have lengths := congrArg List.length parts
    rw [List.length_append, List.length_replicate, List.length_map, sized] at lengths
    omega
  have value : Nat.ofDigits 256 digits.reverse < 256 ^ rest.length := by
    have bounded : ∀ digit ∈ rest.reverse, digit < 256 := fun digit member =>
      bytes_bounded bytes digit ((List.dropWhile_suffix _).subset (List.mem_reverse.mp member))
    have limit := Nat.ofDigits_lt_base_pow_length (by decide) bounded
    rw [parts, of_digits_leading]
    simpa using limit
  have width : ∀ count, 256 ^ rest.length ≤ 58 ^ count →
      (Nat.digits 58 (Nat.ofDigits 256 digits.reverse)).length ≤ count := fun count wide =>
    (Nat.digits_length_le_iff (by decide) _).mpr (Nat.lt_of_lt_of_le value wide)
  have total : (encodeBase58 bytes).length =
      leadingZeros digits + (Nat.digits 58 (Nat.ofDigits 256 digits.reverse)).length := by
    simp [encodeBase58, rebase, digits]
  rcases Nat.eq_zero_or_pos (leadingZeros digits) with none | some
  · have full : rest.length = 32 := by omega
    have narrow := width 44 (by rw [full]; decide)
    omega
  · have squares : 256 ^ rest.length ≤ 58 ^ (2 * rest.length) := by
      rw [Nat.pow_mul]
      exact Nat.pow_le_pow_left (by decide) _
    have narrow := width _ squares
    omega

end GPay.Text
