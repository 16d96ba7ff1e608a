import GPay.Text

/-!
# Keys in requests and records

The gateway writes keys in hexadecimal and accepts them in base 58 as well. A text
of 64 hexadecimal digits, in either case, is never taken for base 58, and the base 58
text of a key is too short to be taken for hexadecimal.
-/

namespace GPay.Gateway

open Digits Text

/-- `x.toString(16).padStart(2, "0")` of every byte. -/
def bytesToHex (b : List UInt8) : String :=
  String.ofList (b.flatMap (fun x => List.leftpad 2 '0' (Nat.toDigits 16 x.toNat)))

/-- A hexadecimal digit of either case. -/
def isHexDigit (char : Char) : Bool :=
  ('0' ≤ char ∧ char ≤ '9') ∨ ('a' ≤ char ∧ char ≤ 'f') ∨ ('A' ≤ char ∧ char ≤ 'F')

/-- The regular expression `HEX_32`. -/
def isHex32 (text : String) : Bool := text.toList.length = 64 && text.toList.all isHexDigit

/-- `parseInt` of two hexadecimal digits of either case. -/
def parseHexPair (high low : Char) : Nat :=
  16 * (hexAlphabet.digit high.toLower).getD 0 + (hexAlphabet.digit low.toLower).getD 0

/-- Two digits a byte, from the left; a digit that is left over is dropped. -/
def hexPairs : List Char → List UInt8
  | high :: low :: rest => UInt8.ofNat (parseHexPair high low) :: hexPairs rest
  | _ => []

/-- Of hexadecimal digits. One that is left over is not read. -/
def hexToBytes (hex : String) : List UInt8 := hexPairs hex.toList

/-- `B58_ALPHABET`, with the characters of the usual one. -/
def b58Alphabet : Alphabet := base58Alphabet

/-- The first loop: the number that the characters write. -/
def base58Number (text : List Char) : Except String Nat :=
  text.foldlM (fun n char =>
    match b58Alphabet.digit char with
    | none => .error s!"invalid base58 char: {char}"
    | some digit => .ok (n * 58 + digit)) 0

/-- Bytes are split off the number from the low end until it is zero; a zero byte is
added for every leading `1`. -/
def base58Decode (text : String) : Except String (List UInt8) := do
  let n ← base58Number text.toList
  let bytes := Nat.digits 256 n ++ List.replicate (text.toList.takeWhile (· == '1')).length 0
  return bytes.reverse.map UInt8.ofNat

/-- A key in hexadecimal digits is written in small letters, and any other text is read in base
58. -/
def base58OrHexToHex (text : String) : Except String String := do
  if isHex32 text then
    return String.ofList (text.toList.map Char.toLower)
  let decoded ← base58Decode text
  return bytesToHex decoded

/-- A padded byte is its two digits. -/
theorem padded_digits (byte : UInt8) : List.leftpad 2 '0' (Nat.toDigits 16 byte.toNat) =
    [hexAlphabet.char (byte.toNat / 16), hexAlphabet.char (byte.toNat % 16)] := by
  have table : ∀ value < 256, List.leftpad 2 '0' (Nat.toDigits 16 value) =
      [hexAlphabet.char (value / 16), hexAlphabet.char (value % 16)] := by
    decide +kernel
  exact table byte.toNat byte.toNat_lt

/-- Both modules write bytes with the same digits. -/
theorem bytes_to_hex_eq (b : List UInt8) : bytesToHex b = String.ofList (encodeHex b) := by
  rw [bytesToHex]
  congr 1
  induction b with
  | nil => rfl
  | cons byte rest written => rw [List.flatMap_cons, written, padded_digits, encodeHex]; rfl

/-- Distinct byte strings have distinct texts. -/
theorem bytes_to_hex_injective : Function.Injective bytesToHex := by
  intro left right same
  rw [bytes_to_hex_eq, bytes_to_hex_eq] at same
  exact encode_hex_injective (String.ofList_injective same)

/-- A digit is read the same in either case. -/
theorem read_either_case {digit : Nat} (below : digit < 16) {char : Char}
    (same : char = hexAlphabet.char digit ∨ char = (hexAlphabet.char digit).toUpper) :
    isHexDigit char = true ∧ char.toLower = hexAlphabet.char digit ∧
      hexAlphabet.digit char.toLower = some digit := by
  have lower : ∀ digit < 16, isHexDigit (hexAlphabet.char digit) = true ∧
      (hexAlphabet.char digit).toLower = hexAlphabet.char digit ∧
      hexAlphabet.digit (hexAlphabet.char digit).toLower = some digit := by
    decide +kernel
  have upper : ∀ digit < 16, isHexDigit (hexAlphabet.char digit).toUpper = true ∧
      (hexAlphabet.char digit).toUpper.toLower = hexAlphabet.char digit ∧
      hexAlphabet.digit (hexAlphabet.char digit).toUpper.toLower = some digit := by
    decide +kernel
  rcases same with rfl | rfl
  · exact lower digit below
  · exact upper digit below

/-- The digits of bytes, in either case, are read as the bytes. In lower case they are the
digits that were written. -/
theorem case_mix_read {text : List Char} {bytes : List UInt8}
    (mix : CaseMix text (encodeHex bytes)) :
    text.all isHexDigit = true ∧ text.map Char.toLower = encodeHex bytes ∧
      hexPairs text = bytes := by
  induction bytes generalizing text with
  | nil =>
    obtain rfl := List.forall₂_nil_right_iff.mp mix
    exact ⟨rfl, rfl, rfl⟩
  | cons byte rest continued =>
    obtain ⟨high, behind, highCase, pair, rfl⟩ := List.forall₂_cons_right_iff.mp mix
    obtain ⟨low, text, lowCase, others, rfl⟩ := List.forall₂_cons_right_iff.mp pair
    obtain ⟨digits, lowered, read⟩ := continued others
    have small := byte.toNat_lt
    have highBelow : byte.toNat / 16 < 16 := by omega
    have lowBelow : byte.toNat % 16 < 16 := by omega
    obtain ⟨highDigit, highLower, highRead⟩ := read_either_case highBelow highCase
    obtain ⟨lowDigit, lowLower, lowRead⟩ := read_either_case lowBelow lowCase
    have joined : parseHexPair high low = byte.toNat := by
      rw [parseHexPair, highRead, lowRead]
      exact Nat.div_add_mod _ _
    refine ⟨?_, ?_, ?_⟩
    · rw [List.all_cons, List.all_cons, highDigit, lowDigit, digits]
      rfl
    · rw [List.map_cons, List.map_cons, highLower, lowLower, lowered, encodeHex]
    · rw [hexPairs, joined, read, UInt8.ofNat_toNat]

/-- A hexadecimal digit is one of the alphabet, in lower or upper case. -/
theorem hex_digit_either_case {char : Char} (digit : isHexDigit char = true) :
    ∃ value < 16, char = hexAlphabet.char value ∨ char = (hexAlphabet.char value).toUpper := by
  have table : ∀ code < 103, isHexDigit (Char.ofNat code) = true →
      ∃ value < 16, Char.ofNat code = hexAlphabet.char value ∨
        Char.ofNat code = (hexAlphabet.char value).toUpper := by
    decide +kernel
  have code : char.toNat < 103 := by
    simp only [isHexDigit, Bool.decide_or, Bool.or_eq_true, decide_eq_true_eq] at digit
    rcases digit with ⟨_, last⟩ | ⟨_, last⟩ | ⟨_, last⟩
    · exact Nat.lt_of_le_of_lt (Char.le_def.mp last) (by decide)
    · exact Nat.lt_of_le_of_lt (Char.le_def.mp last) (by decide)
    · exact Nat.lt_of_le_of_lt (Char.le_def.mp last) (by decide)
  simpa using table char.toNat code (by simpa using digit)

/-- An even number of hexadecimal digits are the digits of the bytes they are read as, in
either case. -/
theorem hex_pairs_written (text : List Char) (even : text.length % 2 = 0)
    (digits : ∀ char ∈ text, isHexDigit char = true) :
    CaseMix text (encodeHex (hexPairs text)) := by
  match text with
  | [] => exact .nil
  | [_] => simp at even
  | high :: low :: rest =>
    obtain ⟨first, firstBelow, highCase⟩ := hex_digit_either_case (digits high (by simp))
    obtain ⟨second, secondBelow, lowCase⟩ := hex_digit_either_case (digits low (by simp))
    obtain ⟨_, _, highRead⟩ := read_either_case firstBelow highCase
    obtain ⟨_, _, lowRead⟩ := read_either_case secondBelow lowCase
    have value : (UInt8.ofNat (parseHexPair high low)).toNat = 16 * first + second := by
      rw [parseHexPair, highRead, lowRead, UInt8.toNat_ofNat']
      exact Nat.mod_eq_of_lt (by simp; omega)
    have upper : (16 * first + second) / 16 = first := by omega
    have lower : (16 * first + second) % 16 = second := by omega
    have continued := hex_pairs_written rest
      (by simp only [List.length_cons] at even; omega)
      (fun char member => digits char (by simp [member]))
    rw [hexPairs, encodeHex, value, upper, lower]
    exact .cons highCase (.cons lowCase continued)

/-- The regular expression accepts the texts of keys in hexadecimal, in any mix of cases, and
nothing else. -/
theorem is_hex32_iff (text : String) :
    isHex32 text = true ↔ ∃ key : Bytes 32, CaseMix text.toList (bytesToHex key.val).toList := by
  constructor
  · intro accepted
    obtain ⟨length, digits⟩ : text.toList.length = 64 ∧
        ∀ char ∈ text.toList, isHexDigit char = true := by
      simpa [isHex32] using accepted
    have mix := hex_pairs_written text.toList (by rw [length]) digits
    have sized : (hexPairs text.toList).length = 32 := by
      have same := List.Forall₂.length_eq mix
      rw [length_encode_hex, length] at same
      omega
    refine ⟨⟨hexPairs text.toList, sized⟩, ?_⟩
    rw [bytes_to_hex_eq, String.toList_ofList]
    exact mix
  · rintro ⟨key, mix⟩
    rw [bytes_to_hex_eq, String.toList_ofList] at mix
    have length := List.Forall₂.length_eq mix
    rw [length_encode_hex, key.property] at length
    rw [isHex32, (case_mix_read mix).1, length]
    rfl

/-- The first loop reads every digit of the alphabet. -/
theorem base58_number_loop {digits : List Nat} (bounded : ∀ digit ∈ digits, digit < 58) (n : Nat) :
    (digits.map b58Alphabet.char).foldlM (fun n char =>
      match b58Alphabet.digit char with
      | none => .error s!"invalid base58 char: {char}"
      | some digit => .ok (n * 58 + digit)) n =
    (Except.ok (digits.foldl (fun n digit => n * 58 + digit) n) : Except String Nat) := by
  induction digits generalizing n with
  | nil => rfl
  | cons first rest continued =>
    have read : b58Alphabet.digit (b58Alphabet.char first) = some first :=
      b58Alphabet.digit_char (bounded first (by simp))
    rw [List.map_cons, List.foldlM_cons, read]
    exact continued (fun digit member => bounded digit (by simp [member])) _

/-- On digits of the alphabet it computes the number in base 58. -/
theorem base58_number_written {digits : List Nat} (bounded : ∀ digit ∈ digits, digit < 58) :
    base58Number (digits.map b58Alphabet.char) = .ok (Nat.ofDigits 58 digits.reverse) := by
  rw [base58Number, base58_number_loop bounded, of_digits_loop]

/-- The leading `1`s of a written text are its leading zero digits. -/
theorem leading_ones {digits : List Nat} (bounded : ∀ digit ∈ digits, digit < 58) :
    ((digits.map b58Alphabet.char).takeWhile (· == '1')).length = leadingZeros digits := by
  have first : ∀ digit < 58, (b58Alphabet.char digit == '1') = (digit == 0) := by decide +kernel
  have same : (digits.map b58Alphabet.char).takeWhile (· == '1') =
      (digits.takeWhile (· == 0)).map b58Alphabet.char := by
    induction digits with
    | nil => rfl
    | cons digit rest shorter =>
      have read := first digit (bounded digit (by simp))
      rw [List.map_cons, List.takeWhile_cons, List.takeWhile_cons, read,
        shorter (fun other member => bounded other (by simp [member]))]
      split <;> rfl
  rw [same, List.length_map, leadingZeros]

/-- Decoding inverts the standard encoding, for byte strings of any length and with any number of
leading zeros. -/
theorem base58_decode_encode (bytes : List UInt8) :
    base58Decode (String.ofList (encodeBase58 bytes)) = .ok bytes := by
  let digits := rebase 256 58 (bytes.map UInt8.toNat)
  have bounded : ∀ digit ∈ digits, digit < 58 := rebase_lt (by decide) _
  have written : encodeBase58 bytes = digits.map b58Alphabet.char := rfl
  have restored : rebase 58 256 digits = bytes.map UInt8.toNat :=
    rebase_rebase (by decide) (bytes_bounded bytes)
  have reversed : (Nat.digits 256 (Nat.ofDigits 58 digits.reverse) ++
      List.replicate (leadingZeros digits) 0).reverse = rebase 58 256 digits := by
    rw [List.reverse_append, List.reverse_replicate, rebase]
  rw [base58Decode, String.toList_ofList, written, base58_number_written bounded,
    leading_ones bounded]
  simp only [bind, Except.bind, reversed, restored, List.map_map]
  simp [Function.comp_def, pure, Except.pure]

/-- Reading the digits that were written gives the bytes back. -/
theorem hex_to_bytes_written (bytes : List UInt8) : hexToBytes (bytesToHex bytes) = bytes := by
  rw [hexToBytes, bytes_to_hex_eq, String.toList_ofList]
  exact (case_mix_read (.refl (encodeHex bytes))).2.2

/-- The base 58 text of a key is too short for the regular expression. -/
theorem base58_not_hex (key : Bytes 32) : isHex32 (base58Text key.val) = false := by
  have short := length_encode_base58 key.property
  have unequal : (encodeBase58 key.val).length ≠ 64 := by omega
  simp [isHex32, base58Text, String.toList_ofList, unequal]

/-- The base 58 text of a key is read as the key. -/
theorem base58_or_hex_key {key : List UInt8} (sized : key.length = 32) :
    base58OrHexToHex (String.ofList (encodeBase58 key)) = .ok (bytesToHex key) := by
  have other : isHex32 (String.ofList (encodeBase58 key)) = false := base58_not_hex ⟨key, sized⟩
  rw [base58OrHexToHex, other, base58_decode_encode]
  rfl

/-- So is its text in hexadecimal, in any mix of cases. -/
theorem base58_or_hex_mix {key : Bytes 32} {text : String}
    (mix : CaseMix text.toList (bytesToHex key.val).toList) :
    base58OrHexToHex text = .ok (bytesToHex key.val) := by
  have accepted := (is_hex32_iff text).mpr ⟨key, mix⟩
  rw [bytes_to_hex_eq, String.toList_ofList] at mix
  rw [base58OrHexToHex, accepted, (case_mix_read mix).2.1, bytes_to_hex_eq]
  rfl

/-- Both texts of bytes are decoded to the bytes, and both texts of a key, the hexadecimal one in
any mix of cases, to its hexadecimal text. The two are never confused: no base58 text of a key
reads as 32 bytes in hexadecimal.

Proof: the digits of a number are read back as the number in any base, and the leading zero bytes
are the leading ones of the text. A base58 text of 32 bytes has 44 digits at most, and 64 make a
hexadecimal one. -/
theorem key_texts_decoded :
    (∀ bytes, base58Decode (base58Text bytes) = .ok bytes) ∧
    (∀ key : Bytes 32,
      isHex32 (base58Text key.val) = false ∧
      base58OrHexToHex (base58Text key.val) = .ok (bytesToHex key.val) ∧
      ∀ text : String, CaseMix text.toList (bytesToHex key.val).toList →
        base58OrHexToHex text = .ok (bytesToHex key.val)) ∧
    ∀ bytes, hexToBytes (bytesToHex bytes) = bytes := by
  refine ⟨base58_decode_encode, ?_, hex_to_bytes_written⟩
  intro key
  refine ⟨base58_not_hex key, base58_or_hex_key key.property, ?_⟩
  intro text mix
  exact base58_or_hex_mix mix

namespace Local

/-- A key of every digit. -/
def digitsKey : Bytes 32 :=
  ⟨(List.replicate 4 [0x01, 0x23, 0x45, 0x67, 0x89, 0xab, 0xcd, 0xef]).flatten, rfl⟩

/-- Digits of both cases name the key of their bytes. -/
theorem mixed_case_decoded :
    base58OrHexToHex "0123456789aBcDeF0123456789AbCdEf0123456789abcdef0123456789ABCDEF" =
      .ok (bytesToHex digitsKey.val) :=
  (key_texts_decoded.2.1 digitsKey).2.2 _ (by decide +kernel)

end Local

end GPay.Gateway
