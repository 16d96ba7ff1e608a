import Mathlib.Logic.Equiv.Basic
import GPay.Digits

/-!
# Binary formats

A format says which values can be written, writes them, and reads them back from the
front of a byte string. Both directions are part of it: what is written is read back
whatever follows it, and what is read was written, so that no two byte strings stand for
one value and no value is the beginning of another.

Formats are put together from those of their fields: one behind the other, a counted list
of them, a choice behind a mark, and a change of the type of the values.
-/

namespace GPay.Codec

open Digits

universe u v

/-- The first half of the numbers stands for themselves, the second for the negative ones. -/
def signed (modulus : Nat) (image : Nat) : Int :=
  if image < modulus / 2 then image else image - modulus

/-- A signed integer is read back from its remainder. -/
theorem signed_mod {half : Nat} {value : Int} (low : -half ≤ value) (high : value < half) :
    signed (2 * half) (value % (2 * half : Nat)).toNat = value := by
  rcases lt_or_ge value 0 with negative | positive
  · have wrapped : value % (2 * half : Nat) = value + (2 * half : Nat) := by
      rw [← Int.add_emod_right, Int.emod_eq_of_lt (by omega) (by omega)]
    rw [wrapped, signed, if_neg (by omega)]
    omega
  · rw [Int.emod_eq_of_lt positive (by omega), signed, if_pos (by omega)]
    omega

/-- A remainder is that of the signed integer it is read as. -/
theorem mod_signed {half image : Nat} (small : image < 2 * half) :
    (-half ≤ signed (2 * half) image ∧ signed (2 * half) image < half) ∧
      (signed (2 * half) image % (2 * half : Nat)).toNat = image := by
  unfold signed
  split
  · refine ⟨⟨by omega, by omega⟩, ?_⟩
    rw [Int.emod_eq_of_lt (by omega) (by omega)]
    omega
  · refine ⟨⟨by omega, by omega⟩, ?_⟩
    rw [← Int.add_emod_right, Int.emod_eq_of_lt (by omega) (by omega)]
    omega

/-- How values are written and read: what is written is read back with whatever stands behind it,
and what is read was written so. -/
structure Format (α : Type u) where
  Valid : α → Prop
  write : α → List UInt8
  read : List UInt8 → Option (α × List UInt8)
  read_write : ∀ value rest, Valid value → read (write value ++ rest) = some (value, rest)
  write_read : ∀ input value rest, read input = some (value, rest) →
    Valid value ∧ input = write value ++ rest

namespace Format

variable {α : Type u} {β : Type v}

/-- What is read off the front of a byte string is what it begins with. -/
theorem read_iff (format : Format α) (input : List UInt8) (value : α) (rest : List UInt8) :
    format.read input = some (value, rest) ↔
      format.Valid value ∧ input = format.write value ++ rest := by
  constructor
  · exact format.write_read input value rest
  · rintro ⟨valid, rfl⟩
    exact format.read_write value rest valid

/-- The value that a byte string begins with. -/
def value (format : Format α) (input : List UInt8) : Option α := (format.read input).map Prod.fst

/-- A value is read exactly from inputs that begin with what is written for it. -/
theorem value_iff (format : Format α) (input : List UInt8) (value : α) :
    format.value input = some value ↔ format.Valid value ∧ format.write value <+: input := by
  constructor
  · intro found
    obtain ⟨⟨_, rest⟩, read, rfl⟩ := Option.map_eq_some_iff.mp found
    obtain ⟨valid, same⟩ := (format.read_iff _ _ _).mp read
    exact ⟨valid, rest, same.symm⟩
  · rintro ⟨valid, rest, rfl⟩
    rw [Format.value, (format.read_iff _ _ _).mpr ⟨valid, rfl⟩, Option.map_some]

/-- No bytes at all, for the only value of a type. -/
def nothing : Format Unit where
  Valid _ := True
  write _ := []
  read input := some ((), input)
  read_write _ _ _ := rfl
  write_read := by
    rintro input value rest read
    obtain ⟨rfl, rfl⟩ := Prod.mk.inj (Option.some.inj read)
    exact ⟨trivial, rfl⟩

/-- A number of bytes, as they are. They are read when there are so many, and what follows them
is left. -/
def bytes (size : Nat) : Format (Bytes size) where
  Valid _ := True
  write value := value.val
  read input :=
    if enough : size ≤ input.length then
      some (⟨input.take size, List.length_take_of_le enough⟩, input.drop size)
    else none
  read_write := by
    rintro ⟨value, sized⟩ rest -
    have enough : size ≤ (value ++ rest).length := by
      rw [List.length_append]
      omega
    have front : (value ++ rest).take size = value := by rw [← sized, List.take_left]
    have back : (value ++ rest).drop size = rest := by rw [← sized, List.drop_left]
    simp only [dif_pos enough, front, back]
  write_read := by
    intro input value rest read
    split at read
    · obtain ⟨rfl, rfl⟩ := Prod.mk.inj (Option.some.inj read)
      exact ⟨trivial, (List.take_append_drop size input).symm⟩
    · cases read

/-- A byte, as it is. -/
def byte : Format UInt8 where
  Valid _ := True
  write value := [value]
  read
    | [] => none
    | value :: rest => some (value, rest)
  read_write _ _ _ := rfl
  write_read := by
    intro input value rest read
    cases input with
    | nil => cases read
    | cons first others =>
      obtain ⟨rfl, rfl⟩ := Prod.mk.inj (Option.some.inj read)
      exact ⟨trivial, rfl⟩

/-- One of some values, as its position among them. The values are distinct and few enough for a
byte, and a byte behind the last position is none of them. -/
def enumeration [DecidableEq α] (values : List α) (distinct : values.Nodup)
    (few : values.length ≤ 256) : Format α where
  Valid value := value ∈ values
  write value := [UInt8.ofNat (values.idxOf value)]
  read
    | [] => none
    | position :: rest => values[position.toNat]?.map (fun value => (value, rest))
  read_write := by
    intro value rest member
    have inside : values.idxOf value < values.length := List.idxOf_lt_length_iff.mpr member
    have small : (UInt8.ofNat (values.idxOf value)).toNat = values.idxOf value := by
      rw [UInt8.toNat_ofNat', Nat.mod_eq_of_lt (by omega)]
    simp only [List.cons_append, List.nil_append, small, List.getElem?_eq_getElem inside,
      List.getElem_idxOf inside, Option.map_some]
  write_read := by
    intro input value rest read
    cases input with
    | nil => cases read
    | cons position others =>
      obtain ⟨found, located, same⟩ := Option.map_eq_some_iff.mp read
      obtain ⟨rfl, rfl⟩ := Prod.mk.inj same
      obtain ⟨inside, rfl⟩ := List.getElem?_eq_some_iff.mp located
      have back : UInt8.ofNat (values.idxOf values[position.toNat]) = position := by
        rw [distinct.idxOf_getElem, UInt8.ofNat_toNat]
      exact ⟨List.getElem_mem inside, by rw [back]; rfl⟩

/-- The same bytes for values of another type, of which some correspond to the format's: those
that do are what the new format can write. -/
def along (format : Format α) (Admitted : β → Prop) (into : β → α) (back : α → β)
    (valid_into : ∀ value, Admitted value → format.Valid (into value))
    (back_into : ∀ value, Admitted value → back (into value) = value)
    (admitted_back : ∀ image, format.Valid image → Admitted (back image))
    (into_back : ∀ image, format.Valid image → into (back image) = image) : Format β where
  Valid := Admitted
  write value := format.write (into value)
  read input := (format.read input).map (fun found => (back found.1, found.2))
  read_write := by
    intro value rest admitted
    rw [format.read_write _ rest (valid_into value admitted), Option.map_some,
      back_into value admitted]
  write_read := by
    intro input value rest read
    obtain ⟨⟨image, others⟩, found, same⟩ := Option.map_eq_some_iff.mp read
    obtain ⟨rfl, rfl⟩ := Prod.mk.inj same
    obtain ⟨valid, begins⟩ := format.write_read _ _ _ found
    exact ⟨admitted_back image valid, by rw [into_back image valid]; exact begins⟩

/-- The same bytes for the values of an equivalent type. -/
def via (format : Format α) (as : α ≃ β) : Format β :=
  format.along (fun value => format.Valid (as.symm value)) as.symm as (fun _ valid => valid)
    (fun value _ => as.apply_symm_apply value)
    (fun image valid => by rw [as.symm_apply_apply]; exact valid)
    (fun image _ => as.symm_apply_apply image)

/-- A natural number in a number of bytes, the least significant first. -/
def natural (size : Nat) : Format Nat :=
  (bytes size).along (fun value => value < 256 ^ size)
    (fun value => ⟨toLittleEndian size value, length_to_little_endian size value⟩)
    (fun image => littleEndian image.val) (fun _ _ => trivial)
    (fun value small => by rw [little_endian_to_little_endian, Nat.mod_eq_of_lt small])
    (fun image _ => by
      have small := little_endian_lt image.val
      rwa [image.property] at small)
    (fun image _ => Subtype.ext (by
      have written := to_little_endian_little_endian image.val
      rwa [image.property] at written))

/-- An integer in two's complement, in a number of bytes: the negative ones are written as the
numbers from the middle on. -/
def integer (size : Nat) [NeZero size] : Format Int :=
  have even : 2 * (256 ^ size / 2) = 256 ^ size :=
    Nat.mul_div_cancel' (dvd_pow (by decide) (NeZero.ne size))
  (natural size).along
    (fun value => -(256 ^ size / 2 : Nat) ≤ value ∧ value < (256 ^ size / 2 : Nat))
    (fun value => (value % (256 ^ size : Nat)).toNat) (signed (256 ^ size))
    (fun value _ => by
      have positive : (0 : Int) < (256 ^ size : Nat) := by positivity
      have below := Int.emod_lt_of_pos value positive
      have above := Int.emod_nonneg value positive.ne'
      show (value % (256 ^ size : Nat)).toNat < 256 ^ size
      omega)
    (fun value admitted => by rw [← even]; exact signed_mod admitted.1 admitted.2)
    (fun image small => by
      have bounds := (mod_signed (small.trans_eq even.symm)).1
      rwa [even] at bounds)
    (fun image small => by
      have wrapped := (mod_signed (small.trans_eq even.symm)).2
      rwa [even] at wrapped)

/-- One value behind another. -/
def pair (first : Format α) (second : Format β) : Format (α × β) where
  Valid value := first.Valid value.1 ∧ second.Valid value.2
  write value := first.write value.1 ++ second.write value.2
  read input := (first.read input).bind (fun found =>
    (second.read found.2).map (fun next => ((found.1, next.1), next.2)))
  read_write := by
    rintro ⟨left, right⟩ rest ⟨leftValid, rightValid⟩
    rw [List.append_assoc, first.read_write _ _ leftValid, Option.bind_some,
      second.read_write _ _ rightValid, Option.map_some]
  write_read := by
    rintro input ⟨left, right⟩ rest read
    obtain ⟨⟨found, others⟩, front, next⟩ := Option.bind_eq_some_iff.mp read
    obtain ⟨⟨value, remaining⟩, back, same⟩ := Option.map_eq_some_iff.mp next
    obtain ⟨parts, rfl⟩ := Prod.mk.inj same
    obtain ⟨rfl, rfl⟩ := Prod.mk.inj parts
    obtain ⟨leftValid, rfl⟩ := first.write_read _ _ _ front
    obtain ⟨rightValid, rfl⟩ := second.write_read _ _ _ back
    exact ⟨⟨leftValid, rightValid⟩, (List.append_assoc _ _ _).symm⟩

/-- The given number of values, one behind the other. -/
def readMany (format : Format α) : Nat → List UInt8 → Option (List α × List UInt8)
  | 0, input => some ([], input)
  | count + 1, input => (format.read input).bind (fun found =>
      (format.readMany count found.2).map (fun next => (found.1 :: next.1, next.2)))

/-- Values that are written one behind the other are read back. -/
theorem read_many_write (format : Format α) (values : List α) (rest : List UInt8)
    (valid : ∀ value ∈ values, format.Valid value) :
    format.readMany values.length (values.flatMap format.write ++ rest) = some (values, rest) := by
  induction values with
  | nil => rfl
  | cons value others continued =>
    have remaining := continued (fun other member => valid other (List.mem_cons_of_mem _ member))
    rw [List.length_cons, readMany, List.flatMap_cons, List.append_assoc,
      format.read_write _ _ (valid value List.mem_cons_self), Option.bind_some, remaining,
      Option.map_some]

/-- What is read one behind the other was written so: the values can each be written, and their
bytes come first in the input, in order. -/
theorem write_read_many (format : Format α) (count : Nat) {input : List UInt8} {values : List α}
    {rest : List UInt8} (read : format.readMany count input = some (values, rest)) :
    values.length = count ∧ (∀ value ∈ values, format.Valid value) ∧
      input = values.flatMap format.write ++ rest := by
  induction count generalizing input values with
  | zero =>
    obtain ⟨rfl, rfl⟩ := Prod.mk.inj (Option.some.inj read)
    exact ⟨rfl, by simp, rfl⟩
  | succ count continued =>
    obtain ⟨⟨value, others⟩, first, next⟩ := Option.bind_eq_some_iff.mp read
    obtain ⟨⟨following, remaining⟩, later, same⟩ := Option.map_eq_some_iff.mp next
    obtain ⟨rfl, rfl⟩ := Prod.mk.inj same
    obtain ⟨valid, rfl⟩ := format.write_read _ _ _ first
    obtain ⟨counted, all, rfl⟩ := continued later
    refine ⟨by rw [List.length_cons, counted], ?_, ?_⟩
    · intro other member
      rcases List.mem_cons.mp member with rfl | inside
      · exact valid
      · exact all other inside
    · rw [List.flatMap_cons, List.append_assoc]

/-- A list behind its length, which is written in a number of bytes. A list is read only as far
as its length says. -/
def list (size : Nat) (format : Format α) : Format (List α) where
  Valid values := values.length < 256 ^ size ∧ ∀ value ∈ values, format.Valid value
  write values := toLittleEndian size values.length ++ values.flatMap format.write
  read input := ((natural size).read input).bind (fun count => format.readMany count.1 count.2)
  read_write := by
    rintro values rest ⟨few, valid⟩
    have counted : (natural size).read (toLittleEndian size values.length ++
        (values.flatMap format.write ++ rest)) =
          some (values.length, values.flatMap format.write ++ rest) :=
      (natural size).read_write values.length _ few
    rw [List.append_assoc, counted, Option.bind_some, format.read_many_write values rest valid]
  write_read := by
    intro input values rest read
    obtain ⟨⟨count, others⟩, counted, many⟩ := Option.bind_eq_some_iff.mp read
    obtain ⟨few, rfl⟩ := (natural size).write_read _ _ _ counted
    obtain ⟨rfl, valid, rfl⟩ := format.write_read_many count many
    exact ⟨⟨few, valid⟩, (List.append_assoc _ _ _).symm⟩

/-- A value behind a mark, which must be there. -/
def marked {size : Nat} (mark : Bytes size) (format : Format α) : Format α where
  Valid := format.Valid
  write value := mark.val ++ format.write value
  read input := ((bytes size).read input).bind (fun found =>
    if found.1 = mark then format.read found.2 else none)
  read_write := by
    intro value rest valid
    have first : (bytes size).read (mark.val ++ (format.write value ++ rest)) =
        some (mark, format.write value ++ rest) :=
      (bytes size).read_write mark _ trivial
    rw [List.append_assoc, first, Option.bind_some, if_pos rfl, format.read_write value rest valid]
  write_read := by
    intro input value rest read
    obtain ⟨⟨front, others⟩, first, next⟩ := Option.bind_eq_some_iff.mp read
    obtain ⟨rfl, taken⟩ := Option.ite_none_right_eq_some.mp next
    obtain ⟨_, rfl⟩ := (bytes size).write_read _ _ _ first
    obtain ⟨valid, rfl⟩ := format.write_read _ _ _ taken
    exact ⟨valid, (List.append_assoc _ _ _).symm⟩

/-- A value of one of several types behind the mark of its type. The marks are distinct and of
one length, so that the type is known from the first bytes. -/
def tagged {ι : Type u} {γ : ι → Type v} {size : Nat} (kinds : List ι) (mark : ι → Bytes size)
    (distinct : ∀ left ∈ kinds, ∀ right ∈ kinds, mark left = mark right → left = right)
    (format : (kind : ι) → Format (γ kind)) : Format (Sigma γ) where
  Valid value := value.1 ∈ kinds ∧ (format value.1).Valid value.2
  write value := (mark value.1).val ++ (format value.1).write value.2
  read input := ((bytes size).read input).bind (fun found =>
    (kinds.find? (fun kind => mark kind = found.1)).bind (fun kind =>
      ((format kind).read found.2).map (fun next => (⟨kind, next.1⟩, next.2))))
  read_write := by
    rintro ⟨kind, value⟩ rest ⟨listed, valid⟩
    have marked : (bytes size).read ((mark kind).val ++ ((format kind).write value ++ rest)) =
        some (mark kind, (format kind).write value ++ rest) :=
      (bytes size).read_write (mark kind) _ trivial
    have found : kinds.find? (fun other => mark other = mark kind) = some kind := by
      obtain ⟨other, located⟩ : ∃ other,
          kinds.find? (fun other => mark other = mark kind) = some other :=
        Option.isSome_iff_exists.mp (List.find?_isSome.mpr ⟨kind, listed, by simp⟩)
      have same : mark other = mark kind := by simpa using List.find?_some located
      rw [located, distinct other (List.mem_of_find?_eq_some located) kind listed same]
    rw [List.append_assoc, marked, Option.bind_some, found, Option.bind_some,
      (format kind).read_write value rest valid, Option.map_some]
  write_read := by
    rintro input ⟨kind, value⟩ rest read
    obtain ⟨⟨front, others⟩, marked, chosen⟩ := Option.bind_eq_some_iff.mp read
    obtain ⟨other, located, next⟩ := Option.bind_eq_some_iff.mp chosen
    obtain ⟨⟨found, remaining⟩, taken, same⟩ := Option.map_eq_some_iff.mp next
    obtain ⟨parts, rfl⟩ := Prod.mk.inj same
    obtain ⟨rfl, equal⟩ := Sigma.mk.inj parts
    obtain rfl := eq_of_heq equal
    obtain ⟨_, rfl⟩ := (bytes size).write_read _ _ _ marked
    obtain ⟨valid, rfl⟩ := (format other).write_read _ _ _ taken
    have mark_eq : mark other = front := by simpa using List.find?_some located
    refine ⟨⟨List.mem_of_find?_eq_some located, valid⟩, ?_⟩
    rw [List.append_assoc, mark_eq]
    rfl

end Format

end GPay.Codec
