import Mathlib.GroupTheory.OrderOfElement
import GPay.Stealth.Scheme

/-!
# A group to evaluate in

The residues of the group order, with one as the base point and the little-endian
encoding of the least representative, which leaves most byte strings undecodable.
The hash is constant, so that every shared secret has the same tag and offset.
-/

namespace GPay.Stealth.Sample

open Digits

/-- A point is encoded as its least representative. -/
def compress (point : Scalar) : Bytes 32 := point.toBytes

/-- Bytes are decoded when they are the least representative of a point. -/
def decompress (bytes : Bytes 32) : Option Scalar := Scalar.fromCanonicalBytes bytes

/-- The number one. -/
def digest : Bytes 64 := ⟨1 :: List.replicate 63 0, rfl⟩

/-- The scheme over this group, with a constant for a hash. -/
def primitives : Primitives Scalar := ⟨1, compress, decompress, fun _ => digest⟩

/-- An element added up as often as the group has elements vanishes. -/
theorem order_smul {Group : Type} [AddGroup Group] {order : Nat} (size : Nat.card Group = order)
    (element : Group) : order • element = 0 := by
  rw [← size]
  exact card_nsmul_eq_zero'

/-- What was encoded is decoded. -/
theorem decompress_compress (point : Scalar) : decompress (compress point) = some point := by
  rw [decompress, compress, Scalar.from_canonical_to_bytes]

/-- The group meets the laws that the scheme relies on. -/
theorem primitives_lawful : primitives.Lawful := by
  constructor
  · exact order_smul (Nat.card_fin groupOrder) _
  · intro point
    rw [primitives]
    dsimp only
    exact decompress_compress point

/-- The recipient's spend key. -/
def spendKey : SpendKey := ⟨5⟩

/-- The recipient's view key. -/
def viewKey : ViewKey := ⟨3⟩

/-- A seed whose reduction is two. -/
def seed : Bytes 64 := ⟨2 :: List.replicate 63 0, rfl⟩

/-- A seed whose reduction is zero. -/
def zeroSeed : Bytes 64 := Bytes.replicate 64 0

/-- Bytes that encode no point, neither here nor on the curve itself, where they would stand for
the coordinate 17. -/
def undecodable : Bytes 32 := ⟨254 :: List.replicate 31 255, rfl⟩

/-- What is issued for these keys. -/
def issued : StealthAddress :=
  deriveStealthAddressDeterministic primitives (spendKey.public primitives)
    (viewKey.public primitives) seed 0

end GPay.Stealth.Sample
