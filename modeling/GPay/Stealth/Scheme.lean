import Mathlib.Algebra.Group.Basic
import Mathlib.Data.Fin.Basic
import GPay.Digits

/-!
# The stealth address scheme

Keys, address derivation, scanning and spending. The curve is any additive
commutative group; the base point, the two point encodings and the hash are
parameters. Scalars are residues of the group order, and multiplying a point by
one is repeated addition of its least representative, which is also right for
points outside the subgroup of the base point.
-/

namespace GPay.Stealth

open Digits

/-- Order of the base point. -/
def groupOrder : Nat := 2 ^ 252 + 27742317777372353535851937790883648493

instance : NeZero groupOrder := ⟨by decide⟩

/-- A residue of the group order; arithmetic is modular, as in the field of scalars of the
curve. -/
abbrev Scalar := Fin groupOrder

/-- `Scalar::from_bytes_mod_order_wide`. -/
def Scalar.fromBytesModOrderWide (bytes : Bytes 64) : Scalar :=
  Fin.ofNat groupOrder (littleEndian bytes.val)

/-- `Scalar::from_canonical_bytes`. -/
def Scalar.fromCanonicalBytes (bytes : Bytes 32) : Option Scalar :=
  if canonical : littleEndian bytes.val < groupOrder then some ⟨littleEndian bytes.val, canonical⟩
  else none

/-- `Scalar::to_bytes`. -/
def Scalar.toBytes (scalar : Scalar) : Bytes 32 :=
  ⟨toLittleEndian 32 scalar.val, length_to_little_endian 32 scalar.val⟩

/-- What the scheme takes from its curve and hash libraries: the base point, points as bytes and
back, which not all bytes are, and the hash function. -/
structure Primitives (Point : Type) where
  basePoint : Point
  compress : Point → Bytes 32
  decompress : Bytes 32 → Option Point
  sha512 : List UInt8 → Bytes 64

/-- Why bytes are refused: as a scalar they are not reduced, or they encode no point. -/
inductive StealthError where
  | invalidScalar
  | invalidPoint
  deriving DecidableEq, Repr

/-- The secret key that spends what is sent to the recipient. -/
structure SpendKey where
  scalar : Scalar

/-- The secret key that finds what is sent to the recipient. It spends nothing. -/
structure ViewKey where
  scalar : Scalar

/-- The public half of a spend key. -/
structure SpendPublicKey (Point : Type) where
  point : Point

/-- The public half of a view key. -/
structure ViewPublicKey (Point : Type) where
  point : Point

/-- What a sender publishes: the address, the ephemeral point, and one byte that lets a scan pass
over most deposits for others. -/
structure StealthAddress where
  stealthPubkey : Bytes 32
  ephemeralR : Bytes 32
  viewTag : UInt8
  deriving DecidableEq

/-- Whether a deposit is the recipient's, and the address that was compared. -/
structure ScanResult where
  matched : Bool
  stealthPubkey : Bytes 32
  deriving DecidableEq

/-- Bytes of a string literal. -/
def utf8 (text : String) : List UInt8 := text.toUTF8.data.toList

/-- The tag in front of the shared point when it is hashed. -/
def domainShared : List UInt8 := utf8 "g-pay/stealth/shared/v1"

/-- The tag in front of the shared secret when the offset is derived. -/
def domainOffset : List UInt8 := utf8 "g-pay/stealth/offset/v1"

/-- The tag in front of the shared secret when the view tag is. -/
def domainViewTag : List UInt8 := utf8 "g-pay/stealth/view-tag/v1"

/-- A spend key is read from the bytes of a reduced scalar only. -/
def SpendKey.fromBytes (bytes : Bytes 32) : Except StealthError SpendKey :=
  match Scalar.fromCanonicalBytes bytes with
  | some scalar => .ok ⟨scalar⟩
  | none => .error .invalidScalar

/-- The little-endian bytes of a spend key. -/
def SpendKey.toBytes (key : SpendKey) : Bytes 32 := key.scalar.toBytes

/-- A view key is read from the bytes of a reduced scalar only. -/
def ViewKey.fromBytes (bytes : Bytes 32) : Except StealthError ViewKey :=
  match Scalar.fromCanonicalBytes bytes with
  | some scalar => .ok ⟨scalar⟩
  | none => .error .invalidScalar

/-- The little-endian bytes of a view key. -/
def ViewKey.toBytes (key : ViewKey) : Bytes 32 := key.scalar.toBytes

variable {Point : Type} (crypto : Primitives Point)

/-- A public spend key is read from the bytes of a point. The point may be of small order, which
is not checked. -/
def SpendPublicKey.fromBytes (bytes : Bytes 32) : Except StealthError (SpendPublicKey Point) :=
  match crypto.decompress bytes with
  | some point => .ok ⟨point⟩
  | none => .error .invalidPoint

/-- The compressed point of a public spend key. -/
def SpendPublicKey.toBytes (key : SpendPublicKey Point) : Bytes 32 := crypto.compress key.point

/-- A public view key is read from the bytes of a point. The point may be of small order, which
is not checked. -/
def ViewPublicKey.fromBytes (bytes : Bytes 32) : Except StealthError (ViewPublicKey Point) :=
  match crypto.decompress bytes with
  | some point => .ok ⟨point⟩
  | none => .error .invalidPoint

/-- The compressed point of a public view key. -/
def ViewPublicKey.toBytes (key : ViewPublicKey Point) : Bytes 32 := crypto.compress key.point

/-- The first byte of a digest. -/
def firstByte (digest : Bytes 64) : UInt8 := digest.val.get ⟨0, by rw [digest.property]; decide⟩

/-- One byte of the hash of the shared secret, by which a scan passes over most deposits of
others. -/
def viewTag (shared : Bytes 32) : UInt8 := firstByte (crypto.sha512 (domainViewTag ++ shared.val))

/-- The first half of the digest of the tag and the shared point's bytes: the shared secret of
the two sides. -/
def hashPoint (domain : List UInt8) (point : Point) : Bytes 32 :=
  let out := crypto.sha512 (domain ++ (crypto.compress point).val)
  ⟨out.val.take 32, by rw [List.length_take, out.property]; rfl⟩

/-- A scalar of the hash of the shared secret and a nonce, reduced from all 64 bytes. -/
def scalarFromHash (domain : List UInt8) (shared : Bytes 32) (nonce : UInt64) : Scalar :=
  Scalar.fromBytesModOrderWide
    (crypto.sha512 (domain ++ shared.val ++ toLittleEndian 8 nonce.toNat))

section Group

variable [AddCommGroup Point]

/-- A scalar multiple of a point. -/
def multiply (scalar : Scalar) (point : Point) : Point := scalar.val • point

/-- `EdwardsPoint::mul_base`. -/
def mulBase (scalar : Scalar) : Point := multiply scalar crypto.basePoint

/-- The public half: the base point, that many times. -/
def SpendKey.public (key : SpendKey) : SpendPublicKey Point := ⟨mulBase crypto key.scalar⟩

/-- The public half: the base point, that many times. -/
def ViewKey.public (key : ViewKey) : ViewPublicKey Point := ⟨mulBase crypto key.scalar⟩

/-- The sender's side. The seed becomes the ephemeral scalar, its product with the view key the
shared secret, and the address is the spend key shifted by the offset of that secret. -/
def deriveStealthAddressDeterministic (spendPub : SpendPublicKey Point)
    (viewPub : ViewPublicKey Point) (rSeed : Bytes 64) (nonce : UInt64) : StealthAddress :=
  let r := Scalar.fromBytesModOrderWide rSeed
  let rPub := mulBase crypto r
  let sharedPoint := multiply r viewPub.point
  let shared := hashPoint crypto domainShared sharedPoint
  let offset := scalarFromHash crypto domainOffset shared nonce
  let offsetPoint := mulBase crypto offset
  let stealthPoint := spendPub.point + offsetPoint
  ⟨crypto.compress stealthPoint, crypto.compress rPub, viewTag crypto shared⟩

/-- The recipient's side of spending: the spend key shifted by the same offset, which the view
key yields from the published ephemeral point. -/
def reconstructSpendScalar (spend : SpendKey) (view : ViewKey) (ephemeralR : Bytes 32)
    (nonce : UInt64) : Except StealthError Scalar := do
  let rPoint ← match crypto.decompress ephemeralR with
    | some point => .ok point
    | none => .error StealthError.invalidPoint
  let sharedPoint := multiply view.scalar rPoint
  let shared := hashPoint crypto domainShared sharedPoint
  let offset := scalarFromHash crypto domainOffset shared nonce
  return spend.scalar + offset

/-- The recipient's side of the shared secret, from the view key and the ephemeral point, which
has to decode. -/
def sharedSecret (view : ViewKey) (ephemeralR : Bytes 32) : Except StealthError (Bytes 32) := do
  let rPoint ← match crypto.decompress ephemeralR with
    | some point => .ok point
    | none => .error StealthError.invalidPoint
  let sharedPoint := multiply view.scalar rPoint
  return hashPoint crypto domainShared sharedPoint

/-- The address that a sender with this shared secret would have published: the spend key's point
plus the offset's. -/
def deriveForRecipient (spendPub : SpendPublicKey Point) (shared : Bytes 32) (nonce : UInt64) :
    Bytes 32 :=
  let offset := scalarFromHash crypto domainOffset shared nonce
  let offsetPoint := mulBase crypto offset
  let stealthPoint := spendPub.point + offsetPoint
  crypto.compress stealthPoint

/-- Whether a deposit is for the recipient. A view tag that differs settles it without deriving
the address. -/
def scanDeposit (view : ViewKey) (spendPub : SpendPublicKey Point)
    (candidateStealth ephemeralR : Bytes 32) (chainViewTag : UInt8) (nonce : UInt64) :
    Except StealthError ScanResult := do
  let shared ← sharedSecret crypto view ephemeralR
  if viewTag crypto shared ≠ chainViewTag then
    return ⟨false, candidateStealth⟩
  let derived := deriveForRecipient crypto spendPub shared nonce
  return ⟨derived = candidateStealth, derived⟩

/-- What the scheme relies on: the base point has the group order, and encoding a point loses
nothing. -/
structure Primitives.Lawful (crypto : Primitives Point) : Prop where
  base_order : groupOrder • crypto.basePoint = 0
  decompress_compress : ∀ point, crypto.decompress (crypto.compress point) = some point

end Group

/-- Writing a private key and reading it back. -/
theorem Scalar.from_canonical_to_bytes (scalar : Scalar) :
    Scalar.fromCanonicalBytes scalar.toBytes = some scalar := by
  have small : scalar.val < 256 ^ 32 := Nat.lt_trans scalar.isLt (by decide)
  have value : littleEndian scalar.toBytes.val = scalar.val := by
    rw [Scalar.toBytes, little_endian_to_little_endian, Nat.mod_eq_of_lt small]
  simp only [Scalar.fromCanonicalBytes, value, scalar.isLt, dite_true]

end GPay.Stealth
