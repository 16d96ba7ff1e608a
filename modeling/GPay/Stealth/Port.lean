import GPay.Stealth.Recovery

/-!
# The gateway's port of address derivation

The same derivation written against another curve library, on byte arrays and
unbounded integers. That library refuses to multiply a point by zero, which the
one above does not; on every other input the two return the same bytes.
-/

namespace GPay.Stealth.Port

open Digits

/-- What the port takes from its curve and hash libraries. Errors are the messages
of what is thrown. -/
structure Noble (Point : Type) where
  order : Nat
  sha512 : List UInt8 → Bytes 64
  base : Point
  fromHex : List UInt8 → Except String Point
  toRawBytes : Point → List UInt8
  multiply : Point → Nat → Except String Point
  add : Point → Point → Point

/-- What the gateway publishes, in bytes and a number. -/
structure StealthAddress where
  stealthPubkey : List UInt8
  ephemeralR : List UInt8
  viewTag : Nat
  deriving DecidableEq

/-- The same tag as in the scheme, written a second time. -/
def domainShared : List UInt8 := utf8 "g-pay/stealth/shared/v1"

/-- The same tag as in the scheme, written a second time. -/
def domainOffset : List UInt8 := utf8 "g-pay/stealth/offset/v1"

/-- The same tag as in the scheme, written a second time. -/
def domainViewTag : List UInt8 := utf8 "g-pay/stealth/view-tag/v1"

/-- `Uint8Array.prototype.set`, within bounds. -/
def setBytes (out part : List UInt8) (off : Nat) : List UInt8 :=
  out.take off ++ part ++ out.drop (off + part.length)

/-- Parts are copied one behind the other into an array of their total length, each at the place
where the last one ended. -/
def concat (parts : List (List UInt8)) : List UInt8 :=
  let total := parts.foldl (fun sum part => sum + part.length) 0
  let out := List.replicate total 0
  (parts.foldl (fun (state : List UInt8 × Nat) part =>
    (setBytes state.1 part state.2, state.2 + part.length)) (out, 0)).1

/-- `DataView.prototype.setBigUint64` into eight fresh bytes, little endian. -/
def setBigUint64 (value : Int) : List UInt8 := toLittleEndian 8 (value % 2 ^ 64).toNat

section Derivation

variable {Point : Type} (noble : Noble Point)

/-- The loop runs from the last byte to the first, as numbers are little endian, and reduces the
whole number at its end. -/
def scalarFromBytesWide (bytes : List UInt8) : Except String Nat :=
  if bytes.length ≠ 64 then .error s!"expected 64 bytes, got {bytes.length}"
  else .ok (bytes.foldr (fun byte n => (n <<< 8) ||| byte.toNat) 0 % noble.order)

/-- Half of the hash of the tag and the point's bytes, as in the scheme. -/
def hashPoint (domain pointBytes : List UInt8) : List UInt8 :=
  (noble.sha512 (concat [domain, pointBytes])).val.take 32

/-- A scalar of the hash of the tag, the shared secret and the nonce. -/
def scalarFromHash (domain shared : List UInt8) (nonce : Int) : Except String Nat :=
  let nonceBytes := setBigUint64 nonce
  let wide := noble.sha512 (concat [domain, shared, nonceBytes])
  scalarFromBytesWide noble wide.val

/-- One byte of the hash of the shared secret. -/
def viewTagOf (shared : List UInt8) : Nat :=
  (firstByte (noble.sha512 (concat [domainViewTag, shared]))).toNat

/-- The sender's side as the gateway computes it. The library refuses to multiply by zero and to
read bytes that encode no point, and these failures end the derivation. -/
def deriveStealthAddressDeterministic (spendPub viewPub rSeed : List UInt8) (nonce : Int) :
    Except String StealthAddress := do
  let r ← scalarFromBytesWide noble rSeed
  let rPub ← noble.multiply noble.base r
  let viewPoint ← noble.fromHex viewPub
  let sharedPoint ← noble.multiply viewPoint r
  let shared := hashPoint noble domainShared (noble.toRawBytes sharedPoint)
  let offset ← scalarFromHash noble domainOffset shared nonce
  let offsetPoint ← noble.multiply noble.base offset
  let spendPoint ← noble.fromHex spendPub
  let stealthPoint := noble.add spendPoint offsetPoint
  return ⟨noble.toRawBytes stealthPoint, noble.toRawBytes rPub, viewTagOf noble shared⟩

/-- `deriveStealthAddress` with its default nonce, on the bytes that
`crypto.getRandomValues` fills in. -/
def deriveStealthAddress (spendPub viewPub rSeed : List UInt8) : Except String StealthAddress :=
  deriveStealthAddressDeterministic noble spendPub viewPub rSeed 0

/-- The public key of a secret scalar, which is reduced first. -/
def publicKeyFromScalar (privBytes : List UInt8) : Except String (List UInt8) :=
  if privBytes.length ≠ 32 then .error s!"expected 32-byte scalar, got {privBytes.length}"
  else do
    let n := privBytes.foldr (fun byte n => (n <<< 8) ||| byte.toNat) 0
    let reduced := n % noble.order
    let point ← noble.multiply noble.base reduced
    return noble.toRawBytes point

end Derivation

/-- The two libraries implement one group, encoding and hash. The port's multiplies
by every factor below the group order but zero. -/
structure Agrees {Point : Type} [AddCommGroup Point] (crypto : Primitives Point)
    (noble : Noble Point) : Prop where
  order : noble.order = groupOrder
  sha512 : noble.sha512 = crypto.sha512
  base : noble.base = crypto.basePoint
  to_raw_bytes : ∀ point, noble.toRawBytes point = (crypto.compress point).val
  from_hex : ∀ point, noble.fromHex (crypto.compress point).val = .ok point
  add : ∀ left right, noble.add left right = left + right
  multiply : ∀ point factor, 1 ≤ factor → factor < groupOrder →
    noble.multiply point factor = .ok (factor • point)
  multiply_zero : ∀ point, ∃ message, noble.multiply point 0 = .error message

/-- Setting a part behind what is done fills in its share of the zeros. -/
theorem set_bytes (done part : List UInt8) (rest : Nat) :
    setBytes (done ++ List.replicate (part.length + rest) 0) part done.length =
      done ++ part ++ List.replicate rest 0 := by
  simp [setBytes, List.drop_append]

/-- The offset is the length of what is done, and the zeros are as many as the
bytes to come. -/
theorem concat_loop (done : List UInt8) (parts : List (List UInt8)) :
    (parts.foldl (fun (state : List UInt8 × Nat) part =>
      (setBytes state.1 part state.2, state.2 + part.length))
        (done ++ List.replicate parts.flatten.length 0, done.length)).1 =
      done ++ parts.flatten := by
  induction parts generalizing done with
  | nil => simp
  | cons part rest continued =>
    have grown : done.length + part.length = (done ++ part).length := by simp
    rw [List.foldl_cons, List.flatten_cons, List.length_append, set_bytes, grown, continued]
    simp

/-- The length that is allocated before. -/
theorem length_loop (start : Nat) (parts : List (List UInt8)) :
    parts.foldl (fun sum part => sum + part.length) start = start + parts.flatten.length := by
  induction parts generalizing start with
  | nil => simp
  | cons part rest counted =>
    rw [List.foldl_cons, counted, List.flatten_cons, List.length_append]
    omega

/-- Copying the parts yields their concatenation. -/
theorem concat_eq (parts : List (List UInt8)) : concat parts = parts.flatten := by
  have looped := concat_loop [] parts
  simpa [concat, length_loop 0] using looped

section Agreement

variable {Point : Type} [AddCommGroup Point] {crypto : Primitives Point} {noble : Noble Point}

/-- The wide reduction of a seed or a digest. -/
theorem scalar_from_bytes_wide_eq (agrees : Agrees crypto noble) (bytes : Bytes 64) :
    scalarFromBytesWide noble bytes.val = .ok (Scalar.fromBytesModOrderWide bytes).val := by
  rw [scalarFromBytesWide, if_neg (by simp [bytes.property]), shift_or_loop, agrees.order]
  rfl

/-- Both sides hash points to the same bytes. -/
theorem hash_point_eq (agrees : Agrees crypto noble) (point : Point) :
    hashPoint noble domainShared (noble.toRawBytes point) =
      (Stealth.hashPoint crypto Stealth.domainShared point).val := by
  simp only [hashPoint, concat_eq, agrees.sha512, agrees.to_raw_bytes, Stealth.hashPoint]
  simp [domainShared, Stealth.domainShared]

/-- The eight nonce bytes of both sides. -/
theorem set_big_uint64_eq (nonce : UInt64) :
    setBigUint64 (nonce.toNat : Int) = toLittleEndian 8 nonce.toNat := by
  have small : nonce.toNat < 2 ^ 64 := nonce.toNat_lt
  have kept : ((nonce.toNat : Int) % 2 ^ 64).toNat = nonce.toNat := by omega
  rw [setBigUint64, kept]

/-- Both sides derive the same scalar from a shared secret and a nonce of the type. -/
theorem scalar_from_hash_eq (agrees : Agrees crypto noble) (shared : Bytes 32) (nonce : UInt64) :
    scalarFromHash noble domainOffset shared.val nonce.toNat =
      .ok (Stealth.scalarFromHash crypto Stealth.domainOffset shared nonce).val := by
  have input : concat [domainOffset, shared.val, setBigUint64 nonce.toNat] =
      Stealth.domainOffset ++ shared.val ++ toLittleEndian 8 nonce.toNat := by
    rw [concat_eq, set_big_uint64_eq]
    simp [domainOffset, Stealth.domainOffset]
  simp only [scalarFromHash, input, agrees.sha512]
  exact scalar_from_bytes_wide_eq agrees _

/-- Both sides derive the same view tag from a shared secret. -/
theorem view_tag_of_eq (agrees : Agrees crypto noble) (shared : Bytes 32) :
    viewTagOf noble shared.val = (Stealth.viewTag crypto shared).toNat := by
  simp only [viewTagOf, concat_eq, agrees.sha512, Stealth.viewTag]
  simp [domainViewTag, Stealth.domainViewTag]

/-- Both libraries multiply alike by a residue other than zero. -/
theorem multiply_eq (agrees : Agrees crypto noble) (point : Point) {scalar : Scalar}
    (nonzero : scalar ≠ 0) :
    noble.multiply point scalar.val = .ok (Stealth.multiply scalar point) :=
  agrees.multiply point scalar.val (Nat.one_le_iff_ne_zero.mpr (Fin.val_ne_zero_iff.mpr nonzero))
    scalar.isLt

/-- The port's view of an address. -/
def ported (address : Stealth.StealthAddress) : StealthAddress :=
  ⟨address.stealthPubkey.val, address.ephemeralR.val, address.viewTag.toNat⟩

/-- The scalar of the seed, and the offset that it leads to. -/
def ephemeralScalar (rSeed : Bytes 64) : Scalar := Scalar.fromBytesModOrderWide rSeed

/-- The offset that both sides add: it depends on the seed, the view key and the nonce. -/
def offsetScalar (crypto : Primitives Point) (viewPub : ViewPublicKey Point) (rSeed : Bytes 64)
    (nonce : UInt64) : Scalar :=
  Stealth.scalarFromHash crypto Stealth.domainOffset
    (Stealth.hashPoint crypto Stealth.domainShared
      (Stealth.multiply (ephemeralScalar rSeed) viewPub.point)) nonce

/-- With two scalars that are not zero, the port returns the address that it mirrors, byte for
byte. -/
theorem derive_agrees (agrees : Agrees crypto noble) (spendPub : SpendPublicKey Point)
    (viewPub : ViewPublicKey Point) (rSeed : Bytes 64) (nonce : UInt64)
    (ephemeral : ephemeralScalar rSeed ≠ 0) (offset : offsetScalar crypto viewPub rSeed nonce ≠ 0) :
    deriveStealthAddressDeterministic noble (spendPub.toBytes crypto).val
        (viewPub.toBytes crypto).val rSeed.val nonce.toNat =
      .ok (ported
        (Stealth.deriveStealthAddressDeterministic crypto spendPub viewPub rSeed nonce)) := by
  have offsetPoint := multiply_eq agrees noble.base offset
  simp only [offsetScalar] at offsetPoint
  simp only [deriveStealthAddressDeterministic, scalar_from_bytes_wide_eq agrees, bind, Except.bind,
    SpendPublicKey.toBytes, ViewPublicKey.toBytes, agrees.from_hex]
  rw [show Scalar.fromBytesModOrderWide rSeed = ephemeralScalar rSeed from rfl,
    multiply_eq agrees noble.base ephemeral]
  simp only [multiply_eq agrees viewPub.point ephemeral, hash_point_eq agrees,
    scalar_from_hash_eq agrees, offsetPoint, view_tag_of_eq agrees]
  rw [agrees.to_raw_bytes, agrees.to_raw_bytes, agrees.add, agrees.base]
  rfl

/-- With a scalar that is zero, the port throws at the multiplication by it, and returns
nothing. -/
theorem derive_throws (agrees : Agrees crypto noble) (spendPub : SpendPublicKey Point)
    (viewPub : ViewPublicKey Point) (rSeed : Bytes 64) (nonce : UInt64)
    (degenerate : ephemeralScalar rSeed = 0 ∨ offsetScalar crypto viewPub rSeed nonce = 0) :
    ∃ message, deriveStealthAddressDeterministic noble (spendPub.toBytes crypto).val
      (viewPub.toBytes crypto).val rSeed.val nonce.toNat = .error message := by
  obtain ⟨message, refused⟩ := agrees.multiply_zero noble.base
  have reduced : scalarFromBytesWide noble rSeed.val = .ok (ephemeralScalar rSeed).val :=
    scalar_from_bytes_wide_eq agrees rSeed
  refine ⟨message, ?_⟩
  by_cases ephemeral : ephemeralScalar rSeed = 0
  · simp only [deriveStealthAddressDeterministic, reduced, bind, Except.bind, ephemeral,
      Fin.val_zero, refused]
  · have offset := degenerate.resolve_left ephemeral
    have vanished : scalarFromHash noble domainOffset
        (Stealth.hashPoint crypto Stealth.domainShared
          (Stealth.multiply (ephemeralScalar rSeed) viewPub.point)).val nonce.toNat = .ok 0 := by
      rw [scalar_from_hash_eq agrees]
      exact congrArg (fun scalar : Scalar => Except.ok scalar.val) offset
    simp only [deriveStealthAddressDeterministic, reduced, bind, Except.bind,
      multiply_eq agrees noble.base ephemeral, ViewPublicKey.toBytes, agrees.from_hex,
      multiply_eq agrees viewPub.point ephemeral, hash_point_eq agrees, vanished, refused]

/-- The port returns the address of the scheme it mirrors exactly when the seed does not reduce
to zero and neither does the hash that gives the offset. In the two other cases it throws, where
the scheme returns an address all the same.

Proof: the port computes the same scalars from the same bytes, little end first, and multiplies
the same points by them, but its multiplication throws on zero. -/
theorem derive_agrees_iff (agrees : Agrees crypto noble) (spendPub : SpendPublicKey Point)
    (viewPub : ViewPublicKey Point) (rSeed : Bytes 64) (nonce : UInt64) :
    deriveStealthAddressDeterministic noble (spendPub.toBytes crypto).val
        (viewPub.toBytes crypto).val rSeed.val nonce.toNat =
      .ok (ported (Stealth.deriveStealthAddressDeterministic crypto spendPub viewPub rSeed nonce)) ↔
    ephemeralScalar rSeed ≠ 0 ∧ offsetScalar crypto viewPub rSeed nonce ≠ 0 := by
  constructor
  · intro returned
    by_contra degenerate
    have vanishing : ephemeralScalar rSeed = 0 ∨ offsetScalar crypto viewPub rSeed nonce = 0 := by
      by_contra neither
      exact degenerate (not_or.mp neither)
    obtain ⟨message, thrown⟩ := derive_throws agrees spendPub viewPub rSeed nonce vanishing
    rw [thrown] at returned
    cases returned
  · rintro ⟨ephemeral, offset⟩
    exact derive_agrees agrees spendPub viewPub rSeed nonce ephemeral offset

/-- The public key of a private key other than zero. -/
theorem public_key_from_scalar_eq (agrees : Agrees crypto noble) (key : ViewKey)
    (nonzero : key.scalar ≠ 0) :
    publicKeyFromScalar noble key.toBytes.val = .ok ((key.public crypto).toBytes crypto).val := by
  have small : key.scalar.val < 256 ^ 32 := Nat.lt_trans key.scalar.isLt (by decide)
  have value : littleEndian key.toBytes.val = key.scalar.val := by
    rw [ViewKey.toBytes, Scalar.toBytes, little_endian_to_little_endian, Nat.mod_eq_of_lt small]
  rw [publicKeyFromScalar, if_neg (by simp [key.toBytes.property]), shift_or_loop, value,
    agrees.order]
  simp only [Nat.mod_eq_of_lt key.scalar.isLt, multiply_eq agrees noble.base nonzero, bind,
    Except.bind]
  rw [agrees.to_raw_bytes, agrees.base]
  rfl

end Agreement

/-- A seed of another length is refused. -/
theorem derive_sized {Point : Type} {noble : Noble Point} {spendPub viewPub rSeed : List UInt8}
    {nonce : Int} {address : StealthAddress}
    (derived : deriveStealthAddressDeterministic noble spendPub viewPub rSeed nonce = .ok address) :
    rSeed.length = 64 := by
  by_contra other
  have refused : scalarFromBytesWide noble rSeed =
      .error s!"expected 64 bytes, got {rSeed.length}" :=
    if_pos other
  simp only [deriveStealthAddressDeterministic, refused, bind, Except.bind] at derived
  cases derived

namespace Sample

open Stealth.Sample

/-- The refusal of a factor outside its range, from one up to the group order: zero is thrown
out. -/
def multiply (point : Scalar) (factor : Nat) : Except String Scalar :=
  if 1 ≤ factor ∧ factor < groupOrder then .ok (factor • point)
  else .error "invalid scalar: expected 1 <= sc < curve.n"

/-- Bytes are read as a point when they are 32 that encode one. -/
def fromHex (bytes : List UInt8) : Except String Scalar :=
  if sized : bytes.length = 32 then
    match decompress ⟨bytes, sized⟩ with
    | some point => .ok point
    | none => .error "bad point: invalid encoding"
  else .error "Point of length 32 expected"

/-- The library of the port over the group to evaluate in. -/
def noble : Noble Scalar where
  order := groupOrder
  sha512 := primitives.sha512
  base := primitives.basePoint
  fromHex
  toRawBytes point := (compress point).val
  multiply
  add left right := left + right

/-- The bytes of a point are read as the point. -/
theorem from_hex_compress (point : Scalar) : fromHex (compress point).val = .ok point := by
  rw [fromHex, dif_pos (compress point).property]
  simp only [Subtype.coe_eta, decompress_compress]

/-- The sample's library is one that agrees with the sample's scheme. -/
theorem agrees : Agrees primitives noble := by
  constructor
  · rfl
  · rfl
  · rfl
  · intro point
    rfl
  · intro point
    rw [noble, primitives]
    dsimp only
    exact from_hex_compress point
  · intro left right
    rfl
  · intro point factor positive below
    rw [noble]
    exact if_pos ⟨positive, below⟩
  · intro point
    exact ⟨_, rfl⟩

/-- The port on the issued address. -/
theorem issued_agrees :
    deriveStealthAddressDeterministic noble ((spendKey.public primitives).toBytes primitives).val
        ((viewKey.public primitives).toBytes primitives).val seed.val (0 : UInt64).toNat =
      .ok (ported (Stealth.deriveStealthAddressDeterministic primitives (spendKey.public primitives)
        (viewKey.public primitives) seed 0)) :=
  (derive_agrees_iff agrees (spendKey.public primitives) (viewKey.public primitives) seed 0).mpr
    ⟨by decide +kernel, by decide +kernel⟩

/-- The scheme issues an address for the seed that reduces to zero; the port throws. -/
theorem zero_seed_throws :
    Agrees primitives noble ∧
    deriveStealthAddressDeterministic noble ((spendKey.public primitives).toBytes primitives).val
        ((viewKey.public primitives).toBytes primitives).val zeroSeed.val (0 : UInt64).toNat =
      .error "invalid scalar: expected 1 <= sc < curve.n" ∧
    ∀ address, deriveStealthAddressDeterministic noble
        ((spendKey.public primitives).toBytes primitives).val
        ((viewKey.public primitives).toBytes primitives).val zeroSeed.val (0 : UInt64).toNat ≠
      .ok address := by
  have thrown : deriveStealthAddressDeterministic noble
      ((spendKey.public primitives).toBytes primitives).val
      ((viewKey.public primitives).toBytes primitives).val zeroSeed.val (0 : UInt64).toNat =
        .error "invalid scalar: expected 1 <= sc < curve.n" := by
    decide +kernel
  refine ⟨agrees, thrown, fun address returned => ?_⟩
  rw [thrown] at returned
  cases returned

end Sample

end GPay.Stealth.Port
