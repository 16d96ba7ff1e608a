import GPay.Stealth.Sample

/-!
# Scanning and spending agree with issuing

Sender and recipient reach the shared point from different sides. The recipient's
side only needs the ephemeral bytes to decode: what scanning accepts, the
reconstructed scalar spends, whatever point they decode to. On an issued address
both sides meet, so that its tag and key are found again.
-/

namespace GPay.Stealth

open Digits

variable {Point : Type} [AddCommGroup Point] {crypto : Primitives Point}

/-- Written public keys can be read back. -/
theorem SpendPublicKey.from_to_bytes (lawful : crypto.Lawful) (key : SpendPublicKey Point) :
    SpendPublicKey.fromBytes crypto (key.toBytes crypto) = .ok key := by
  simp [fromBytes, toBytes, lawful.decompress_compress]

/-- A public view key is read back from its bytes, as encoded points are decoded. -/
theorem ViewPublicKey.from_to_bytes (lawful : crypto.Lawful) (key : ViewPublicKey Point) :
    ViewPublicKey.fromBytes crypto (key.toBytes crypto) = .ok key := by
  simp [fromBytes, toBytes, lawful.decompress_compress]

/-- Multiples of the base point depend on the residue of the factor only. -/
theorem base_mod (lawful : crypto.Lawful) (factor : Nat) :
    (factor % groupOrder) • crypto.basePoint = factor • crypto.basePoint := by
  have whole : (groupOrder * (factor / groupOrder)) • crypto.basePoint = 0 := by
    rw [Nat.mul_comm, mul_nsmul', lawful.base_order, nsmul_zero]
  calc (factor % groupOrder) • crypto.basePoint
      = (factor % groupOrder + groupOrder * (factor / groupOrder)) • crypto.basePoint := by
        rw [add_nsmul, whole, add_zero]
    _ = factor • crypto.basePoint := by rw [Nat.mod_add_div]

/-- Adding scalars modulo the order adds the points. -/
theorem mul_base_add (lawful : crypto.Lawful) (left right : Scalar) :
    mulBase crypto (left + right) = mulBase crypto left + mulBase crypto right := by
  rw [mulBase, multiply, Fin.val_add, base_mod lawful, add_nsmul]
  rfl

/-- The two ways to the shared point. -/
theorem shared_point (left right : Scalar) :
    multiply left (mulBase crypto right) = multiply right (mulBase crypto left) := by
  simp only [multiply, mulBase]
  rw [← mul_nsmul', ← mul_nsmul', Nat.mul_comm]

/-- The private scalar behind what scanning derives. -/
theorem derive_for_recipient_eq (lawful : crypto.Lawful) (spend : SpendKey) (shared : Bytes 32)
    (nonce : UInt64) :
    deriveForRecipient crypto (spend.public crypto) shared nonce =
      crypto.compress
        (mulBase crypto (spend.scalar + scalarFromHash crypto domainOffset shared nonce)) := by
  rw [mul_base_add lawful]
  rfl

/-- An undecodable ephemeral point has no shared secret. -/
theorem shared_secret_none {view : ViewKey} {ephemeralR : Bytes 32}
    (undecodable : crypto.decompress ephemeralR = none) :
    sharedSecret crypto view ephemeralR = .error .invalidPoint := by
  simp only [sharedSecret, undecodable]
  rfl

/-- An ephemeral point that can be decoded has the shared secret of its product with the view
key. -/
theorem shared_secret_some {view : ViewKey} {ephemeralR : Bytes 32} {point : Point}
    (decoded : crypto.decompress ephemeralR = some point) :
    sharedSecret crypto view ephemeralR =
      .ok (hashPoint crypto domainShared (multiply view.scalar point)) := by
  simp only [sharedSecret, decoded]
  rfl

/-- Spending starts from the shared secret that scanning computes. -/
theorem reconstruct_eq (spend : SpendKey) (view : ViewKey) (ephemeralR : Bytes 32)
    (nonce : UInt64) :
    reconstructSpendScalar crypto spend view ephemeralR nonce =
      (sharedSecret crypto view ephemeralR).map
        (fun shared => spend.scalar + scalarFromHash crypto domainOffset shared nonce) := by
  cases decoded : crypto.decompress ephemeralR with
  | none =>
    rw [shared_secret_none decoded]
    simp only [reconstructSpendScalar, decoded]
    rfl
  | some point =>
    rw [shared_secret_some decoded]
    simp only [reconstructSpendScalar, decoded]
    rfl

/-- Scanning after the shared secret is known: the tag is a filter, and the key
decides. -/
def compareDeposit (crypto : Primitives Point) (spendPub : SpendPublicKey Point)
    (candidateStealth : Bytes 32) (chainViewTag : UInt8) (nonce : UInt64) (shared : Bytes 32) :
    ScanResult :=
  if viewTag crypto shared ≠ chainViewTag then ⟨false, candidateStealth⟩
  else ⟨deriveForRecipient crypto spendPub shared nonce = candidateStealth,
    deriveForRecipient crypto spendPub shared nonce⟩

/-- A scan compares the deposit with what the shared secret yields, and fails only when there is
no such secret. -/
theorem scan_eq (view : ViewKey) (spendPub : SpendPublicKey Point)
    (candidateStealth ephemeralR : Bytes 32) (chainViewTag : UInt8) (nonce : UInt64) :
    scanDeposit crypto view spendPub candidateStealth ephemeralR chainViewTag nonce =
      (sharedSecret crypto view ephemeralR).map
        (compareDeposit crypto spendPub candidateStealth chainViewTag nonce) := by
  unfold scanDeposit compareDeposit
  cases sharedSecret crypto view ephemeralR with
  | error error => rfl
  | ok shared =>
    by_cases tagged : viewTag crypto shared ≠ chainViewTag
    · simp [tagged, Except.map, bind, Except.bind, pure, Except.pure]
    · simp [tagged, Except.map, bind, Except.bind, pure, Except.pure]

/-- A match derives the candidate key. -/
theorem compare_matched {spendPub : SpendPublicKey Point} {candidateStealth shared : Bytes 32}
    {chainViewTag : UInt8} {nonce : UInt64}
    (matched :
      (compareDeposit crypto spendPub candidateStealth chainViewTag nonce shared).matched = true) :
    deriveForRecipient crypto spendPub shared nonce = candidateStealth := by
  unfold compareDeposit at matched
  split at matched
  · cases matched
  · simpa using matched

/-- What scanning matches, the reconstructed scalar spends: its public point is the candidate
key. And the two fail together, on ephemeral bytes that encode no point and with the same error.

Proof: both start from the same shared secret, which is all that can fail. From it the scan
derives the expected key as the spend key plus the offset times the base point, which is the
point of the sum of the two scalars. -/
theorem scan_matched_spendable (lawful : crypto.Lawful) (spend : SpendKey) (view : ViewKey)
    (candidateStealth ephemeralR : Bytes 32) (chainViewTag : UInt8) (nonce : UInt64) :
    (∀ result,
      scanDeposit crypto view (spend.public crypto) candidateStealth ephemeralR chainViewTag nonce =
        .ok result → result.matched = true →
      ∃ scalar, reconstructSpendScalar crypto spend view ephemeralR nonce = .ok scalar ∧
        crypto.compress (mulBase crypto scalar) = candidateStealth) ∧
    ∀ error,
      scanDeposit crypto view (spend.public crypto) candidateStealth ephemeralR chainViewTag nonce =
        .error error ↔
      reconstructSpendScalar crypto spend view ephemeralR nonce = .error error := by
  rw [scan_eq, reconstruct_eq]
  cases sharedSecret crypto view ephemeralR with
  | error failed => simp [Except.map]
  | ok shared =>
    constructor
    · intro result scanned matched
      have compared := Except.ok.inj scanned
      rw [← compared] at matched
      refine ⟨_, rfl, ?_⟩
      rw [← derive_for_recipient_eq lawful]
      exact compare_matched matched
    · simp [Except.map]

/-- An issued address is matched, and the private key is its scalar. -/
theorem sample_spendable :
    ∃ scalar, reconstructSpendScalar Sample.primitives Sample.spendKey Sample.viewKey
        Sample.issued.ephemeralR 0 = .ok scalar ∧
      Sample.primitives.compress (mulBase Sample.primitives scalar) = Sample.issued.stealthPubkey :=
  (scan_matched_spendable Sample.primitives_lawful Sample.spendKey Sample.viewKey
    Sample.issued.stealthPubkey Sample.issued.ephemeralR Sample.issued.viewTag 0).1
      ⟨true, Sample.issued.stealthPubkey⟩ (by decide +kernel) rfl

/-- The shared secret of an issued address, computed from the recipient's side, is the one that
the sender has used. -/
theorem shared_secret_issued (lawful : crypto.Lawful) (spendPub : SpendPublicKey Point)
    (view : ViewKey) (rSeed : Bytes 64) (nonce : UInt64) :
    sharedSecret crypto view
        (deriveStealthAddressDeterministic crypto spendPub (view.public crypto)
          rSeed nonce).ephemeralR =
      .ok (hashPoint crypto domainShared
        (multiply (Scalar.fromBytesModOrderWide rSeed) (view.public crypto).point)) := by
  have decoded : crypto.decompress
      (deriveStealthAddressDeterministic crypto spendPub (view.public crypto)
        rSeed nonce).ephemeralR =
        some (mulBase crypto (Scalar.fromBytesModOrderWide rSeed)) :=
    lawful.decompress_compress _
  rw [shared_secret_some decoded, shared_point]
  rfl

/-- Scanning finds what was issued for its keys. -/
theorem scan_issued (lawful : crypto.Lawful) (spendPub : SpendPublicKey Point) (view : ViewKey)
    (rSeed : Bytes 64) (nonce : UInt64) {address : StealthAddress}
    (issued : deriveStealthAddressDeterministic crypto spendPub (view.public crypto)
      rSeed nonce = address) :
    scanDeposit crypto view spendPub address.stealthPubkey address.ephemeralR address.viewTag
        nonce =
      .ok ⟨true, address.stealthPubkey⟩ := by
  subst issued
  rw [scan_eq, shared_secret_issued lawful]
  simp only [Except.map, compareDeposit, deriveStealthAddressDeterministic, deriveForRecipient]
  simp

/-- Whatever the seed and the nonce, an issued address is matched by the keys that it was issued
for, and the match names its key. Its view tag is never a reason to skip it, also for a seed that
reduces to zero.

Proof: the view key times the ephemeral point is the ephemeral scalar times the public view key,
so that the scan hashes the secret which the address was made from, and finds the same tag and
the same offset. -/
theorem issued_address_found (lawful : crypto.Lawful) (spend : SpendKey) (view : ViewKey)
    (rSeed : Bytes 64) (nonce : UInt64) :
    let address := deriveStealthAddressDeterministic crypto
      (spend.public crypto) (view.public crypto) rSeed nonce
    scanDeposit crypto view (spend.public crypto) address.stealthPubkey address.ephemeralR
      address.viewTag nonce = .ok ⟨true, address.stealthPubkey⟩ :=
  scan_issued lawful (spend.public crypto) view rSeed nonce rfl

/-- A seed that reduces to zero issues an address that is found. -/
theorem zero_seed_found :
    let address := deriveStealthAddressDeterministic Sample.primitives
      (Sample.spendKey.public Sample.primitives) (Sample.viewKey.public Sample.primitives)
      Sample.zeroSeed 7
    scanDeposit Sample.primitives Sample.viewKey (Sample.spendKey.public Sample.primitives)
      address.stealthPubkey address.ephemeralR address.viewTag 7 =
        .ok ⟨true, address.stealthPubkey⟩ :=
  issued_address_found Sample.primitives_lawful Sample.spendKey Sample.viewKey Sample.zeroSeed 7

end GPay.Stealth
