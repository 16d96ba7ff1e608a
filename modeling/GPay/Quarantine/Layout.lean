import GPay.Codec
import GPay.Quarantine.Local
import GPay.Quarantine.Tally

/-!
# The bytes of the accounts

An account of the program holds a record behind the mark of its type, in an allotted
number of bytes. The record's fields follow one another: integers with the least
significant byte first, lists behind their length, an enumeration as the position of its
value.

A reader of the bytes gets back what was stored, because every record that the program
stores fits the types of its fields and the space of its account. Both are invariants of
the runs whose deposits have amounts that are `u64`s.
-/

namespace GPay.Quarantine

open Codec Digits Solana Runs

variable {Key : Type}

/-- A `u64`. -/
def InU64 (value : Nat) : Prop := value ≤ u64Max

/-- An `i64`. -/
def InI64 (value : Int) : Prop := i64Min ≤ value ∧ value ≤ i64Max

/-- A `u8`. -/
def InU8 (value : Nat) : Prop := value ≤ 255

/-- The length of a list fits the `u32` in front of it. -/
def Countable {α : Type} (values : List α) : Prop := values.length < 2 ^ 32

/-- A vault whose fields are of their types: its list of oracles has a length of 32 bits, its
threshold is a `u8` and its counter a `u64`. -/
structure Vault.InRange (vault : Vault Key) : Prop where
  oracles : Countable vault.oracleSet
  threshold : InU8 vault.minAttestations
  count : InU64 vault.depositCount

/-- A deposit whose fields are of their types: an amount of 64 bits, times that are `i64`s,
counters that are `u8`s, and a list of votes whose length has 32 bits. -/
structure Deposit.InRange (deposit : Deposit Key) : Prop where
  amount : InU64 deposit.amount
  created : InI64 deposit.createdAt
  expires : InI64 deposit.expireAt
  votes : Countable deposit.attestations ∧
    ∀ attestation ∈ deposit.attestations, InI64 attestation.timestamp
  clean : InU8 deposit.cleanCount
  dirty : InU8 deposit.dirtyCount

namespace Content

/-- A record of either kind with values of the types. -/
def InRange : Content Key → Prop
  | .vault house => house.InRange
  | .deposit record => record.InRange

/-- The length of the record behind its discriminator. -/
def borshLen : Content Key → Nat
  | .vault house => house.borshLen
  | .deposit record => record.borshLen

end Content

/-- The sizes tell the accounts of the two types apart. -/
theorem content_space_iff (content : Content Key) :
    content.space = depositSpace ↔ ∃ deposit, content = .deposit deposit := by
  cases content with
  | vault vault => simp [Content.space, vaultSpace, depositSpace, vaultInitSpace, depositInitSpace,
      maxOracles, maxAttestations, attestationLen]
  | deposit deposit => simp [Content.space]

section Formats

/-- Marks of the two types. -/
def vaultMark : Bytes 8 := ⟨[211, 8, 232, 43, 2, 152, 117, 119], rfl⟩

/-- The discriminator of `Deposit`, the first bytes of the hash of `account:Deposit`. -/
def depositMark : Bytes 8 := ⟨[148, 146, 121, 66, 207, 173, 21, 227], rfl⟩

/-- A verdict is a byte, the number of its variant. -/
def verdictFormat : Format AmlVerdict :=
  .enumeration [.clean, .dirty] (by decide) (by decide)

/-- A state is a byte, the number of its variant. -/
def stateFormat : Format DepositState :=
  .enumeration [.pending, .approved, .rejected, .released, .refunded, .expired] (by decide)
    (by decide)

/-- A boolean is a byte, zero or one. -/
def boolFormat : Format Bool := .enumeration [false, true] (by decide) (by decide)

/-- The fields of each record, in the order of its declaration. -/
def attestationFields : Key × AmlVerdict × Int × Bytes32 ≃ Attestation Key where
  toFun fields := ⟨fields.1, fields.2.1, fields.2.2.1, fields.2.2.2⟩
  invFun attestation := (attestation.oracle, attestation.verdict, attestation.timestamp,
    attestation.evidenceHash)
  left_inv _ := rfl
  right_inv _ := rfl

/-- The fields of a vault in their order. -/
def vaultFields : UInt8 × Key × List Key × Nat × Bool × Nat ≃ Vault Key where
  toFun := fun (bump, authority, oracleSet, minAttestations, paused, depositCount) =>
    ⟨bump, authority, oracleSet, minAttestations, paused, depositCount⟩
  invFun vault := (vault.bump, vault.authority, vault.oracleSet, vault.minAttestations,
    vault.paused, vault.depositCount)
  left_inv _ := rfl
  right_inv _ := rfl

/-- The fields of a deposit in their order. -/
def depositFields : UInt8 × Key × Key × Bytes32 × UInt8 × Key × Nat × Key × Key × Key × Int × Int ×
    DepositState × List (Attestation Key) × Nat × Nat ≃ Deposit Key where
  toFun := fun (bump, vault, stealthPubkey, ephemeralR, viewTag, mint, amount, depositor,
      refundAddr, releaseAuthority, createdAt, expireAt, state, attestations, cleanCount,
      dirtyCount) =>
    ⟨bump, vault, stealthPubkey, ephemeralR, viewTag, mint, amount, depositor, refundAddr,
      releaseAuthority, createdAt, expireAt, state, attestations, cleanCount, dirtyCount⟩
  invFun deposit := (deposit.bump, deposit.vault, deposit.stealthPubkey, deposit.ephemeralR,
    deposit.viewTag, deposit.mint, deposit.amount, deposit.depositor, deposit.refundAddr,
    deposit.releaseAuthority, deposit.createdAt, deposit.expireAt, deposit.state,
    deposit.attestations, deposit.cleanCount, deposit.dirtyCount)
  left_inv _ := rfl
  right_inv _ := rfl

variable (keys : Key ≃ Bytes32)

/-- A key is written as its 32 bytes. -/
def keyFormat : Format Key := (Format.bytes 32).via keys.symm

/-- An `i64`. -/
def i64Format : Format Int := .integer 8

/-- An attestation is written field by field, in 73 bytes. -/
def attestationFormat : Format (Attestation Key) :=
  ((keyFormat keys).pair (verdictFormat.pair (i64Format.pair (.bytes 32)))).via attestationFields

/-- A vault is written field by field; the oracles stand behind their number. -/
def vaultFormat : Format (Vault Key) :=
  (Format.byte.pair ((keyFormat keys).pair ((Format.list 4 (keyFormat keys)).pair
    ((Format.natural 1).pair (boolFormat.pair (.natural 8)))))).via vaultFields

/-- A deposit is written field by field; the attestations stand behind their number. -/
def depositFormat : Format (Deposit Key) :=
  let key := keyFormat keys
  (Format.byte.pair (key.pair (key.pair ((Format.bytes 32).pair (Format.byte.pair (key.pair
    ((Format.natural 8).pair (key.pair (key.pair (key.pair (i64Format.pair
      (i64Format.pair (stateFormat.pair ((Format.list 4 (attestationFormat keys)).pair
        ((Format.natural 1).pair (.natural 1)))))))))))))))).via depositFields

/-- A vault account, as `try_deserialize` reads it. -/
def vaultAccount : Format (Vault Key) := (vaultFormat keys).marked vaultMark

/-- A deposit account. -/
def depositAccount : Format (Deposit Key) := (depositFormat keys).marked depositMark

/-- The bytes of a record, with its mark. -/
def Content.bytes : Content Key → List UInt8
  | .vault house => (vaultAccount keys).write house
  | .deposit record => (depositAccount keys).write record

/-- The fields of a vault are of their types when its format can write it. -/
theorem vault_valid_iff (vault : Vault Key) :
    (vaultAccount keys).Valid vault ↔ vault.InRange := by
  have valid : (vaultAccount keys).Valid vault ↔
      (vault.oracleSet.length < 256 ^ 4 ∧ ∀ oracle ∈ vault.oracleSet, True) ∧
        vault.minAttestations < 256 ^ 1 ∧ vault.paused ∈ [false, true] ∧
        vault.depositCount < 256 ^ 8 := by
    constructor
    · rintro ⟨-, -, oracles, threshold, paused, count⟩
      exact ⟨⟨oracles.1, fun _ _ => trivial⟩, threshold, paused, count⟩
    · rintro ⟨oracles, threshold, paused, count⟩
      exact ⟨trivial, trivial, ⟨oracles.1, fun _ _ => trivial⟩, threshold, paused, count⟩
  rw [valid]
  constructor
  · rintro ⟨⟨oracles, -⟩, threshold, -, count⟩
    exact ⟨oracles, Nat.le_of_lt_succ threshold, Nat.le_of_lt_succ count⟩
  · rintro ⟨oracles, threshold, count⟩
    exact ⟨⟨oracles, fun _ _ => trivial⟩, Nat.lt_succ_of_le threshold, by simp,
      Nat.lt_succ_of_le count⟩

/-- The integers that are written as eight bytes are those of the type. -/
theorem integer_valid_iff (value : Int) : i64Format.Valid value ↔ InI64 value := by
  have valid : i64Format.Valid value ↔
      -(256 ^ 8 / 2 : Nat) ≤ value ∧ value < (256 ^ 8 / 2 : Nat) := Iff.rfl
  rw [valid, InI64, i64Min, i64Max]
  omega

/-- Every state can be written. -/
theorem state_valid (state : DepositState) : stateFormat.Valid state := by
  show state ∈ _
  cases state <;> simp

/-- An attestation can be written when its time is one of the type. -/
theorem attestation_valid_iff (attestation : Attestation Key) :
    (attestationFormat keys).Valid attestation ↔ InI64 attestation.timestamp := by
  rw [← integer_valid_iff]
  constructor
  · rintro ⟨-, -, timestamp, -⟩
    exact timestamp
  · intro timestamp
    have verdict : verdictFormat.Valid attestation.verdict := by
      show attestation.verdict ∈ _
      cases attestation.verdict <;> simp
    exact ⟨trivial, verdict, timestamp, trivial⟩

/-- The fields of a deposit are of their types when its format can write it. -/
theorem deposit_valid_iff (deposit : Deposit Key) :
    (depositAccount keys).Valid deposit ↔ deposit.InRange := by
  have valid : (depositAccount keys).Valid deposit ↔
      deposit.amount < 256 ^ 8 ∧ i64Format.Valid deposit.createdAt ∧
        i64Format.Valid deposit.expireAt ∧
        (deposit.attestations.length < 256 ^ 4 ∧
          ∀ attestation ∈ deposit.attestations, (attestationFormat keys).Valid attestation) ∧
        deposit.cleanCount < 256 ^ 1 ∧ deposit.dirtyCount < 256 ^ 1 := by
    constructor
    · rintro ⟨-, -, -, -, -, -, amount, -, -, -, created, expires, -, votes, clean, dirty⟩
      exact ⟨amount, created, expires, votes, clean, dirty⟩
    · rintro ⟨amount, created, expires, votes, clean, dirty⟩
      exact ⟨trivial, trivial, trivial, trivial, trivial, trivial, amount, trivial, trivial,
        trivial, created, expires, state_valid deposit.state, votes, clean, dirty⟩
  simp only [valid, integer_valid_iff, attestation_valid_iff]
  constructor
  · rintro ⟨amount, created, expires, votes, clean, dirty⟩
    exact ⟨Nat.le_of_lt_succ amount, created, expires, votes, Nat.le_of_lt_succ clean,
      Nat.le_of_lt_succ dirty⟩
  · rintro ⟨amount, created, expires, votes, clean, dirty⟩
    exact ⟨Nat.lt_succ_of_le amount, created, expires, votes, Nat.lt_succ_of_le clean,
      Nat.lt_succ_of_le dirty⟩

/-- A deposit is read from the data of an account exactly when it is in range and its bytes
come first. -/
theorem deposit_read_iff (data : List UInt8) (deposit : Deposit Key) :
    (depositAccount keys).value data = some deposit ↔
      deposit.InRange ∧ (depositAccount keys).write deposit <+: data := by
  rw [Format.value_iff, deposit_valid_iff]

/-- So is a vault. -/
theorem vault_read_iff (data : List UInt8) (vault : Vault Key) :
    (vaultAccount keys).value data = some vault ↔
      vault.InRange ∧ (vaultAccount keys).write vault <+: data := by
  rw [Format.value_iff, vault_valid_iff]

/-- What begins with the bytes of a record is read by the reader of its type only. -/
theorem content_read {content : Content Key} (inRange : content.InRange) {data : List UInt8}
    (begins : content.bytes keys <+: data) :
    (∀ deposit, (depositAccount keys).value data = some deposit ↔ content = .deposit deposit) ∧
      ∀ vault, (vaultAccount keys).value data = some vault ↔ content = .vault vault := by
  obtain ⟨rest, rfl⟩ := begins
  -- A reader of the other type stops at the mark.
  cases content with
  | vault house =>
    have read : (vaultAccount keys).value ((vaultAccount keys).write house ++ rest) = some house :=
      (vault_read_iff keys _ _).mpr ⟨inRange, rest, rfl⟩
    have other : (depositAccount keys).value ((vaultAccount keys).write house ++ rest) = none := rfl
    simp [Content.bytes, read, other, eq_comm]
  | deposit record =>
    have read : (depositAccount keys).value ((depositAccount keys).write record ++ rest) =
        some record := (deposit_read_iff keys _ _).mpr ⟨inRange, rest, rfl⟩
    have other : (vaultAccount keys).value ((depositAccount keys).write record ++ rest) = none :=
      rfl
    simp [Content.bytes, read, other]

/-- Every key takes 32 bytes. -/
theorem length_key (key : Key) : ((keyFormat keys).write key).length = 32 := (keys key).property

/-- Every attestation takes the same number of bytes. -/
theorem length_attestation (attestation : Attestation Key) :
    ((attestationFormat keys).write attestation).length = attestationLen := by
  show ((keyFormat keys).write attestation.oracle ++ (verdictFormat.write attestation.verdict ++
    (i64Format.write attestation.timestamp ++ attestation.evidenceHash.val))).length = _
  have timestamp : (i64Format.write attestation.timestamp).length = 8 :=
    length_to_little_endian 8 _
  simp only [List.length_append, length_key, timestamp, attestation.evidenceHash.property]
  rfl

/-- The bytes of a record are as many as the program reckons when it allots the space of an
account. -/
theorem length_bytes (content : Content Key) :
    (content.bytes keys).length = 8 + content.borshLen := by
  have natural : ∀ size value, ((Format.natural size).write value).length = size :=
    length_to_little_endian
  have integer : ∀ value, (i64Format.write value).length = 8 :=
    fun _ => length_to_little_endian 8 _
  cases content with
  | vault house =>
    have oracles : (house.oracleSet.flatMap (keyFormat keys).write).length =
        house.oracleSet.length * 32 := by
      simp [List.length_flatMap, length_key]
    show (vaultMark.val ++ ([house.bump] ++ ((keyFormat keys).write house.authority ++
      ((toLittleEndian 4 house.oracleSet.length ++
        house.oracleSet.flatMap (keyFormat keys).write) ++
      ((Format.natural 1).write house.minAttestations ++ (boolFormat.write house.paused ++
        (Format.natural 8).write house.depositCount)))))).length = 8 + house.borshLen
    simp only [List.length_append, length_key, natural, oracles, length_to_little_endian,
      vaultMark.property, Vault.borshLen, List.length_singleton]
    have paused : (boolFormat.write house.paused).length = 1 := rfl
    omega
  | deposit record =>
    have votes : (record.attestations.flatMap (attestationFormat keys).write).length =
        record.attestations.length * attestationLen := by
      simp [List.length_flatMap, length_attestation]
    show (depositMark.val ++ ([record.bump] ++ ((keyFormat keys).write record.vault ++
      ((keyFormat keys).write record.stealthPubkey ++ (record.ephemeralR.val ++ ([record.viewTag] ++
      ((keyFormat keys).write record.mint ++ ((Format.natural 8).write record.amount ++
      ((keyFormat keys).write record.depositor ++ ((keyFormat keys).write record.refundAddr ++
      ((keyFormat keys).write record.releaseAuthority ++
      (i64Format.write record.createdAt ++ (i64Format.write record.expireAt ++
      (stateFormat.write record.state ++ ((toLittleEndian 4 record.attestations.length ++
        record.attestations.flatMap (attestationFormat keys).write) ++
      ((Format.natural 1).write record.cleanCount ++
        (Format.natural 1).write record.dirtyCount)))))))))))))))).length = 8 + record.borshLen
    simp only [List.length_append, length_key, natural, integer, votes, length_to_little_endian,
      depositMark.property, record.ephemeralR.property, Deposit.borshLen, List.length_singleton]
    have state : (stateFormat.write record.state).length = 1 := rfl
    omega

end Formats

section Stored

/-- A record that is in range and fits in its account, the eight bytes of the discriminator
included. -/
structure Content.Stored (content : Content Key) : Prop where
  in_range : content.InRange
  fits : 8 + content.borshLen ≤ content.space

/-- The amounts of the deposits that the event opens are `u64`s. -/
def Event.Typed [Inhabited Key] (event : Event Key) : Prop :=
  ∀ opening, event.opening = some opening → InU64 opening.args.amount

/-- A saturating sum of bytes is a byte. -/
theorem saturating_in_u8 (left right : Nat) : InU8 (saturatingAdd 255 left right) :=
  Nat.min_le_left _ _

/-- A saturating sum of 64-bit integers is one. -/
theorem saturating_in_i64 (left right : Int) : InI64 (saturatingAddI64 left right) := by
  unfold InI64 saturatingAddI64 i64Min i64Max
  omega

/-- So is the time that the clock shows. -/
theorem now_in_i64 (ctx : Context Key) : InI64 ctx.now := ⟨ctx.clock.low, ctx.clock.high⟩

variable [DecidableEq Key] [Inhabited Key] {rt : Runtime Key} {w w' : World Key}

omit [DecidableEq Key] in
/-- A new deposit is stored well, if its amount is a `u64`. -/
theorem Opened.stored {ctx : Context Key} {opening : Opening Key} {vault : Vault Key}
    {record : Deposit Key} (spec : Opened rt ctx opening vault record w w')
    (typed : InU64 opening.args.amount) : (Content.deposit record).Stored := by
  obtain ⟨-, -, -, filled⟩ := (new_deposit_ok_iff ..).mp spec.accepted
  have unvoted : record.attestations = [] := by rw [filled]
  refine ⟨⟨?_, ?_, ?_, ⟨?_, ?_⟩, ?_, ?_⟩, deposit_fits (by simp [unvoted])⟩
  · rw [filled]
    exact typed
  · rw [filled]
    exact now_in_i64 ctx
  · rw [filled]
    exact saturating_in_i64 _ _
  · simp [unvoted, Countable]
  · simp [unvoted]
  · rw [filled]
    exact Nat.zero_le _
  · rw [filled]
    exact Nat.zero_le _

omit [Inhabited Key] in
/-- A vote leaves a record that is stored well: it appends the time of the call and moves a
counter, and neither leaves the range nor the account. -/
theorem Attested.stored {ctx : Context Key} {accounts : Attest Key} {verdict : AmlVerdict}
    {evidenceHash : Bytes32} {vault : Vault Key} {before after : Deposit Key}
    (spec : Attested rt ctx accounts verdict evidenceHash vault before after w w')
    (stored : (Content.deposit before).Stored) : (Content.deposit after).Stored := by
  obtain ⟨-, -, -, -, rfl⟩ := (attest_handler_ok_iff ..).mp spec.handled
  have fits := spec.fits
  have inRange : before.InRange := stored.in_range
  refine ⟨⟨inRange.amount, inRange.created, inRange.expires, ⟨?_, ?_⟩, ?_, ?_⟩, fits⟩
  · simp only [Deposit.borshLen, depositSpace, depositInitSpace, attestationLen,
      maxAttestations] at fits
    unfold Countable
    omega
  · intro attestation listed
    rcases List.mem_append.mp listed with earlier | last
    · exact inRange.votes.2 attestation earlier
    · rw [List.mem_singleton.mp last]
      exact now_in_i64 ctx
  · simp only [Deposit.voted]
    split
    · exact saturating_in_u8 _ _
    · exact inRange.clean
  · simp only [Deposit.voted]
    split
    · exact saturating_in_u8 _ _
    · exact inRange.dirty

omit [Inhabited Key] in
/-- A new vault fits its account, with values of the types: it was built from arguments of these
types, and there are no more oracles than the account has room for. -/
theorem Initialized.stored {ctx : Context Key} {accounts : InitializeVault Key}
    {oracleSet : List Key} {minAttestations : Nat} {vault : Vault Key}
    (spec : Initialized rt ctx accounts oracleSet minAttestations vault w w') :
    (Content.vault vault).Stored := by
  obtain ⟨few, -, listed⟩ := spec.accepted
  have oracles : vault.oracleSet = oracleSet := by rw [spec.filled]
  have threshold : vault.minAttestations = minAttestations := by rw [spec.filled]
  have count : vault.depositCount = 0 := by rw [spec.filled]
  simp only [maxOracles] at few
  refine ⟨⟨?_, ?_, ?_⟩, ?_⟩
  · rw [oracles, Countable]
    omega
  · rw [threshold, InU8]
    omega
  · rw [count]
    exact Nat.zero_le _
  · simp only [Content.borshLen, Content.space, Vault.borshLen, vaultSpace, vaultInitSpace,
      maxOracles, oracles]
    omega

omit [DecidableEq Key] [Inhabited Key] in
/-- Counting a deposit keeps the record of the vault in its account, as the counter saturates. -/
theorem Content.Stored.counted {vault : Vault Key} (stored : (Content.vault vault).Stored) :
    (Content.vault vault.counted).Stored :=
  have inRange : vault.InRange := stored.in_range
  ⟨⟨inRange.oracles, inRange.threshold, Nat.min_le_left _ _⟩, stored.fits⟩

/-- Every record of the world is stored well. -/
def Storage (w : World Key) : Prop := ∀ key content, w.data key = .program content → content.Stored

/-- Every step keeps the records in range and within their accounts. -/
theorem storage_step (lawful : Lawful rt) (storage : Storage w) {event : Event Key}
    (typed : event.Typed) (step : Step rt w event w') : Storage w' := by
  have effect := step_effect lawful step
  intro key content found
  cases content with
  | vault house =>
    cases vault_change effect found with
    | initialized here spec => exact spec.stored
    | counted view here spec => exact (storage _ _ spec.at_vault).counted
    | kept before uncounted => exact storage _ _ before
  | deposit record =>
    cases deposit_change effect found with
    | opened view here spec => exact spec.stored (typed _ view)
    | attested here spec => exact spec.stored (storage _ _ spec.at_deposit)
    | paid view here spec =>
      -- The state is no number and as long as before.
      obtain ⟨⟨amount, created, expires, votes, clean, dirty⟩, fits⟩ := storage _ _ spec.at_deposit
      exact ⟨⟨amount, created, expires, votes, clean, dirty⟩, fits⟩
    | kept before spared => exact storage _ _ before

/-- Every run whose deposits have amounts that are `u64`s does. -/
theorem Reached.storage (lawful : Lawful rt) {events : List (Event Key)}
    (reached : Reached rt events w) (typed : ∀ event ∈ events, event.Typed) : Storage w := by
  obtain ⟨start, genesis, run⟩ := reached
  refine (run.guard_events typed).invariant ?_ ?_
  · rintro before event after storage ⟨step, allowed⟩
    exact storage_step lawful storage allowed step
  · intro key content found
    exact absurd found (genesis.vacant key content)

end Stored

section Accounts

variable (keys : Key ≃ Bytes32)

/-- The data of an account that holds the record, whatever fills the rest of its space. -/
structure Holds (content : Content Key) (data : List UInt8) : Prop where
  sized : data.length = content.space
  begins : content.bytes keys <+: data

/-- The data with zeros behind the record. -/
def Content.padded (content : Content Key) : List UInt8 :=
  let bytes := content.bytes keys
  bytes ++ List.replicate (content.space - bytes.length) 0

/-- An account that holds the record and zeros behind it is one that holds it. -/
theorem padded_holds {content : Content Key} (stored : content.Stored) :
    Holds keys content (content.padded keys) where
  sized := by
    have fits := stored.fits
    rw [Content.padded, List.length_append, List.length_replicate, length_bytes]
    omega
  begins := List.prefix_append _ _

variable [DecidableEq Key] [Inhabited Key] {rt : Runtime Key} {w : World Key}

/-- In every run whose amounts are `u64`s: a stored record has room in its account, and its data
are read as that record and as no other, by the reader of its type alone; their size tells the
type.

Proof: what a reachable world stores is in the range of its format, since the program bounds its
lists and the calls its numbers. The formats read back what they write, and the discriminators,
which come first, differ. -/
theorem records_read_back (lawful : Lawful rt) {events : List (Event Key)}
    (reached : Reached rt events w) (typed : ∀ event ∈ events, event.Typed) {key : Key}
    {content : Content Key} (found : w.data key = .program content) :
    Holds keys content (content.padded keys) ∧
      ∀ data, Holds keys content data →
        (∀ deposit, (depositAccount keys).value data = some deposit ↔
          depositAt w key = some deposit) ∧
        (∀ vault, (vaultAccount keys).value data = some vault ↔ vaultAt w key = some vault) ∧
        (data.length = depositSpace ↔ ∃ deposit, depositAt w key = some deposit) := by
  have stored := reached.storage lawful typed key content found
  refine ⟨padded_holds keys stored, ?_⟩
  rintro data ⟨sized, begins⟩
  obtain ⟨deposits, vaults⟩ := content_read keys stored.in_range begins
  simp only [deposits, vaults, sized, content_space_iff, deposit_at_iff, vault_at_iff, found,
    Data.program.injEq, implies_true, and_self]

end Accounts

namespace Plain

/-! ## A runtime on addresses of 32 bytes -/

section Runtime

variable [DecidableEq Key] [Inhabited Key]

/-- Whatever addresses derive, a runtime that moves lamports and knows no tokens. -/
def runtime (derive : List (Seed Key) → UInt8 → Option Key) : Runtime Key where
  createProgramAddress := derive
  findProgramAddress seeds := (derive seeds 255).map (·, 255)
  minimumBalance := Local.minimumBalance
  transfer := Local.transfer
  create := Local.create
  transferChecked _ _ _ _ _ := none
  reserved key := key = default
  rentKept _ := Local.rentKept

/-- Its successful calls do what they are documented to. -/
theorem runtime_lawful (derive : List (Seed Key) → UInt8 → Option Key) :
    Lawful (runtime derive) where
  find_derived := by
    intro seeds key bump found
    obtain ⟨derived, created, same⟩ := Option.map_eq_some_iff.mp found
    obtain ⟨rfl, rfl⟩ := Prod.mk.inj same
    exact created
  rent_positive := Local.rent_positive
  transfer_moves _ _ _ _ _ := Local.transfer_moves
  create_allocates _ _ _ _ _ _ := Local.create_allocates
  transfer_checked := by
    intro w accounts signers amount decimals w' _ transferred
    cases transferred

/-- Its rent check lets through what it should. -/
theorem runtime_checked (derive : List (Seed Key) → UInt8 → Option Key) :
    RentChecked (runtime derive) Content.space := Local.rent_checked rfl rfl

end Runtime

/-- The bytes of a number are 32. -/
theorem length_wallet (number : Nat) : (toLittleEndian 32 number).length = 32 :=
  length_to_little_endian 32 number

/-- The address whose bytes are those of the number. -/
def wallet (number : Nat) : Bytes32 :=
  ⟨toLittleEndian 32 number, length_wallet number⟩

instance : Inhabited Bytes32 := ⟨wallet 0⟩

/-- The addresses of two vaults, and of two deposits in the first. -/
def places : List (Seeds Bytes32 × Bytes32) :=
  [(.vault (wallet 1), wallet 100), (.vault (wallet 9), wallet 101),
    (.deposit (wallet 100) (wallet 6) (wallet 2), wallet 262),
    (.deposit (wallet 100) (wallet 7) Bytes32.zeros, wallet 263)]

/-- With the first bump, these are derived. -/
def derive (seeds : List (Seed Bytes32)) (bump : UInt8) : Option Bytes32 :=
  if bump = 255 then (places.find? (fun place => place.1.list = seeds)).map Prod.snd else none

/-- Different seeds are passed as different lists. -/
theorem seeds_list_injective : Function.Injective (Seeds.list : Seeds Key → List (Seed Key)) := by
  intro left right same
  cases left <;> cases right <;>
    simp_all [Seeds.list, vaultSeed, depositSeed, escrowTokenSeed]

/-- What is derived for some seeds is a place of theirs. -/
theorem derive_place {seeds : Seeds Bytes32} {bump : UInt8} {key : Bytes32}
    (derived : derive seeds.list bump = some key) : bump = 255 ∧ (seeds, key) ∈ places := by
  rw [derive, Option.ite_none_right_eq_some, Option.map_eq_some_iff] at derived
  obtain ⟨first, ⟨other, place⟩, found, rfl⟩ := derived
  have same : other.list = seeds.list := by simpa using List.find?_some found
  rw [← seeds_list_injective same]
  exact ⟨first, List.mem_of_find?_eq_some found⟩

/-- Its addresses are those of different seeds. -/
theorem derive_injective : SeedsInjective (runtime derive) := by
  intro left right leftBump rightBump key first second
  have distinct : (places.map Prod.snd).Nodup := by decide +kernel
  obtain ⟨rfl, here⟩ := derive_place first
  obtain ⟨rfl, there⟩ := derive_place second
  exact ⟨congrArg Prod.fst (List.inj_on_of_nodup_map distinct here there rfl), rfl⟩

/-- The first wallet pays for everything. -/
def start : World Bytes32 :=
  ⟨fun key => if key = wallet 1 then ⟨10 ^ 12, .system⟩ else ⟨0, .system⟩⟩

/-- Nothing is stored at the beginning. -/
theorem start_genesis : Genesis start where
  vacant := by
    intro key content
    simp only [World.data, start]
    split <;> simp
  no_default_mint := by
    intro mint
    simp only [World.data, start]
    split <;> simp

/-- A transaction at that second, signed by the first seven wallets, that may write the accounts
of the sample. -/
def context (now : Nat) : Context Bytes32 :=
  ⟨Local.second now, (List.range' 1 7).map wallet,
    [wallet 1, wallet 6, wallet 100, wallet 262, wallet 263]⟩

/-- More than an empty account needs to be kept. -/
def funds : Nat := 1000000

/-- A deposit for the key, with these ephemeral bytes and this view tag. -/
def depositFor (now number : Nat) (ephemeralR : Bytes32) (viewTag : UInt8) : Event Bytes32 :=
  .call (context now) (.deposit ⟨wallet 1, wallet 100, wallet (256 + number)⟩
    ⟨wallet number, ephemeralR, viewTag, funds, wallet 6, wallet 5, 3600⟩)

/-- The first wallet opens a vault with three oracles, two of which clear a deposit. -/
def openVault : Event Bytes32 :=
  .call (context 1000) (.initializeVault ⟨wallet 1, wallet 100⟩ [wallet 2, wallet 3, wallet 4] 2)

/-- The world after events that all succeed. -/
def after (events : List (Event Bytes32)) : World Bytes32 :=
  (play (next (runtime derive)) start events).getD start

/-- Events that succeed one after the other are a run. -/
theorem after_run {events : List (Event Bytes32)}
    (succeeds : (play (next (runtime derive)) start events).isSome = true) :
    Run (Step (runtime derive)) start events (after events) := by
  obtain ⟨finish, played⟩ := Option.isSome_iff_exists.mp succeeds
  refine play_run (next_step (runtime derive)) ?_
  rw [after, played]
  rfl

/-- What they lead to is reached. -/
theorem after_reached {events : List (Event Bytes32)}
    (succeeds : (play (next (runtime derive)) start events).isSome = true) :
    Reached (runtime derive) events (after events) :=
  ⟨start, start_genesis, after_run succeeds⟩

/-- A vault and a deposit with one vote. -/
def voted : List (Event Bytes32) :=
  [openVault, depositFor 1001 7 Bytes32.zeros 0,
    .call (context 1002) (.attest ⟨wallet 2, wallet 100, wallet 263⟩ .clean Bytes32.zeros)]

/-- The deposit of that run. -/
def record : Deposit Bytes32 :=
  ⟨255, wallet 100, wallet 7, Bytes32.zeros, 0, wallet 0, funds, wallet 1, wallet 6, wallet 5,
    1001, 4601, .pending, [⟨wallet 2, .clean, 1002, Bytes32.zeros⟩], 1, 0⟩

/-- The run succeeds. -/
theorem voted_reached : Reached (runtime derive) voted (after voted) :=
  after_reached (by decide +kernel)

/-- What it leaves at the deposit's address. -/
theorem voted_found : (after voted).data (wallet 263) = .program (.deposit record) :=
  deposit_at_iff.mp (by decide +kernel)

/-- Its amounts are those of the type. -/
theorem voted_typed : ∀ event ∈ voted, event.Typed := by
  intro event listed opening opened
  simp only [voted, List.mem_cons, List.not_mem_nil, or_false] at listed
  rcases listed with rfl | rfl | rfl
  · cases opened
  · obtain rfl := Option.some.inj opened
    show funds ≤ u64Max
    decide
  · cases opened

/-- The voted deposit is read back from its account. -/
theorem voted_read_back :
    (depositAccount (Equiv.refl Bytes32)).value
      ((Content.deposit record).padded (Equiv.refl Bytes32)) = some record := by
  obtain ⟨held, reads⟩ := records_read_back (Equiv.refl Bytes32) (runtime_lawful derive)
    voted_reached voted_typed voted_found
  exact ((reads _ held).1 record).mpr (deposit_at_iff.mpr voted_found)

end Plain

end GPay.Quarantine
