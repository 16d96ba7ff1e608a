import Std.Data.String.ToNat
import GPay.Tables
import GPay.Gateway.Json

/-!
# The two stores of the gateway

Institutions and deposit records, in maps of the process or in tables of a database.
The map hands out the records themselves, so that what was read changes with the
store; the database hands out copies. It also enforces its keys, its references and
the width of its numbers, texts and times, and it updates every row with a stealth
key where the map updates the first.

Each store is written as its own source has it: assignments of a record against
columns of an update, a map's `set` against an insertion with a conflict clause, a
comparison of two records against an ordering by a column.
-/

namespace GPay.Gateway

open Doubles Tables
open Quarantine (DepositState)

/-- A bank as both stores keep it: its key for requests, its public keys for receiving
addresses, and where it is told of payments. -/
structure Institution where
  id : String
  apiKey : String
  spendPub : List UInt8
  viewPub : List UInt8
  releaseAuthority : List UInt8
  webhookUrl : Option String
  deriving DecidableEq

/-- What a new record is made of; the rest of it is the store's own. Times are whole
milliseconds. -/
structure DepositCreate where
  institutionId : String
  customerId : String
  amountHint : Nat
  mint : String
  stealthPubkey : List UInt8
  ephemeralR : List UInt8
  viewTag : Nat
  refundAddr : List UInt8
  expiresAt : Int
  deriving DecidableEq

/-- A record of a deposit. Its state is one of the six; what is noted of the state on
chain is any text. -/
structure DepositRecord extends DepositCreate where
  id : String
  createdAt : Int
  state : DepositState
  onChainAddress : Option String
  onChainAmount : Option Nat
  onChainState : Option String
  onChainObservedAt : Option Int
  deriving DecidableEq

/-- The clocks and the random number that a call reads: milliseconds in the process
and in the database, and `Math.floor(Math.random() * 1e6)`. -/
structure Moment where
  now : Int
  databaseNow : Int
  random : Nat

/-- What a database refuses: a second row with the same key, a row of an unknown institution, and
what a column or a parameter cannot hold. -/
inductive StoreError where
  | uniqueApiKey
  | duplicateId
  | unknownInstitution
  | numericOverflow
  | smallintOverflow
  | invalidText
  | invalidTimestamp
  | invalidLimit
  deriving DecidableEq

/-- The operations of a store. `view` is what a record that was handed out shows by
now. -/
class Store (σ : Type) where
  putInstitution : σ → Institution → Except StoreError σ
  findByApiKey : σ → String → Option Institution
  getInstitution : σ → String → Option Institution
  createDeposit : σ → Moment → DepositCreate → Except StoreError (DepositRecord × σ)
  getDeposit : σ → String → Option DepositRecord
  view : σ → DepositRecord → DepositRecord
  setDepositState : σ → String → DepositState → Option DepositRecord × σ
  applyOnChainMatch : σ → Moment → (stealthPubkeyHex onChainAddress : String) → (amount : Nat) →
    (state : String) → Except StoreError (Option DepositRecord × σ)
  listInstitutionDeposits : σ → (institutionId : String) → (limit : Double) →
    Except StoreError (List DepositRecord)

/-- A record before anything is known of its payment. -/
def DepositCreate.record (create : DepositCreate) (id : String) (createdAt : Int) : DepositRecord :=
  { create with
    id, createdAt, state := .pending, onChainAddress := none, onChainAmount := none,
    onChainState := none, onChainObservedAt := none }

/-- `state as DepositState`: the state that a text is the word of. The cast checks nothing in the
source; a text of no state is none of them here. -/
def asState (text : String) : Option DepositState :=
  states.find? (fun state => stateText state = text)

/-- The limit that applies when none is given. -/
def defaultLimit : Double := .finite 200

/-- The length that `slice(0, limit)` leaves: fractions are dropped, and a negative
limit counts from the end. -/
def sliceEnd (limit : Double) (length : Nat) : Nat :=
  match limit with
  | .nan => 0
  | .infinity negative => if negative then 0 else length
  | .finite value =>
      let whole : Int := value.num.tdiv value.den
      if whole < 0 then (length + whole).toNat else min whole.toNat length

/-- The identifier that a map gives to its records, by their number. -/
def depositId (seq : Nat) : String := s!"dep_{seq}"

/-- Records with different numbers have different identifiers. -/
theorem deposit_id_injective : Function.Injective depositId := by
  intro left right same
  have lists := congrArg String.toList same
  simp only [depositId, String.toList_append, List.append_cancel_left_eq] at lists
  exact Nat.repr_injective (String.toList_inj.mp lists)

/-- Records under numbered identifiers; the next number has not been used. The bound on the
identifiers in use comes with the value, so that a new record never overwrites another. -/
structure MemoryStore where
  institutions : Table Institution Institution.id
  deposits : Table DepositRecord DepositRecord.id
  nextDepositSeq : Nat
  fresh : ∀ seq, nextDepositSeq ≤ seq → depositId seq ∉ deposits.rows.map DepositRecord.id

namespace MemoryStore

/-- Empty maps, and the number that the first record will have. -/
def new : MemoryStore := ⟨.empty, .empty, 1, by simp [Table.empty]⟩

/-- Change records, but not their identifiers. -/
def change (store : MemoryStore) (update : DepositRecord → DepositRecord)
    (kept : ∀ record, (update record).id = record.id) : MemoryStore where
  institutions := store.institutions
  deposits := store.deposits.modify update kept
  nextDepositSeq := store.nextDepositSeq
  fresh := by
    intro seq unused
    have same : (store.deposits.rows.map update).map DepositRecord.id =
        store.deposits.rows.map DepositRecord.id := by
      rw [List.map_map]
      exact List.map_congr_left (fun record _ => kept record)
    simpa only [Table.modify, same] using store.fresh seq unused

/-- The record is stored under the next number, with nothing known of its payment, and the number
is counted up. -/
def createDeposit (store : MemoryStore) (moment : Moment) (record : DepositCreate) :
    DepositRecord × MemoryStore :=
  let id := depositId store.nextDepositSeq
  let full := record.record id moment.now
  (full,
    { institutions := store.institutions
      deposits := store.deposits.insert full (store.fresh _ le_rfl)
      nextDepositSeq := store.nextDepositSeq + 1
      fresh := by
        intro seq unused member
        simp only [Table.insert, List.map_append, List.mem_append] at member
        rcases member with earlier | last
        · exact store.fresh seq (by omega) earlier
        · have same : depositId seq = depositId store.nextDepositSeq := by
            simpa [full, id, DepositCreate.record] using last
          have equal := deposit_id_injective same
          omega })

/-- Update the record in its place, if there is one under the identifier. No state is refused. -/
def setDepositState (store : MemoryStore) (id : String) (state : DepositState) :
    Option DepositRecord × MemoryStore :=
  match store.deposits.get id with
  | none => (none, store)
  | some d =>
      (some { d with state },
        store.change (fun record => if record.id = id then { record with state } else record)
          (by intro record; split <;> rfl))

/-- The assignments of a match to a record, in their order. -/
def assign (d : DepositRecord) (onChainAddress : String) (amount : Nat) (state : String)
    (now : Int) : DepositRecord :=
  let d := { d with onChainAddress := some onChainAddress }
  let d := { d with onChainAmount := some amount }
  let d := { d with onChainState := some state }
  let d := { d with onChainObservedAt := some now }
  if state = "approved" ∨ state = "rejected" ∨ state = "released" ∨ state = "refunded" ∨
      state = "expired" then
    { d with state := (asState state).getD d.state }
  else d

/-- An assignment to a record leaves its identifier. -/
@[simp] theorem assign_id (d : DepositRecord) (onChainAddress : String) (amount : Nat)
    (state : String) (now : Int) : (assign d onChainAddress amount state now).id = d.id := by
  unfold assign
  split
  · rfl
  · rfl

/-- The records are gone through in the order of the map; the first one whose key is written so
is assigned to, and the search ends. -/
def applyOnChainMatch (store : MemoryStore) (moment : Moment)
    (stealthPubkeyHex onChainAddress : String) (amount : Nat) (state : String) :
    Option DepositRecord × MemoryStore :=
  match store.deposits.rows.find? (fun d => bytesToHex d.stealthPubkey = stealthPubkeyHex) with
  | none => (none, store)
  | some d =>
      (some (assign d onChainAddress amount state moment.now),
        store.change (fun record =>
          if record.id = d.id then assign record onChainAddress amount state moment.now
          else record)
          (by intro record; split <;> simp))

/-- `filter` by the institution, `sort` by the difference of the times, and `slice` from the
start to the limit, which may be negative or no integer. -/
def listInstitutionDeposits (store : MemoryStore) (institutionId : String) (limit : Double) :
    List DepositRecord :=
  let sorted := sortBy (fun a b => b.createdAt - a.createdAt)
    (store.deposits.rows.filter (fun d => d.institutionId = institutionId))
  sorted.take (sliceEnd limit sorted.length)

/-- The store of a process. Nothing that it is asked fails. -/
instance : Store MemoryStore where
  putInstitution store inst := .ok { store with institutions := store.institutions.put inst }
  findByApiKey store apiKey := store.institutions.rows.find? (fun inst => inst.apiKey = apiKey)
  getInstitution store id := store.institutions.get id
  createDeposit store moment record := .ok (store.createDeposit moment record)
  getDeposit store id := store.deposits.get id
  view store record := (store.deposits.get record.id).getD record
  setDepositState := setDepositState
  applyOnChainMatch store moment stealthPubkeyHex onChainAddress amount state :=
    .ok (store.applyOnChainMatch moment stealthPubkeyHex onChainAddress amount state)
  listInstitutionDeposits store institutionId limit :=
    .ok (store.listInstitutionDeposits institutionId limit)

end MemoryStore

/-- A text that a column or a parameter may hold: it has no character zero. Texts are well
formed here; the lone surrogates of the language, which the database alters, are no
characters. -/
def columnText (text : String) : Bool := text.toList.all (fun char => char.toNat ≠ 0)

/-- A time that a `TIMESTAMPTZ` and a `Date` can hold, in milliseconds: from the first day
that the one counts to the last of the other. -/
def columnTime (time : Int) : Bool :=
  (-210866803200000 : Int) ≤ time && time ≤ (8640000000000000 : Int)

/-- `NUMERIC(40, 0)`. -/
def numericLimit : Nat := 10 ^ 40

/-- `SMALLINT`. -/
def smallintLimit : Nat := 2 ^ 15

/-- The digits of a number in base 36. -/
def base36Alphabet : Text.Alphabet := ⟨"0123456789abcdefghijklmnopqrstuvwxyz".toList, by decide⟩

/-- `toString(36)` of a natural number. -/
def toBase36 (value : Nat) : String :=
  if value = 0 then "0" else String.ofList ((Nat.digits 36 value).reverse.map base36Alphabet.char)

/-- The tables with their constraints: identifiers are keys, an API key belongs to
one institution, and deposits refer to institutions. -/
structure PostgresStore where
  institutions : Table Institution Institution.id
  apiKeys : (institutions.rows.map Institution.apiKey).Nodup
  deposits : Table DepositRecord DepositRecord.id
  references : ∀ deposit ∈ deposits.rows,
    deposit.institutionId ∈ institutions.rows.map Institution.id

namespace PostgresStore

/-- The tables as the migration creates them, without the institution it adds. -/
def new : PostgresStore := ⟨.empty, List.nodup_nil, .empty, by simp [Table.empty]⟩

/-- The columns of `DO UPDATE SET`, each with the value that was to be inserted. -/
def excluded (inst row : Institution) : Institution :=
  { row with
    apiKey := inst.apiKey, spendPub := inst.spendPub, viewPub := inst.viewPub,
    releaseAuthority := inst.releaseAuthority, webhookUrl := inst.webhookUrl }

/-- An upsert leaves no identifier without its institution. -/
theorem upsert_ids (institutions : Table Institution Institution.id) (inst : Institution)
    {id : String} (stored : id ∈ institutions.rows.map Institution.id) :
    id ∈ (institutions.upsert inst (excluded inst) (fun _ => rfl)).rows.map Institution.id := by
  obtain ⟨other, member, rfl⟩ := List.mem_map.mp stored
  unfold Table.upsert
  split
  · refine List.mem_map.mpr ⟨if other.id = inst.id then excluded inst other else other,
      List.mem_map_of_mem member, ?_⟩
    split
    · rfl
    · rfl
  · exact List.mem_map.mpr ⟨other, List.mem_append_left _ member, rfl⟩

/-- `INSERT … ON CONFLICT (id) DO UPDATE SET …`, unless another institution has the key, which
violates the unique index. -/
def putInstitution (store : PostgresStore) (inst : Institution) : Except StoreError PostgresStore :=
  let institutions := store.institutions.upsert inst (excluded inst) (fun _ => rfl)
  if !(columnText inst.id && columnText inst.apiKey && inst.webhookUrl.all columnText) then
    .error .invalidText
  else if apiKeys : (institutions.rows.map Institution.apiKey).Nodup then
    .ok { store with
      institutions
      apiKeys
      references := fun deposit member => upsert_ids _ inst (store.references deposit member) }
  else .error .uniqueApiKey

/-- `INSERT … RETURNING *`, with what the columns and the references of the table refuse, and the
row as it is read back. -/
def createDeposit (store : PostgresStore) (moment : Moment) (record : DepositCreate) :
    Except StoreError (DepositRecord × PostgresStore) :=
  let id := s!"dep_{toBase36 moment.now.toNat}_{toBase36 moment.random}"
  let row := record.record id moment.databaseNow
  if !(columnText record.institutionId && columnText record.customerId &&
      columnText record.mint) then .error .invalidText
  else if !columnTime record.expiresAt then .error .invalidTimestamp
  else if numericLimit ≤ record.amountHint then .error .numericOverflow
  else if smallintLimit ≤ record.viewTag then .error .smallintOverflow
  else if taken : id ∈ store.deposits.rows.map DepositRecord.id then .error .duplicateId
  else if known : record.institutionId ∈ store.institutions.rows.map Institution.id then
    .ok (row,
      { store with
        deposits := store.deposits.insert row taken
        references := by
          intro deposit member
          rcases List.mem_append.mp member with earlier | last
          · exact store.references deposit earlier
          · rw [List.mem_singleton.mp last]
            exact known })
  else .error .unknownInstitution

/-- Change rows, but neither their identifiers nor their references. -/
def update (store : PostgresStore) (change : DepositRecord → DepositRecord)
    (keptId : ∀ row, (change row).id = row.id)
    (keptInstitution : ∀ row, (change row).institutionId = row.institutionId) : PostgresStore where
  institutions := store.institutions
  apiKeys := store.apiKeys
  deposits := store.deposits.modify change keptId
  references := by
    intro deposit member
    obtain ⟨row, stored, rfl⟩ := List.mem_map.mp member
    rw [keptInstitution]
    exact store.references row stored

/-- `UPDATE … SET state … WHERE id = … RETURNING *`, of one row at most, as the identifier is the
primary key. -/
def setDepositState (store : PostgresStore) (id : String) (state : DepositState) :
    Option DepositRecord × PostgresStore :=
  let updated := store.update (fun row => if row.id = id then { row with state } else row)
    (by intro row; split <;> rfl) (by intro row; split <;> rfl)
  (updated.deposits.get id, updated)

/-- The columns of a match, as the right sides of `SET` read the row before it. -/
def setColumns (row : DepositRecord) (onChainAddress : String) (amount : Nat) (state : String)
    (terminal : Bool) (now : Int) : DepositRecord :=
  { row with
    onChainAddress := some onChainAddress, onChainAmount := some amount,
    onChainState := some state, onChainObservedAt := some now,
    state := if terminal then (asState state).getD row.state else row.state }

/-- `UPDATE … WHERE stealth_pubkey = … RETURNING *`; the first row returned is the answer.
The bytes of the key are read in either case, up to the first pair that is none. -/
def applyOnChainMatch (store : PostgresStore) (moment : Moment)
    (stealthPubkeyHex onChainAddress : String) (amount : Nat) (state : String) :
    Except StoreError (Option DepositRecord × PostgresStore) :=
  let stealthBuf := Text.decodeHex (stealthPubkeyHex.toList.map Char.toLower)
  let terminal : Bool := state = "approved" ∨ state = "rejected" ∨ state = "released" ∨
    state = "refunded" ∨ state = "expired"
  if !(columnText onChainAddress && columnText state) then .error .invalidText
  else if numericLimit ≤ amount then .error .numericOverflow
  else
    let change := fun row : DepositRecord =>
      if row.stealthPubkey = stealthBuf
      then setColumns row onChainAddress amount state terminal moment.databaseNow else row
    let updated := store.update change (by intro row; simp only [change]; split <;> rfl)
      (by intro row; simp only [change]; split <;> rfl)
    .ok (updated.deposits.rows.find? (fun row => row.stealthPubkey = stealthBuf), updated)

/-- `SELECT … ORDER BY created_at DESC LIMIT …`. The limit is a `BIGINT`. -/
def listInstitutionDeposits (store : PostgresStore) (institutionId : String) (limit : Double) :
    Except StoreError (List DepositRecord) :=
  if limit.isInteger ∧ limit.atLeast 0 ∧ limit.atMost (2 ^ 63 - 1) then
    .ok ((orderByDesc DepositRecord.createdAt
      (store.deposits.rows.filter (fun row => row.institutionId = institutionId))).take
      limit.toInt.toNat)
  else .error .invalidLimit

/-- The store of a database. A question with a character zero finds nothing here; the
database throws. -/
instance : Store PostgresStore where
  putInstitution := putInstitution
  findByApiKey store apiKey := store.institutions.rows.find? (fun inst => inst.apiKey = apiKey)
  getInstitution store id := store.institutions.get id
  createDeposit := createDeposit
  getDeposit store id := store.deposits.get id
  view _ record := record
  setDepositState := setDepositState
  applyOnChainMatch := applyOnChainMatch
  listInstitutionDeposits := listInstitutionDeposits

end PostgresStore

end GPay.Gateway
