import GPay.Gateway.Routes

/-!
# What the two stores have in common

A store holds institutions and records. Its operations append a record, change the
state of one, or write a match to the records that its key touches; they change
nothing else. What they list of an institution is read off its own records. Which
records a key touches is the stores' own affair, as long as they carry that key, and
the one record that carries it is touched.

A match has the same effect in both, though one assigns fields under an `if` and the
other sets columns by a `CASE`; and both list in the same order, though one compares
records and the other orders by a column.
-/

namespace GPay.Gateway

open Tables
open Quarantine (DepositState)

/-- The state that a match closes a record with: that of its word, unless it is `pending`. -/
def closing (text : String) : Option DepositState :=
  (asState text).filter (fun state => state ≠ .pending)

/-- The effect of a match. What was seen of the payment is noted, and a word that closes
the record becomes its state. -/
def DepositRecord.observe (record : DepositRecord) (onChainAddress : String) (amount : Nat)
    (state : String) (now : Int) : DepositRecord :=
  { record with
    onChainAddress := some onChainAddress, onChainAmount := some amount,
    onChainState := some state, onChainObservedAt := some now,
    state := (closing state).getD record.state }

/-- Newest first; records of one time keep their order. -/
def newestFirst (records : List DepositRecord) : List DepositRecord :=
  records.insertionSort (fun left right => right.createdAt ≤ left.createdAt)

/-- Only its own word stands for a state. -/
theorem as_state_text {text : String} {state : DepositState} (named : asState text = some state) :
    text = stateText state := by
  have word := List.find?_some named
  exact (of_decide_eq_true word).symm

/-- The word of a state stands for it. -/
@[simp] theorem as_state_state_text (state : DepositState) :
    asState (stateText state) = some state := by
  cases state <;> decide +kernel

/-- The word of a state closes a record with it, unless it is `pending`. -/
theorem closing_state_text (state : DepositState) :
    closing (stateText state) = if state = .pending then none else some state := by
  simp only [closing, as_state_state_text]
  by_cases pending : state = .pending
  · simp [pending]
  · simp [pending]

/-- The five words that the stores test for are those that close a record: of the states all but
`pending`. -/
theorem closing_words (text : String) : (text = "approved" ∨ text = "rejected" ∨
    text = "released" ∨ text = "refunded" ∨ text = "expired") ↔ (closing text).isSome := by
  constructor
  · rintro (rfl | rfl | rfl | rfl | rfl)
    · decide +kernel
    · decide +kernel
    · decide +kernel
    · decide +kernel
    · decide +kernel
  · intro closes
    obtain ⟨state, closed⟩ := Option.isSome_iff_exists.mp closes
    obtain ⟨named, other⟩ := Option.filter_eq_some_iff.mp closed
    have word := as_state_text named
    cases state with
    | pending => simp at other
    | approved => exact .inl word
    | rejected => exact .inr (.inl word)
    | released => exact .inr (.inr (.inl word))
    | refunded => exact .inr (.inr (.inr (.inl word)))
    | expired => exact .inr (.inr (.inr (.inr word)))

/-- Behind the test for the five words the cast gives the state that closes the record. -/
theorem closing_cast {text : String} (closes : (closing text).isSome) (state : DepositState) :
    (asState text).getD state = (closing text).getD state := by
  obtain ⟨closed, same⟩ := Option.isSome_iff_exists.mp closes
  rw [same, (Option.filter_eq_some_iff.mp same).1]

/-- A state observed by its word: `pending` alone leaves the record's own. -/
theorem observe_state (record : DepositRecord) (onChainAddress : String) (amount : Nat)
    (state : DepositState) (now : Int) :
    (record.observe onChainAddress amount (stateText state) now).state =
      if state = .pending then record.state else state := by
  simp only [DepositRecord.observe, closing_state_text]
  split
  · rfl
  · rfl

/-- The effect of a match of a state by its word, field by field. -/
theorem observe_eq (record : DepositRecord) (onChainAddress : String) (amount : Nat)
    (state : DepositState) (now : Int) :
    record.observe onChainAddress amount (stateText state) now =
      { record with
        onChainAddress := some onChainAddress, onChainAmount := some amount,
        onChainState := some (stateText state), onChainObservedAt := some now,
        state := if state = .pending then record.state else state } := by
  rw [← observe_state record onChainAddress amount state now]
  rfl

/-- The assignments of the map have the effect of a match. -/
theorem MemoryStore.assign_eq (d : DepositRecord) (onChainAddress : String) (amount : Nat)
    (state : String) (now : Int) :
    assign d onChainAddress amount state now = d.observe onChainAddress amount state now := by
  unfold assign DepositRecord.observe
  simp only [closing_words]
  split
  · rename_i closes
    rw [closing_cast closes]
  · rename_i open_
    rw [Option.not_isSome_iff_eq_none.mp open_]
    rfl

/-- The columns that the database sets have the effect of a match, where its flag is the
test for the five words. -/
theorem PostgresStore.set_columns_eq (row : DepositRecord) (onChainAddress : String)
    (amount : Nat) (state : String) (now : Int) :
    setColumns row onChainAddress amount state (decide (state = "approved" ∨
      state = "rejected" ∨ state = "released" ∨ state = "refunded" ∨ state = "expired")) now =
        row.observe onChainAddress amount state now := by
  unfold setColumns DepositRecord.observe
  simp only [closing_words, decide_eq_true_eq]
  split
  · rename_i closes
    rw [closing_cast closes]
  · rename_i open_
    rw [Option.not_isSome_iff_eq_none.mp open_]
    rfl

/-- The comparison of the map puts the newest record first. -/
theorem MemoryStore.sort_newest (records : List DepositRecord) :
    sortBy (fun a b => b.createdAt - a.createdAt) records = newestFirst records :=
  sort_by_difference DepositRecord.createdAt records

/-- So does the ordering of the database. -/
theorem PostgresStore.order_newest (records : List DepositRecord) :
    orderByDesc DepositRecord.createdAt records = newestFirst records := rfl

/-- The columns that an upsert sets are all but the identifier, so that the institution is
put in the place of the one that was there. -/
theorem PostgresStore.upsert_put (institutions : Table Institution Institution.id)
    (inst : Institution) :
    institutions.upsert inst (excluded inst) (fun _ => rfl) = institutions.put inst := by
  apply Table.upsert_eq_put
  intro old same
  unfold excluded
  rw [same]

/-- The effect of a state written to the record with an identifier. -/
def DepositRecord.settled (id : String) (state : DepositState) (record : DepositRecord) :
    DepositRecord :=
  if record.id = id then { record with state } else record

/-- A settlement keeps the identifier. -/
@[simp] theorem DepositRecord.settled_id (id : String) (state : DepositState)
    (record : DepositRecord) :
    (record.settled id state).id = record.id := by
  unfold settled
  split <;> rfl

/-- A store with its contents: the institutions and the records that it holds, and what each
operation answers from them and makes of them. What both stores have in common is proved of this
class. -/
class LawfulStore (σ : Type) extends Store σ where
  institutions : σ → List Institution
  records : σ → List DepositRecord
  /-- The record is one that a match under this key is written to. -/
  touches : σ → (stealthPubkeyHex : String) → DepositRecord → Bool
  distinct : ∀ store, ((records store).map DepositRecord.id).Nodup
  find_by_api_key : ∀ store apiKey, Store.findByApiKey store apiKey =
    (institutions store).find? (fun inst => inst.apiKey = apiKey)
  get_deposit : ∀ store id, Store.getDeposit store id = (records store).find? (fun d => d.id = id)
  viewed : ∀ store record, Store.view store record = record ∨
    Store.view store record = ((records store).find? (fun d => d.id = record.id)).getD record
  create_deposit : ∀ store moment create record stored,
    Store.createDeposit store moment create = .ok (record, stored) →
      institutions stored = institutions store ∧ records stored = records store ++ [record] ∧
        ∃ id createdAt, record = create.record id createdAt
  set_institutions : ∀ store id state,
    institutions (Store.setDepositState store id state).2 = institutions store
  set_records : ∀ store id state,
    records (Store.setDepositState store id state).2 =
      (records store).map (DepositRecord.settled id state)
  apply_match : ∀ store moment stealthPubkeyHex onChainAddress amount state result stored,
    Store.applyOnChainMatch store moment stealthPubkeyHex onChainAddress amount state =
      .ok (result, stored) →
      institutions stored = institutions store ∧ ∃ now,
        records stored = (records store).map (fun record =>
          if touches store stealthPubkeyHex record
          then record.observe onChainAddress amount state now else record) ∧
        result = ((records store).find? (touches store stealthPubkeyHex)).map
          (fun record => record.observe onChainAddress amount state now)
  match_accepted : ∀ (store : σ) moment stealthPubkeyHex onChainAddress amount state,
    columnText onChainAddress → columnText state → amount < numericLimit → ∃ answered,
      Store.applyOnChainMatch store moment stealthPubkeyHex onChainAddress amount state =
        .ok answered
  touched_key : ∀ store key record, record ∈ records store →
    touches store (bytesToHex key) record = true → record.stealthPubkey = key
  key_touched : ∀ store key record, record ∈ records store → record.stealthPubkey = key →
    (∀ other ∈ records store, other.stealthPubkey = key → other = record) →
      touches store (bytesToHex key) record = true
  list_deposits : ∀ left right institutionId limit,
    (records left).filter (fun d => d.institutionId = institutionId) =
        (records right).filter (fun d => d.institutionId = institutionId) →
      Store.listInstitutionDeposits left institutionId limit =
        Store.listInstitutionDeposits right institutionId limit

open LawfulStore

/-- What was read has the identifier it was read by. -/
theorem read_id {σ : Type} [LawfulStore σ] {store : σ} {id : String} {record : DepositRecord}
    (read : Store.getDeposit store id = some record) : record.id = id := by
  rw [get_deposit] at read
  simpa using List.find?_some read

/-- A request that carries the key of an institution is authenticated as it, when no
two institutions have one key. -/
theorem key_authenticates {σ : Type} [LawfulStore σ] {store : σ} {request : Request}
    {inst : Institution} (keys : ((institutions store).map Institution.apiKey).Nodup)
    (member : inst ∈ institutions store)
    (carried : request.apiKey = some inst.apiKey) (nonempty : inst.apiKey ≠ "") :
    apiKeyAuth store request = .ok inst := by
  have found := find_row keys member
  unfold apiKeyAuth
  rw [carried]
  split
  · rename_i none
    cases none
  · rename_i vacant
    exact absurd (Option.some.inj vacant) nonempty
  · rename_i key present
    rw [← Option.some.inj present, find_by_api_key, found]

namespace MemoryStore

/-- The first record whose key is written so, by its identifier. -/
def touches (store : MemoryStore) (stealthPubkeyHex : String) (record : DepositRecord) : Bool :=
  match store.deposits.rows.find? (fun d => bytesToHex d.stealthPubkey = stealthPubkeyHex) with
  | none => false
  | some d => record.id = d.id

/-- Only the record with the identifier of the first one that is touched is changed, and it is
the answer. -/
theorem apply_on_chain_match_eq (store : MemoryStore) (moment : Moment)
    (stealthPubkeyHex onChainAddress : String) (amount : Nat) (state : String) :
    (store.applyOnChainMatch moment stealthPubkeyHex onChainAddress amount state).2.institutions =
        store.institutions ∧
      (store.applyOnChainMatch moment stealthPubkeyHex onChainAddress
          amount state).2.deposits.rows =
        store.deposits.rows.map (fun record => if store.touches stealthPubkeyHex record then
          record.observe onChainAddress amount state moment.now else record) ∧
      (store.applyOnChainMatch moment stealthPubkeyHex onChainAddress amount state).1 =
        (store.deposits.rows.find? (store.touches stealthPubkeyHex)).map
          (fun record => record.observe onChainAddress amount state moment.now) := by
  cases found :
      store.deposits.rows.find? (fun d => bytesToHex d.stealthPubkey = stealthPubkeyHex) with
  | none =>
    have touched : store.touches stealthPubkeyHex = fun _ => false := by
      funext record
      simp [touches, found]
    have nowhere : store.deposits.rows.find? (fun _ => false) = none :=
      List.find?_eq_none.mpr (by simp)
    simp [applyOnChainMatch, found, touched, nowhere]
  | some d =>
    have touched : store.touches stealthPubkeyHex = fun record => decide (record.id = d.id) := by
      funext record
      simp [touches, found]
    have first : store.deposits.get d.id = some d :=
      (store.deposits.get_eq_some_iff).mpr ⟨List.mem_of_find?_eq_some found, rfl⟩
    have located : store.deposits.rows.find? (fun record => decide (record.id = d.id)) = some d :=
      first
    rw [touched, located]
    simp [applyOnChainMatch, found, change, Table.modify, assign_eq]

instance : LawfulStore MemoryStore where
  institutions store := store.institutions.rows
  records store := store.deposits.rows
  touches
  distinct store := store.deposits.distinct
  find_by_api_key _ _ := rfl
  get_deposit _ _ := rfl
  viewed _ _ := .inr rfl
  create_deposit := by
    intro store moment create record stored created
    obtain ⟨rfl, rfl⟩ := Prod.mk.inj (Except.ok.inj created)
    exact ⟨rfl, rfl, _, _, rfl⟩
  set_institutions := by
    intro store id state
    simp only [Store.setDepositState, setDepositState]
    split <;> rfl
  set_records := by
    intro store id state
    simp only [Store.setDepositState, setDepositState]
    split
    · rename_i missing
      have unchanged : ∀ record ∈ store.deposits.rows, record.settled id state = record := by
        intro record member
        have absent := (store.deposits.get_eq_none_iff).mp missing
        have other : record.id ≠ id := fun same => absent (List.mem_map.mpr ⟨record, member, same⟩)
        rw [DepositRecord.settled, if_neg other]
      rw [List.map_congr_left unchanged]
      simp
    · rfl
  apply_match := by
    intro store moment stealthPubkeyHex onChainAddress amount state result stored applied
    obtain ⟨same, rows, answer⟩ :=
      store.apply_on_chain_match_eq moment stealthPubkeyHex onChainAddress amount state
    obtain ⟨rfl, rfl⟩ := Prod.mk.inj (Except.ok.inj applied)
    exact ⟨congrArg Table.rows same, moment.now, rows, answer⟩
  match_accepted _ _ _ _ _ _ _ _ _ := ⟨_, rfl⟩
  touched_key := by
    intro store key record member touched
    unfold touches at touched
    split at touched
    · cases touched
    · rename_i d found
      have hex : bytesToHex d.stealthPubkey = bytesToHex key := by simpa using List.find?_some found
      have same :=
        store.deposits.unique member (List.mem_of_find?_eq_some found) (by simpa using touched)
      rw [same]
      exact bytes_to_hex_injective hex
  key_touched := by
    intro store key record member carries only
    obtain ⟨d, found⟩ : ∃ d, store.deposits.rows.find? (fun d => bytesToHex d.stealthPubkey =
        bytesToHex key) = some d :=
      Option.isSome_iff_exists.mp (List.find?_isSome.mpr ⟨record, member, by simp [carries]⟩)
    have hex : bytesToHex d.stealthPubkey = bytesToHex key := by simpa using List.find?_some found
    have same := only d (List.mem_of_find?_eq_some found) (bytes_to_hex_injective hex)
    simp [touches, found, same]
  list_deposits := by
    intro left right institutionId limit same
    simp only [Store.listInstitutionDeposits, listInstitutionDeposits]
    rw [same]

end MemoryStore

namespace PostgresStore

/-- Every row with the key. -/
def touches (_ : PostgresStore) (stealthPubkeyHex : String) (row : DepositRecord) : Bool :=
  row.stealthPubkey = Text.decodeHex (stealthPubkeyHex.toList.map Char.toLower)

/-- The text of a key is in lower case, and is read as the key. -/
theorem decode_bytes_to_hex (key : List UInt8) :
    Text.decodeHex ((bytesToHex key).toList.map Char.toLower) = key := by
  have lower := (case_mix_read (Text.CaseMix.refl (Text.encodeHex key))).2.1
  rw [bytes_to_hex_eq, String.toList_ofList, lower, Text.decode_encode_hex]

/-- An insertion that is not refused adds its row behind the others, with the columns that were
given and the defaults of the table. -/
theorem create_deposit_ok {store stored : PostgresStore} {moment : Moment}
    {create : DepositCreate} {record : DepositRecord}
    (created : store.createDeposit moment create = .ok (record, stored)) :
    stored.institutions.rows = store.institutions.rows ∧
      stored.deposits.rows = store.deposits.rows ++ [record] ∧
        ∃ id createdAt, record = create.record id createdAt := by
  unfold createDeposit at created
  extract_lets at created
  split at created
  · cases created
  split at created
  · cases created
  split at created
  · cases created
  split at created
  · cases created
  split at created
  · cases created
  split at created
  · obtain ⟨rfl, rfl⟩ := Prod.mk.inj (Except.ok.inj created)
    exact ⟨rfl, rfl, _, _, rfl⟩
  · cases created

/-- A match that is not refused writes to every row with the key, and answers the first of
them as it is then. -/
theorem apply_on_chain_match_ok {store : PostgresStore} {moment : Moment}
    {stealthPubkeyHex onChainAddress : String} {amount : Nat} {state : String}
    {answered : Option DepositRecord × PostgresStore}
    (applied : store.applyOnChainMatch moment stealthPubkeyHex onChainAddress amount state =
      .ok answered) :
    answered.2.institutions = store.institutions ∧
      answered.2.deposits.rows = store.deposits.rows.map (fun row =>
        if store.touches stealthPubkeyHex row
        then row.observe onChainAddress amount state moment.databaseNow else row) ∧
      answered.1 = (store.deposits.rows.find? (store.touches stealthPubkeyHex)).map
        (fun row => row.observe onChainAddress amount state moment.databaseNow) := by
  unfold applyOnChainMatch at applied
  simp only [set_columns_eq] at applied
  split at applied
  · cases applied
  split at applied
  · cases applied
  obtain rfl := Except.ok.inj applied
  let written := fun row : DepositRecord => if store.touches stealthPubkeyHex row
    then row.observe onChainAddress amount state moment.databaseNow else row
  have rows : ∀ row : DepositRecord, (if row.stealthPubkey =
      Text.decodeHex (stealthPubkeyHex.toList.map Char.toLower)
      then row.observe onChainAddress amount state moment.databaseNow else row) = written row := by
    intro row
    simp only [written, touches, decide_eq_true_eq]
  -- A row that is hit is hit after the update as well, as its key stays.
  have hit : ((fun row => decide (row.stealthPubkey =
      Text.decodeHex (stealthPubkeyHex.toList.map Char.toLower))) ∘ written) =
      store.touches stealthPubkeyHex := by
    funext row
    simp only [written, Function.comp_apply]
    split
    · rfl
    · rfl
  simp only [update, Table.modify, rows]
  refine ⟨trivial, rfl, ?_⟩
  rw [List.find?_map, hit]
  apply Option.map_congr
  intro row found
  exact if_pos (List.find?_some found)

/-- A match of texts that the columns hold and an amount that fits is not refused. -/
theorem apply_on_chain_match_accepted (store : PostgresStore) (moment : Moment)
    (stealthPubkeyHex : String) {onChainAddress : String} {amount : Nat} {state : String}
    (address : columnText onChainAddress) (word : columnText state)
    (small : amount < numericLimit) : ∃ answered,
      store.applyOnChainMatch moment stealthPubkeyHex onChainAddress amount state =
        .ok answered := by
  unfold applyOnChainMatch
  rw [if_neg (by simp [address, word]), if_neg (not_le.mpr small)]
  exact ⟨_, rfl⟩

instance : LawfulStore PostgresStore where
  institutions store := store.institutions.rows
  records store := store.deposits.rows
  touches
  distinct store := store.deposits.distinct
  find_by_api_key _ _ := rfl
  get_deposit _ _ := rfl
  viewed _ _ := .inl rfl
  create_deposit _ _ _ _ _ created := create_deposit_ok created
  set_institutions _ _ _ := rfl
  set_records _ _ _ := rfl
  apply_match := by
    intro store moment stealthPubkeyHex onChainAddress amount state result stored applied
    obtain ⟨same, rows, answer⟩ := apply_on_chain_match_ok applied
    exact ⟨congrArg Table.rows same, moment.databaseNow, rows, answer⟩
  match_accepted store moment stealthPubkeyHex _ _ _ address word small :=
    apply_on_chain_match_accepted store moment stealthPubkeyHex address word small
  touched_key := by
    intro store key record member touched
    rw [touches, decode_bytes_to_hex] at touched
    exact of_decide_eq_true touched
  key_touched := by
    intro store key record member carries only
    simp [touches, decode_bytes_to_hex, carries]
  list_deposits := by
    intro left right institutionId limit same
    simp only [Store.listInstitutionDeposits, listInstitutionDeposits]
    rw [same]

end PostgresStore

end GPay.Gateway
