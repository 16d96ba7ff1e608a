import Mathlib.Data.List.Find
import GPay.Gateway.Ledger

/-!
# The stores as ledgers

Each store renders the entries of a ledger as records under names of its own. Under the
ledger's contract its clients are answered as by the ledger itself, and so both stores
give the same answers, whatever identifiers and times they choose.

The database alone refuses what its columns cannot hold: a limit beyond its integers, a
text with a character zero, a time beyond its calendar.
-/

namespace GPay.Gateway

open Doubles Tables Runs LawfulStore
open Quarantine (DepositState)

/-- The records of such a text's key are those whose key is written so. -/
theorem key_hex_text {text : String} (digits : KeyHex text) : bytesToHex (keyOf text) = text := by
  rw [bytes_to_hex_eq, keyOf, Text.encode_decode_hex _ (by rw [digits.1]) digits.2,
    String.ofList_toList]

/-- A store that gives its names to what it stores. `numbered` says that it is about to
give the names of that number. -/
class NamingStore (σ : Type) extends LawfulStore σ where
  naming : Naming
  listed : naming ∈ namings
  numbered : σ → Nat → Prop
  put_institution : ∀ (store : σ) (inst : Institution) (table : Table Institution Institution.id),
    columnText inst.id → columnText inst.apiKey → inst.webhookUrl.all columnText →
    institutions store = table.rows → ((table.put inst).rows.map Institution.apiKey).Nodup →
      ∃ stored, Store.putInstitution store inst = .ok stored ∧
        institutions stored = (table.put inst).rows ∧ records stored = records store ∧
        ∀ number, numbered store number → numbered stored number
  get_institution : ∀ store id, Store.getInstitution store id =
    (institutions store).find? (fun inst => inst.id = id)
  create_named : ∀ store moment create number, numbered store number →
    create.institutionId ∈ (institutions store).map Institution.id →
    columnText create.institutionId → columnText create.customerId → columnText create.mint →
    columnTime create.expiresAt → create.amountHint < numericLimit →
    create.viewTag < smallintLimit →
    naming.id number moment ∉ (records store).map DepositRecord.id →
      ∃ stored, Store.createDeposit store moment create =
          .ok (naming.row ⟨number, moment, create, .pending, none⟩, stored) ∧
        numbered stored (number + 1)
  set_answer : ∀ store id state, (Store.setDepositState store id state).1 =
    ((records store).find? (fun record => record.id = id)).map (DepositRecord.settled id state)
  set_numbered : ∀ store id state number, numbered store number →
    numbered (Store.setDepositState store id state).2 number
  match_named : ∀ (store : σ) moment stealthPubkeyHex onChainAddress amount state,
    columnText onChainAddress → columnText state → amount < numericLimit → ∃ stored,
      Store.applyOnChainMatch store moment stealthPubkeyHex onChainAddress amount state =
        .ok (((records store).find? (touches store stealthPubkeyHex)).map (fun record =>
          record.observe onChainAddress amount state (naming.time moment)), stored) ∧
      institutions stored = institutions store ∧
      records stored = (records store).map (fun record =>
        if touches store stealthPubkeyHex record
        then record.observe onChainAddress amount state (naming.time moment) else record) ∧
      ∀ number, numbered store number → numbered stored number
  list_newest : ∀ (store : σ) institutionId (limit : Nat), limit < 2 ^ 63 →
    Store.listInstitutionDeposits store institutionId (.finite limit) =
      .ok ((newestFirst ((records store).filter (fun record =>
        record.institutionId = institutionId))).take limit)

namespace MemoryStore

instance : NamingStore MemoryStore where
  naming := naming
  listed := by simp [namings]
  numbered store number := store.nextDepositSeq = number + 1
  put_institution := by
    intro store inst table _ _ _ same distinct
    obtain rfl : store.institutions = table := Table.ext same
    exact ⟨_, rfl, rfl, rfl, fun _ numbered => numbered⟩
  get_institution _ _ := rfl
  create_named := by
    intro store moment create number numbered known _ _ _ _ _ _ _
    have seq : store.nextDepositSeq = number + 1 := numbered
    refine ⟨(store.createDeposit moment create).2, ?_, ?_⟩
    · simp only [Store.createDeposit, createDeposit, seq]
      rfl
    · show store.nextDepositSeq + 1 = number + 1 + 1
      rw [seq]
  set_answer := by
    intro store id state
    show (store.setDepositState id state).1 = (store.deposits.get id).map _
    cases found : store.deposits.get id with
    | none => simp [setDepositState, found]
    | some record =>
      have keyed := ((store.deposits.get_eq_some_iff).mp found).2
      simp [setDepositState, found, DepositRecord.settled, keyed]
  set_numbered := by
    intro store id state number numbered
    simp only [Store.setDepositState, setDepositState]
    split
    · exact numbered
    · exact numbered
  match_named := by
    intro store moment stealthPubkeyHex onChainAddress amount state _ _ _
    obtain ⟨same, rows, answer⟩ :=
      store.apply_on_chain_match_eq moment stealthPubkeyHex onChainAddress amount state
    refine ⟨(store.applyOnChainMatch moment stealthPubkeyHex onChainAddress amount state).2, ?_,
      congrArg Table.rows same, rows, ?_⟩
    · exact congrArg Except.ok (Prod.ext answer rfl)
    · intro number numbered
      show (store.applyOnChainMatch moment stealthPubkeyHex onChainAddress amount
        state).2.nextDepositSeq = number + 1
      unfold applyOnChainMatch
      split
      · exact numbered
      · exact numbered
  list_newest := by
    intro store institutionId limit _
    simp only [Store.listInstitutionDeposits, listInstitutionDeposits, sort_newest]
    have slice : ∀ length, sliceEnd (.finite limit) length = min limit length := by
      intro length
      simp [sliceEnd]
    rw [slice, ← List.take_eq_take_min]
    rfl

end MemoryStore

namespace PostgresStore

instance : NamingStore PostgresStore where
  naming := naming
  listed := by simp [namings]
  numbered _ _ := True
  put_institution := by
    intro store inst table id apiKey webhook same distinct
    obtain rfl : store.institutions = table := Table.ext same
    have upserted := upsert_put store.institutions inst
    rw [← upserted] at distinct
    simp only [Store.putInstitution, putInstitution, id, apiKey, webhook, dif_pos distinct]
    exact ⟨_, rfl, congrArg Table.rows upserted, rfl, fun _ numbered => numbered⟩
  get_institution _ _ := rfl
  create_named := by
    intro store moment create number _ known institution customer mint expiry numeric smallint fresh
    have texts : ¬ (!(columnText create.institutionId && columnText create.customerId &&
        columnText create.mint)) = true := by
      simp [institution, customer, mint]
    have time : ¬ (!columnTime create.expiresAt) = true := by simp [expiry]
    simp only [Store.createDeposit, createDeposit, if_neg texts, if_neg time,
      if_neg (not_le.mpr numeric), if_neg (not_le.mpr smallint)]
    split
    · rename_i taken
      exact absurd taken fresh
    · split
      · exact ⟨_, rfl, trivial⟩
      · rename_i unknown
        exact absurd known unknown
  set_answer := by
    intro store id state
    have keeps : ∀ row : DepositRecord, (row.settled id state).id = id ↔ row.id = id := by
      intro row
      rw [DepositRecord.settled_id]
    show (store.deposits.rows.map (DepositRecord.settled id state)).find? _ = _
    rw [List.find?_map]
    congr 2
    funext row
    exact decide_eq_decide.mpr (keeps row)
  set_numbered _ _ _ _ _ := trivial
  match_named := by
    intro store moment stealthPubkeyHex onChainAddress amount state address word small
    obtain ⟨⟨result, stored⟩, applied⟩ :=
      apply_on_chain_match_accepted store moment stealthPubkeyHex address word small
    obtain ⟨same, rows, answer⟩ := apply_on_chain_match_ok applied
    refine ⟨stored, ?_, congrArg Table.rows same, rows, fun _ _ => trivial⟩
    obtain rfl : result = _ := answer
    exact applied
  list_newest := by
    intro store institutionId limit bounded
    have bigint : (Double.finite (limit : ℚ)).isInteger = true ∧
        (Double.finite (limit : ℚ)).atLeast 0 = true ∧
        (Double.finite (limit : ℚ)).atMost (2 ^ 63 - 1) = true := by
      have whole : (limit : ℤ) ≤ 2 ^ 63 - 1 := by omega
      have below : ((limit : ℤ) : ℚ) ≤ ((2 ^ 63 - 1 : ℤ) : ℚ) := Int.cast_le.mpr whole
      rw [Int.cast_natCast] at below
      refine ⟨by simp [Double.isInteger, Rat.isInt], by simp [Double.atLeast], ?_⟩
      simpa only [Double.atMost, decide_eq_true_eq] using below
    simp only [Store.listInstitutionDeposits, listInstitutionDeposits, if_pos bigint, order_newest]
    simp [Double.toInt]
    rfl

end PostgresStore

section Refinement

variable {σ : Type} [NamingStore σ]

open NamingStore (naming numbered)

/-- The store of a client holds the records of the ledger's entries under its names, and the
institutions of the ledger, and the client knows the names. -/
structure Represents (ledger : Ledger) (client : Client σ) : Prop where
  sound : ledger.Sound
  institutions : institutions client.store = ledger.institutions.rows
  records : records client.store = ledger.entries.map (naming σ).row
  ids : client.ids = ledger.entries.map (fun entry => (naming σ).id entry.index entry.moment)
  numbered : numbered client.store ledger.entries.length

variable {ledger : Ledger} {client : Client σ}

/-- A call of the client is answered as by the ledger, and leaves the one represented by
the other. -/
def Follows (ledger : Ledger) (client : Client σ) (call : Operation × Moment) : Prop :=
  (client.perform call).1 = (ledger.next call).1 ∧
    Represents (ledger.next call).2 (client.perform call).2

namespace Represents

/-- The identifiers of a client are those of the records, in order. -/
theorem record_ids (represents : Represents ledger client) :
    (LawfulStore.records client.store).map DepositRecord.id = client.ids := by
  rw [represents.records, represents.ids, List.map_map]
  rfl

/-- What was answered for records that were created are different identifiers. -/
theorem ids_distinct (represents : Represents ledger client) : client.ids.Nodup := by
  rw [← represents.record_ids]
  exact distinct client.store

/-- The number of an entry is its place among the entries. -/
theorem place (represents : Represents ledger client) {entry : Entry}
    (member : entry ∈ ledger.entries) :
    ∃ below : entry.index < client.ids.length,
      client.ids[entry.index] = ((naming σ).row entry).id := by
  obtain ⟨index, below, here⟩ := List.getElem_of_mem member
  have counted : entry.index = index := by
    have numbers := congrArg (fun list => list[index]?) represents.sound.numbered
    simpa [below, here] using numbers
  have length : client.ids.length = ledger.entries.length := by
    rw [represents.ids, List.length_map]
  refine ⟨by omega, ?_⟩
  simp only [represents.ids, List.getElem_map, counted, here]
  rw [← counted]
  rfl

/-- What a client is shown of a record is what is known of its entry. -/
theorem shown_row (represents : Represents ledger client) {entry : Entry}
    (member : entry ∈ ledger.entries) :
    client.shown ((naming σ).row entry) = entry.shown := by
  obtain ⟨below, here⟩ := represents.place member
  have index : client.ids.idxOf? ((naming σ).row entry).id = some entry.index := by
    rw [List.idxOf?_eq_some_iff]
    refine ⟨below, here, ?_⟩
    intro earlier before same
    have repeated := (represents.ids_distinct.getElem_inj_iff).mp (same.trans here.symm)
    omega
  simp only [Client.shown, index]
  simp [Entry.shown, Naming.row]

/-- What was referred to properly is resolved to its own identifier, and to no other: a number to
that of its creation, and a text to itself. -/
theorem resolves (represents : Represents ledger client) {id : DepositRef}
    (proper : id.Proper ledger) {entry : Entry} (member : entry ∈ ledger.entries) :
    ((naming σ).row entry).id = client.resolve id ↔ id.names entry = true := by
  cases id with
  | other text =>
    have different := proper.2 (naming σ) NamingStore.listed entry member
    exact iff_of_false different (by simp [DepositRef.names])
  | created index =>
    have length : client.ids.length = ledger.entries.length := by
      rw [represents.ids, List.length_map]
    have inside : index < client.ids.length := by
      rw [length]
      exact proper
    obtain ⟨below, here⟩ := represents.place member
    have resolved : client.resolve (.created index) = client.ids[index] := by
      rw [Client.resolve, List.getD_eq_getElem?_getD, List.getElem?_eq_getElem inside,
        Option.getD_some]
    rw [resolved, ← here, represents.ids_distinct.getElem_inj_iff, DepositRef.names,
      decide_eq_true_iff]

/-- Looking up what was referred to finds the record of its entry. -/
theorem find_ref (represents : Represents ledger client) {id : DepositRef}
    (proper : id.Proper ledger) :
    (LawfulStore.records client.store).find? (fun record => record.id = client.resolve id) =
      (ledger.entries.find? id.names).map (naming σ).row := by
  rw [represents.records, List.find?_map]
  congr 1
  apply List.find?_congr
  intro entry member
  have named := represents.resolves proper member
  rw [Bool.eq_iff_iff, ← named, Function.comp_apply, decide_eq_true_iff]

/-- A key touches the record of the entry that has it, and no other, as keys are distinct. -/
theorem touches_key (represents : Represents ledger client) {text : String} (digits : KeyHex text)
    {entry : Entry} (member : entry ∈ ledger.entries) :
    touches client.store text ((naming σ).row entry) =
      decide (entry.create.stealthPubkey = keyOf text) := by
  have listed : (naming σ).row entry ∈ LawfulStore.records client.store := by
    rw [represents.records]
    exact List.mem_map_of_mem member
  rw [Bool.eq_iff_iff, decide_eq_true_iff, ← key_hex_text digits]
  constructor
  · intro touched
    have keyed := touched_key _ _ _ listed touched
    rw [key_hex_text digits]
    exact keyed
  · intro keyed
    rw [key_hex_text digits] at keyed
    apply key_touched _ _ _ listed keyed
    intro other among same
    rw [represents.records] at among
    obtain ⟨entry', present, rfl⟩ := List.mem_map.mp among
    rw [List.inj_on_of_nodup_map represents.sound.keys present member (same.trans keyed.symm)]

/-- A client of a store whose records were changed as the entries were still represents the
ledger, and answers as it does. -/
theorem updated (represents : Represents ledger client) (hit : Entry → Bool)
    (change : Entry → Entry) (index : ∀ entry, (change entry).index = entry.index)
    (moment : ∀ entry, (change entry).moment = entry.moment)
    (create : ∀ entry, (change entry).create = entry.create) {store : σ}
    (institutions : LawfulStore.institutions store = LawfulStore.institutions client.store)
    (records : LawfulStore.records store = (ledger.entries.map
      (fun entry => if hit entry then change entry else entry)).map (naming σ).row)
    (numbered : ∀ number, NamingStore.numbered client.store number →
      NamingStore.numbered store number) :
    Represents (ledger.update hit change).2 { client with store } where
  sound := represents.sound.update hit index moment create
  institutions := institutions.trans represents.institutions
  records := records
  ids := by
    rw [represents.ids]
    show _ = (ledger.entries.map _).map _
    rw [List.map_map]
    apply List.map_congr_left
    intro entry _
    simp only [Function.comp_apply]
    split
    · rw [index, moment]
    · rfl
  numbered := by
    have length : (ledger.update hit change).2.entries.length = ledger.entries.length :=
      List.length_map _
    rw [length]
    exact numbered _ represents.numbered

/-- What is shown of the changed record. -/
theorem updated_answer {hit : Entry → Bool} {change : Entry → Entry}
    (represents : Represents (ledger.update hit change).2 client) :
    Answer.deposit ((ledger.entries.find? hit).map (fun entry =>
      client.shown ((naming σ).row (change entry)))) = (ledger.update hit change).1 := by
  congr 1
  cases found : ledger.entries.find? hit with
  | none => rfl
  | some entry =>
    have changed : change entry ∈ (ledger.update hit change).2.entries :=
      List.mem_map.mpr ⟨entry, List.mem_of_find?_eq_some found, if_pos (List.find?_some found)⟩
    exact congrArg some (represents.shown_row changed)

/-- A new deposit is recorded under the next names, in the store as in the ledger. -/
theorem created (represents : Represents ledger client) {record : DepositCreate} {moment : Moment}
    (creatable : Creatable ledger record moment) :
    Follows ledger client (.createDeposit record, moment) := by
  let entry : Entry := ⟨ledger.entries.length, moment, record, .pending, none⟩
  have known : record.institutionId ∈
      (LawfulStore.institutions client.store).map Institution.id := by
    rw [represents.institutions]
    exact creatable.known
  have fresh : (naming σ).id ledger.entries.length moment ∉
      (LawfulStore.records client.store).map DepositRecord.id := by
    rw [represents.record_ids, represents.ids]
    intro taken
    obtain ⟨other, member, same⟩ := List.mem_map.mp taken
    exact creatable.id _ NamingStore.listed other member same
  obtain ⟨institution, customer, mint⟩ := creatable.texts
  obtain ⟨stored, added, numbered⟩ := NamingStore.create_named client.store moment record _
    represents.numbered known institution customer mint creatable.expiry creatable.numeric
    creatable.smallint fresh
  obtain ⟨institutions, records, _⟩ := create_deposit _ _ _ _ _ added
  have following : Represents (ledger.next (.createDeposit record, moment)).2
      (⟨stored, client.ids ++ [((naming σ).row entry).id]⟩ : Client σ) := by
    refine ⟨represents.sound.next creatable, institutions.trans represents.institutions, ?_, ?_, ?_⟩
    · simp [records, represents.records, Ledger.next]
    · simp only [represents.ids, Ledger.next, List.map_append, List.map_singleton]
      rfl
    · simpa [Ledger.next] using numbered
  simp only [Follows, Client.perform, added]
  have last : entry ∈ (ledger.next (.createDeposit record, moment)).2.entries := by
    simp [Ledger.next, entry]
  have shown := following.shown_row last
  exact ⟨congrArg (fun shown => Answer.deposit (some shown)) shown, following⟩

/-- A listing shows the newest entries of the institution, as the clocks order the records as the
entries. -/
theorem listed (represents : Represents ledger client) (institutionId : String) {limit : Nat}
    (bounded : limit < 2 ^ 63) :
    ∃ listed, Store.listInstitutionDeposits client.store institutionId (.finite limit) =
        .ok listed ∧
      listed.map client.shown = ((newestEntries (ledger.entries.filter (fun entry =>
        entry.create.institutionId = institutionId))).take limit).map Entry.shown := by
  let own := ledger.entries.filter (fun entry => entry.create.institutionId = institutionId)
  have rows : (LawfulStore.records client.store).filter (fun record =>
      record.institutionId = institutionId) = own.map (naming σ).row := by
    rw [represents.records, List.filter_map]
    rfl
  have inside : ∀ entry ∈ own, entry ∈ ledger.entries := fun _ => List.mem_of_mem_filter
  have sorted : newestFirst (own.map (naming σ).row) =
      (newestEntries own).map (naming σ).row := by
    symm
    apply List.map_insertionSort
    intro left inLeft right inRight
    exact represents.sound.agree NamingStore.listed (inside _ inLeft) (inside _ inRight)
  refine ⟨_, NamingStore.list_newest client.store institutionId limit bounded, ?_⟩
  rw [rows, sorted, ← List.map_take, List.map_map]
  apply List.map_congr_left
  intro entry member
  have among : entry ∈ newestEntries own := List.mem_of_mem_take member
  rw [newestEntries, List.mem_insertionSort] at among
  exact represents.shown_row (inside _ among)

/-- An institution is put among the others in the store as in the ledger, in the place of an
earlier one with its identifier. -/
theorem institution_put (represents : Represents ledger client) {inst : Institution}
    {moment : Moment} (contract : Contract ledger (.putInstitution inst, moment)) :
    Follows ledger client (.putInstitution inst, moment) := by
  have sound : (ledger.next (.putInstitution inst, moment)).2.Sound :=
    represents.sound.next contract
  have puttable : Puttable ledger inst := contract
  have texts : columnText inst.id = true ∧ columnText inst.apiKey = true := by
    have keys := puttable.keys
    simp only [keyText, Bool.and_eq_true] at keys
    exact ⟨keys.1.1, keys.2.1⟩
  obtain ⟨stored, put, institutions, records, numbered⟩ := NamingStore.put_institution
    client.store inst ledger.institutions texts.1 texts.2 puttable.webhook
    represents.institutions sound.apiKeys
  simp only [Follows, Client.perform, put]
  exact ⟨rfl, sound, institutions, records.trans represents.records, represents.ids,
    numbered _ represents.numbered⟩

/-- A deposit that was referred to properly is read. -/
theorem deposit_read (represents : Represents ledger client) {id : DepositRef} (moment : Moment)
    (proper : id.Proper ledger) : Follows ledger client (.getDeposit id, moment) := by
  refine ⟨?_, represents⟩
  simp only [Client.perform, Ledger.next, get_deposit, represents.find_ref proper,
    Option.map_map]
  congr 1
  cases found : ledger.entries.find? id.names with
  | none => rfl
  | some entry => exact congrArg some (represents.shown_row (List.mem_of_find?_eq_some found))

/-- The state of a deposit is set, in the store as in the ledger, if there is a deposit that is
meant. -/
theorem state_set (represents : Represents ledger client) {id : DepositRef}
    (state : DepositState) (moment : Moment) (proper : id.Proper ledger) :
    Follows ledger client (.setDepositState id state, moment) := by
  have records := set_records client.store (client.resolve id) state
  rw [represents.records, List.map_map] at records
  have settled : ∀ entry ∈ ledger.entries,
      ((naming σ).row entry).settled (client.resolve id) state =
        (naming σ).row (if id.names entry then { entry with state } else entry) := by
    intro entry member
    have named := represents.resolves proper member
    by_cases hit : id.names entry = true
    · rw [DepositRecord.settled, if_pos (named.mpr hit), if_pos hit]
      rfl
    · rw [DepositRecord.settled, if_neg (mt named.mp hit), if_neg hit]
  have following : Represents (ledger.update id.names (fun entry => { entry with state })).2
      ({ client with store := (Store.setDepositState client.store (client.resolve id) state).2 } :
        Client σ) := by
    apply represents.updated id.names (fun entry => { entry with state }) (fun _ => rfl)
      (fun _ => rfl) (fun _ => rfl) (set_institutions _ _ _) _
      (fun number => NamingStore.set_numbered _ _ _ number)
    rw [records, List.map_map]
    exact List.map_congr_left settled
  refine ⟨?_, following⟩
  apply Eq.trans _ following.updated_answer
  simp only [Client.perform, NamingStore.set_answer, represents.find_ref proper, Option.map_map]
  congr 1
  cases found : ledger.entries.find? id.names with
  | none => rfl
  | some entry =>
    have hit := List.find?_some found
    have changed := settled entry (List.mem_of_find?_eq_some found)
    rw [if_pos hit] at changed
    exact congrArg (fun record => some (client.shown record)) changed

/-- The entries with the key of a match observe it, and the record of the first one is
answered. -/
theorem match_applied (represents : Represents ledger client) {stealthPubkeyHex : String}
    {onChainAddress : String} {amount : Nat} {state : String} (moment : Moment)
    (digits : KeyHex stealthPubkeyHex) (address : columnText onChainAddress)
    (word : columnText state) (small : amount < numericLimit) :
    Follows ledger client
      (.applyOnChainMatch stealthPubkeyHex onChainAddress amount state, moment) := by
  obtain ⟨stored, applied, institutions, records, numbered⟩ := NamingStore.match_named
    client.store moment stealthPubkeyHex onChainAddress amount state address word small
  let hit : Entry → Bool := fun entry => entry.create.stealthPubkey = keyOf stealthPubkeyHex
  let change : Entry → Entry := fun entry =>
    entry.observe ⟨onChainAddress, amount, state, moment⟩
  have observed : ∀ entry, ((naming σ).row entry).observe onChainAddress amount state
      ((naming σ).time moment) = (naming σ).row (change entry) := fun _ => rfl
  have touched : ∀ entry ∈ ledger.entries,
      touches client.store stealthPubkeyHex ((naming σ).row entry) = hit entry :=
    fun _ => represents.touches_key digits
  have following : Represents (ledger.update hit change).2
      ({ client with store := stored } : Client σ) := by
    apply represents.updated hit change (fun _ => rfl) (fun _ => rfl) (fun _ => rfl)
      institutions _ numbered
    rw [records, represents.records, List.map_map, List.map_map]
    apply List.map_congr_left
    intro entry member
    simp only [Function.comp_apply, touched entry member, observed]
    split
    · rfl
    · rfl
  have found : (LawfulStore.records client.store).find? (touches client.store stealthPubkeyHex) =
      (ledger.entries.find? hit).map (naming σ).row := by
    rw [represents.records, List.find?_map]
    congr 1
    exact List.find?_congr touched
  constructor
  · apply Eq.trans _ following.updated_answer
    simp only [Client.perform, applied, found, Option.map_map]
    rfl
  · simp only [Client.perform, applied]
    exact following

/-- The newest deposits of an institution are listed, 200 of them without a limit and
otherwise as many as the number says that the limit becomes. -/
theorem deposits_listed (represents : Represents ledger client) (institutionId : String)
    {limit : Option Nat} {moment : Moment}
    (bounded : BigintLimit (.listInstitutionDeposits institutionId limit, moment)) :
    Follows ledger client (.listInstitutionDeposits institutionId limit, moment) := by
  have fits : (limitArgument limit).atMost (2 ^ 63 - 1) = true := bounded
  obtain ⟨count, given⟩ : ∃ count : Nat, limitArgument limit = .finite count := by
    cases limit with
    | none => exact ⟨200, rfl⟩
    | some asked =>
      rcases nearest_natural asked with infinite | rounded
      · rw [limitArgument, infinite] at fits
        cases fits
      · exact rounded
  have below : count < 2 ^ 63 := by
    rw [given, Double.atMost, decide_eq_true_iff] at fits
    have whole : ((count : ℤ) : ℚ) ≤ ((2 ^ 63 - 1 : ℤ) : ℚ) := by rwa [Int.cast_natCast]
    have bound := Int.cast_le.mp whole
    omega
  obtain ⟨listed, found, shown⟩ := represents.listed institutionId below
  have taken : (Double.finite (count : ℚ)).toInt.toNat = count := by simp [Double.toInt]
  simp only [Follows, Client.perform, Ledger.next, given, taken, found, shown, true_and]
  exact represents

/-- Under the contract a client of the store answers as the ledger does, and still represents it:
the step of the simulation, operation by operation. -/
theorem next (represents : Represents ledger client) {call : Operation × Moment}
    (contract : Contract ledger call) (bounded : BigintLimit call) :
    Follows ledger client call := by
  obtain ⟨operation, moment⟩ := call
  cases operation with
  | putInstitution inst => exact represents.institution_put contract
  | findByApiKey apiKey =>
    refine ⟨?_, represents⟩
    simp only [Client.perform, Ledger.next, find_by_api_key, represents.institutions]
  | getInstitution id =>
    refine ⟨?_, represents⟩
    simp only [Client.perform, Ledger.next, NamingStore.get_institution, represents.institutions]
    rfl
  | createDeposit record => exact represents.created contract
  | getDeposit id => exact represents.deposit_read moment contract
  | setDepositState id state => exact represents.state_set state moment contract
  | applyOnChainMatch stealthPubkeyHex onChainAddress amount state =>
    obtain ⟨digits, address, word, small⟩ := contract
    exact represents.match_applied moment digits address word small
  | listInstitutionDeposits institutionId limit =>
    exact represents.deposits_listed institutionId bounded

end Represents

/-- A client of a store answers as the ledger that the store represents. -/
theorem client_refines (represents : Represents ledger client) {calls : List (Operation × Moment)}
    (admissible : Along Ledger.next (fun ledger call => Contract ledger call ∧ BigintLimit call)
      ledger calls) :
    outputs Client.perform client calls = outputs Ledger.next ledger calls := by
  apply outputs_simulated Represents _ represents admissible
  rintro ledger client call represents ⟨contract, bounded⟩
  exact represents.next contract bounded

end Refinement

/-- A new store in memory stands for the empty ledger. -/
theorem memory_represents : Represents Ledger.empty (Client.new MemoryStore.new) :=
  ⟨Ledger.empty_sound, rfl, rfl, rfl, rfl⟩

/-- So does a new database. -/
theorem postgres_represents : Represents Ledger.empty (Client.new PostgresStore.new) :=
  ⟨Ledger.empty_sound, rfl, rfl, rfl, trivial⟩

/-- The two stores, each with its own way to write a match, to upsert and to order, give the same
answers to the same operations from the empty store on, as long as each operation is within the
contract that both can hold and its limit, if any, is one that a `bigint` takes.

Proof: both are refined by one abstract ledger. What each holds represents the ledger's records,
every operation within the contract keeps that, and it answers from what is represented. -/
theorem stores_agree {calls : List (Operation × Moment)}
    (admissible : Along Ledger.next (fun ledger call => Contract ledger call ∧ BigintLimit call)
      Ledger.empty calls) :
    outputs Client.perform (Client.new MemoryStore.new) calls =
      outputs Client.perform (Client.new PostgresStore.new) calls := by
  rw [client_refines memory_represents admissible, client_refines postgres_represents admissible]

namespace Local

/-- A deposit of the institution under that key. -/
def depositOf (key : Nat) : DepositCreate where
  institutionId := institution.id
  customerId := "C-1"
  amountHint := 500
  mint := "SOL"
  stealthPubkey := Digits.toLittleEndian 32 key
  ephemeralR := Digits.toLittleEndian 32 1
  viewTag := 7
  refundAddr := Digits.toLittleEndian 32 6
  expiresAt := 3600000

/-- Two deposits, of which one is paid and approved, and what is read of them. -/
def session : List (Operation × Moment) :=
  [(.putInstitution institution, ⟨900, 890, 1⟩),
    (.createDeposit (depositOf 8), ⟨1000, 990, 2⟩),
    (.createDeposit (depositOf 9), ⟨2000, 1995, 2⟩),
    (.applyOnChainMatch (bytesToHex (Digits.toLittleEndian 32 8)) "deposit" 500 "pending",
      ⟨3000, 2990, 3⟩),
    (.setDepositState (.created 0) .approved, ⟨3100, 3090, 4⟩),
    (.getDeposit (.created 0), ⟨3200, 3190, 5⟩),
    (.getDeposit (.other "none"), ⟨3300, 3290, 6⟩),
    (.findByApiKey institution.apiKey, ⟨3400, 3390, 7⟩),
    (.getInstitution institution.id, ⟨3500, 3490, 8⟩),
    (.listInstitutionDeposits institution.id (some 1), ⟨3600, 3590, 9⟩)]

/-- Both stores answer the session alike. -/
theorem session_agrees : outputs Client.perform (Client.new MemoryStore.new) session =
    outputs Client.perform (Client.new PostgresStore.new) session :=
  stores_agree (by decide +kernel)

/-- A listing that the database refuses, and the process does not. -/
def wideListing : Operation × Moment :=
  (.listInstitutionDeposits institution.id (some (2 ^ 63)), ⟨1000, 1000, 0⟩)

/-- A limit that is no `bigint` is within the contract, and told by the stores apart. -/
theorem wide_listing_differs : Along Ledger.next Contract Ledger.empty [wideListing] ∧
    outputs Client.perform (Client.new MemoryStore.new) [wideListing] ≠
      outputs Client.perform (Client.new PostgresStore.new) [wideListing] := by
  constructor
  · decide +kernel
  · decide +kernel

end Local

end GPay.Gateway
