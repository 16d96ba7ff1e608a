import GPay.Gateway.Effects
import GPay.Runs

/-!
# What a store is for

A ledger of institutions and of the deposits created for them, in the order of their
creation. A client refers to a deposit by the number of its creation, as it cannot know
the identifier that a store will choose, and is shown everything of a record but the
identifiers and the times that the store chose.

The contract says what a client may ask: distinct API keys, deposits of institutions
that are stored, keys, identifiers and creation times of their own, and numbers, times
and texts that the columns hold. Under it the ledger stays sound.
-/

namespace GPay.Gateway

open Doubles Tables Runs LawfulStore
open Quarantine (DepositState)

/-- A deposit as a client refers to it: the one created as that many others had been,
or a text that is no deposit's identifier. -/
inductive DepositRef where
  | created (index : Nat)
  | other (text : String)

/-- The operations of the interface with their arguments. The state of a match is any
text; a limit is a natural, or left out. -/
inductive Operation where
  | putInstitution (inst : Institution)
  | findByApiKey (apiKey : String)
  | getInstitution (id : String)
  | createDeposit (record : DepositCreate)
  | getDeposit (id : DepositRef)
  | setDepositState (id : DepositRef) (state : DepositState)
  | applyOnChainMatch (stealthPubkeyHex onChainAddress : String) (amount : Nat)
      (state : String)
  | listInstitutionDeposits (institutionId : String) (limit : Option Nat)

/-- A record as a client is shown it. Of the time of its observation it is only known
whether there is one. -/
structure Shown where
  index : Option Nat
  create : DepositCreate
  state : DepositState
  onChainAddress : Option String
  onChainAmount : Option Nat
  onChainState : Option String
  observed : Bool
  deriving DecidableEq

/-- What a client is answered: the interface's results with records as they are shown, or
the refusal of the store. -/
inductive Answer where
  | done
  | institution (found : Option Institution)
  | deposit (found : Option Shown)
  | deposits (listed : List Shown)
  | failed (error : StoreError)
  deriving DecidableEq

/-- The limit of a listing as the stores are given it, a number of the language: of a
natural with more bits than a double holds it is the nearest one. -/
def limitArgument (limit : Option Nat) : Double :=
  match limit with
  | none => defaultLimit
  | some limit => nearest limit

/-- A store and the identifiers that its creations have answered. It names a deposit by the
number of its creation, whatever the store has called it. -/
structure Client (σ : Type) where
  store : σ
  ids : List String

namespace Client

variable {σ : Type} [Store σ]

/-- A client that has created nothing yet. -/
def new (store : σ) : Client σ := ⟨store, []⟩

/-- The identifier that stands for the deposit in this store: the one that its creation has
answered, or a text as it is. -/
def resolve (client : Client σ) : DepositRef → String
  | .created index => client.ids.getD index ""
  | .other text => text

/-- What is shown of a record. -/
def shown (client : Client σ) (record : DepositRecord) : Shown where
  index := client.ids.idxOf? record.id
  create := record.toDepositCreate
  state := record.state
  onChainAddress := record.onChainAddress
  onChainAmount := record.onChainAmount
  onChainState := record.onChainState
  observed := record.onChainObservedAt.isSome

/-- One operation at a moment. What fails leaves the store alone, and is answered as a
failure. -/
def perform (client : Client σ) (call : Operation × Moment) : Answer × Client σ :=
  match call.1 with
  | .putInstitution inst =>
      match Store.putInstitution client.store inst with
      | .error error => (.failed error, client)
      | .ok store => (.done, { client with store })
  | .findByApiKey apiKey => (.institution (Store.findByApiKey client.store apiKey), client)
  | .getInstitution id => (.institution (Store.getInstitution client.store id), client)
  | .createDeposit record =>
      match Store.createDeposit client.store call.2 record with
      | .error error => (.failed error, client)
      | .ok (deposit, store) =>
          let following : Client σ := ⟨store, client.ids ++ [deposit.id]⟩
          (.deposit (some (following.shown deposit)), following)
  | .getDeposit id =>
      (.deposit ((Store.getDeposit client.store (client.resolve id)).map client.shown), client)
  | .setDepositState id state =>
      let (found, store) := Store.setDepositState client.store (client.resolve id) state
      (.deposit (found.map client.shown), { client with store })
  | .applyOnChainMatch stealthPubkeyHex onChainAddress amount state =>
      match Store.applyOnChainMatch client.store call.2 stealthPubkeyHex onChainAddress amount
          state with
      | .error error => (.failed error, client)
      | .ok (found, store) => (.deposit (found.map client.shown), { client with store })
  | .listInstitutionDeposits institutionId limit =>
      match Store.listInstitutionDeposits client.store institutionId (limitArgument limit) with
      | .error error => (.failed error, client)
      | .ok listed => (.deposits (listed.map client.shown), client)

end Client

/-- What has been seen of a payment, and the moment when it was delivered. -/
structure Observation where
  address : String
  amount : Nat
  state : String
  moment : Moment

/-- A deposit of the ledger, by the number and the moment of its creation. -/
structure Entry where
  index : Nat
  moment : Moment
  create : DepositCreate
  state : DepositState
  onChain : Option Observation

namespace Entry

/-- What is shown of a deposit that the ledger knows. -/
def shown (entry : Entry) : Shown where
  index := some entry.index
  create := entry.create
  state := entry.state
  onChainAddress := entry.onChain.map Observation.address
  onChainAmount := entry.onChain.map Observation.amount
  onChainState := entry.onChain.map Observation.state
  observed := entry.onChain.isSome

/-- An observation is noted, and its state becomes the deposit's own where it closes it, that is,
unless it is `pending`. -/
def observe (entry : Entry) (observation : Observation) : Entry :=
  { entry with
    onChain := some observation
    state := (closing observation.state).getD entry.state }

end Entry

/-- The entry is the one referred to. -/
def DepositRef.names : DepositRef → Entry → Bool
  | .created index, entry => entry.index = index
  | .other _, _ => false

/-- The institutions by their identifiers, and the deposits in the order of their creation. This
is what both stores are for, without identifiers, times or tables. -/
structure Ledger where
  institutions : Table Institution Institution.id
  entries : List Entry

/-- The newest first, by the clock of the process. -/
def newestEntries (entries : List Entry) : List Entry :=
  entries.insertionSort (fun left right => right.moment.now ≤ left.moment.now)

/-- The key that a text in hexadecimal stands for. -/
def keyOf (stealthPubkeyHex : String) : List UInt8 := Text.decodeHex stealthPubkeyHex.toList

namespace Ledger

/-- A ledger of nothing. -/
def empty : Ledger := ⟨.empty, []⟩

/-- Change the entries that meet a condition; the first of them is the answer. -/
def update (ledger : Ledger) (hit : Entry → Bool) (change : Entry → Entry) : Answer × Ledger :=
  (.deposit ((ledger.entries.find? hit).map (fun entry => (change entry).shown)),
    { ledger with
      entries := ledger.entries.map (fun entry => if hit entry then change entry else entry) })

/-- What an operation answers, and the ledger after it: what both stores are to do, said once. -/
def next (ledger : Ledger) (call : Operation × Moment) : Answer × Ledger :=
  match call.1 with
  | .putInstitution inst => (.done, { ledger with institutions := ledger.institutions.put inst })
  | .findByApiKey apiKey =>
      (.institution (ledger.institutions.rows.find? (fun inst => inst.apiKey = apiKey)), ledger)
  | .getInstitution id => (.institution (ledger.institutions.get id), ledger)
  | .createDeposit record =>
      let entry : Entry := ⟨ledger.entries.length, call.2, record, .pending, none⟩
      (.deposit (some entry.shown), { ledger with entries := ledger.entries ++ [entry] })
  | .getDeposit id => (.deposit ((ledger.entries.find? id.names).map Entry.shown), ledger)
  | .setDepositState id state => ledger.update id.names (fun entry => { entry with state })
  | .applyOnChainMatch stealthPubkeyHex onChainAddress amount state =>
      ledger.update (fun entry => entry.create.stealthPubkey = keyOf stealthPubkeyHex)
        (fun entry => entry.observe ⟨onChainAddress, amount, state, call.2⟩)
  | .listInstitutionDeposits institutionId limit =>
      let own := ledger.entries.filter (fun entry => entry.create.institutionId = institutionId)
      let count := (limitArgument limit).toInt.toNat
      (.deposits (((newestEntries own).take count).map Entry.shown), ledger)

end Ledger

/-- The identifiers and the times that a store gives to deposits, by the number and the moment of
their creation. -/
structure Naming where
  id : Nat → Moment → String
  time : Moment → Int

/-- The record of an entry under the names of a store, column by column. -/
def Naming.row (naming : Naming) (entry : Entry) : DepositRecord :=
  { entry.create with
    id := naming.id entry.index entry.moment
    createdAt := naming.time entry.moment
    state := entry.state
    onChainAddress := entry.onChain.map Observation.address
    onChainAmount := entry.onChain.map Observation.amount
    onChainState := entry.onChain.map Observation.state
    onChainObservedAt := entry.onChain.map (fun observation => naming.time observation.moment) }

/-- Numbers counted up, under the clock of the process. -/
def MemoryStore.naming : Naming := ⟨fun index _ => depositId (index + 1), Moment.now⟩

/-- A time and a random number, under the clock of the database. -/
def PostgresStore.naming : Naming where
  id _ moment := s!"dep_{toBase36 moment.now.toNat}_{toBase36 moment.random}"
  time := Moment.databaseNow

/-- The names that the two stores give. -/
def namings : List Naming := [MemoryStore.naming, PostgresStore.naming]

/-- Both clocks say of the same moment of two that it is the earlier one, so that both stores
list the two deposits in the same order. -/
def InOrder (left right : Moment) : Prop :=
  (∀ naming ∈ namings, naming.time left < naming.time right) ∨
    ∀ naming ∈ namings, naming.time right < naming.time left

/-- A deposit that was created, or a text that neither store gave to one. -/
def DepositRef.Proper (ledger : Ledger) : DepositRef → Prop
  | .created index => index < ledger.entries.length
  | .other text => columnText text ∧ ∀ naming ∈ namings, ∀ entry ∈ ledger.entries,
      naming.id entry.index entry.moment ≠ text

/-- 64 hexadecimal digits in lower case. -/
def KeyHex (text : String) : Prop :=
  text.toList.length = 64 ∧ ∀ char ∈ text.toList, char ∈ Text.hexAlphabet.chars

/-- A size that an entry of an index is certain to have room for. The database keeps its
identifiers and its keys in indexes, whose entries it limits to 2704 bytes. -/
def indexLimit : Nat := 2000

/-- A text that may be looked for, or stored under an index. -/
def keyText (text : String) : Bool := columnText text && text.utf8ByteSize ≤ indexLimit

/-- A deposit that may be added: it is of an institution that is stored, its texts, its
numbers and its expiry fit their columns, and its key, its identifier and the time of its
creation are its own. -/
structure Creatable (ledger : Ledger) (record : DepositCreate) (moment : Moment) : Prop where
  known : record.institutionId ∈ ledger.institutions.rows.map Institution.id
  texts : columnText record.institutionId ∧ columnText record.customerId ∧ columnText record.mint
  expiry : columnTime record.expiresAt
  numeric : record.amountHint < numericLimit
  smallint : record.viewTag < smallintLimit
  indexed : record.stealthPubkey.length ≤ indexLimit
  key : ∀ entry ∈ ledger.entries, entry.create.stealthPubkey ≠ record.stealthPubkey
  id : ∀ naming ∈ namings, ∀ entry ∈ ledger.entries,
    naming.id entry.index entry.moment ≠ naming.id ledger.entries.length moment
  time : ∀ entry ∈ ledger.entries, InOrder entry.moment moment

/-- An institution that may be put: its texts fit their columns, and its API key is no
other institution's. -/
structure Puttable (ledger : Ledger) (inst : Institution) : Prop where
  keys : keyText inst.id ∧ keyText inst.apiKey
  webhook : inst.webhookUrl.all columnText
  distinct : ∀ other ∈ ledger.institutions.rows, other.id ≠ inst.id → other.apiKey ≠ inst.apiKey

/-- What is asked of an operation apart from a limit: distinct keys, identifiers and times,
and in each text, number and time something that a column holds. -/
def Contract (ledger : Ledger) (call : Operation × Moment) : Prop :=
  match call.1 with
  | .putInstitution inst => Puttable ledger inst
  | .createDeposit record => Creatable ledger record call.2
  | .getDeposit id | .setDepositState id _ => id.Proper ledger
  | .applyOnChainMatch stealthPubkeyHex onChainAddress amount state =>
      KeyHex stealthPubkeyHex ∧ columnText onChainAddress ∧ columnText state ∧
        amount < numericLimit
  | .findByApiKey text | .getInstitution text | .listInstitutionDeposits text _ =>
      columnText text

/-- A limit that is given fits a `BIGINT` as the number of the language that it becomes. -/
def BigintLimit (call : Operation × Moment) : Prop :=
  match call.1 with
  | .listInstitutionDeposits _ limit => (limitArgument limit).atMost (2 ^ 63 - 1)
  | _ => True

instance (left right : Moment) : Decidable (InOrder left right) :=
  inferInstanceAs (Decidable (_ ∨ _))

instance (ledger : Ledger) : (id : DepositRef) → Decidable (id.Proper ledger)
  | .created index => inferInstanceAs (Decidable (index < ledger.entries.length))
  | .other text => inferInstanceAs (Decidable (columnText text ∧ ∀ naming ∈ namings,
      ∀ entry ∈ ledger.entries, naming.id entry.index entry.moment ≠ text))

-- The characters of the text are gone through, not the whole type of characters.
instance (text : String) : Decidable (KeyHex text) :=
  have : Decidable (∀ char ∈ text.toList, char ∈ Text.hexAlphabet.chars) := List.decidableBAll _ _
  inferInstanceAs (Decidable (_ ∧ _))

instance (ledger : Ledger) (record : DepositCreate) (moment : Moment) :
    Decidable (Creatable ledger record moment) :=
  decidable_of_iff
    (record.institutionId ∈ ledger.institutions.rows.map Institution.id ∧
      (columnText record.institutionId ∧ columnText record.customerId ∧
        columnText record.mint) ∧ columnTime record.expiresAt ∧
      record.amountHint < numericLimit ∧ record.viewTag < smallintLimit ∧
      record.stealthPubkey.length ≤ indexLimit ∧
      (∀ entry ∈ ledger.entries, entry.create.stealthPubkey ≠ record.stealthPubkey) ∧
      (∀ naming ∈ namings, ∀ entry ∈ ledger.entries,
        naming.id entry.index entry.moment ≠ naming.id ledger.entries.length moment) ∧
      ∀ entry ∈ ledger.entries, InOrder entry.moment moment)
    ⟨fun ⟨known, texts, expiry, numeric, smallint, indexed, key, id, time⟩ =>
        ⟨known, texts, expiry, numeric, smallint, indexed, key, id, time⟩,
      fun creatable => ⟨creatable.known, creatable.texts, creatable.expiry, creatable.numeric,
        creatable.smallint, creatable.indexed, creatable.key, creatable.id, creatable.time⟩⟩

instance (ledger : Ledger) (inst : Institution) : Decidable (Puttable ledger inst) :=
  decidable_of_iff
    ((keyText inst.id ∧ keyText inst.apiKey) ∧ inst.webhookUrl.all columnText ∧
      ∀ other ∈ ledger.institutions.rows, other.id ≠ inst.id → other.apiKey ≠ inst.apiKey)
    ⟨fun ⟨keys, webhook, distinct⟩ => ⟨keys, webhook, distinct⟩,
      fun puttable => ⟨puttable.keys, puttable.webhook, puttable.distinct⟩⟩

instance (ledger : Ledger) : (call : Operation × Moment) → Decidable (Contract ledger call)
  | (.putInstitution inst, _) => inferInstanceAs (Decidable (Puttable ledger inst))
  | (.createDeposit record, moment) => inferInstanceAs (Decidable (Creatable ledger record moment))
  | (.getDeposit id, _) => inferInstanceAs (Decidable (id.Proper ledger))
  | (.setDepositState id _, _) => inferInstanceAs (Decidable (id.Proper ledger))
  | (.applyOnChainMatch stealthPubkeyHex onChainAddress amount state, _) =>
      inferInstanceAs (Decidable (KeyHex stealthPubkeyHex ∧ columnText onChainAddress ∧
        columnText state ∧ amount < numericLimit))
  | (.findByApiKey text, _) => inferInstanceAs (Decidable (columnText text = true))
  | (.getInstitution text, _) => inferInstanceAs (Decidable (columnText text = true))
  | (.listInstitutionDeposits text _, _) => inferInstanceAs (Decidable (columnText text = true))

instance : (call : Operation × Moment) → Decidable (BigintLimit call)
  | (.listInstitutionDeposits _ limit, _) =>
      inferInstanceAs (Decidable ((limitArgument limit).atMost (2 ^ 63 - 1) = true))
  | (.putInstitution _, _) => isTrue trivial
  | (.findByApiKey _, _) => isTrue trivial
  | (.getInstitution _, _) => isTrue trivial
  | (.createDeposit _, _) => isTrue trivial
  | (.getDeposit _, _) => isTrue trivial
  | (.setDepositState _ _, _) => isTrue trivial
  | (.applyOnChainMatch _ _ _ _, _) => isTrue trivial

/-- A ledger as it is kept under its contract: its entries are numbered in order, with
keys of their own and at moments in order, and so are the API keys of its institutions. -/
structure Ledger.Sound (ledger : Ledger) : Prop where
  numbered : ledger.entries.map Entry.index = List.range ledger.entries.length
  keys : (ledger.entries.map (fun entry => entry.create.stealthPubkey)).Nodup
  ordered : (ledger.entries.map Entry.moment).Pairwise InOrder
  apiKeys : (ledger.institutions.rows.map Institution.apiKey).Nodup

/-- Nothing is out of order in a ledger of nothing. -/
theorem Ledger.empty_sound : Ledger.empty.Sound := by
  refine ⟨rfl, ?_, ?_, ?_⟩ <;> simp [empty, Table.empty]

/-- With an API key of its own an institution may be put among the others. -/
theorem put_api_keys {table : Table Institution Institution.id} {inst : Institution}
    (apiKeys : (table.rows.map Institution.apiKey).Nodup)
    (own : ∀ other ∈ table.rows, other.id ≠ inst.id → other.apiKey ≠ inst.apiKey) :
    ((table.put inst).rows.map Institution.apiKey).Nodup := by
  unfold Table.put
  split
  · show ((table.rows.map _).map Institution.apiKey).Nodup
    rw [List.map_map]
    apply List.Nodup.map_on _ (List.Nodup.of_map _ table.distinct)
    intro left inLeft right inRight same
    simp only [Function.comp_apply] at same
    by_cases first : left.id = inst.id
    · by_cases second : right.id = inst.id
      · exact table.unique inLeft inRight (first.trans second.symm)
      · rw [if_pos first, if_neg second] at same
        exact absurd same.symm (own right inRight second)
    · by_cases second : right.id = inst.id
      · rw [if_neg first, if_pos second] at same
        exact absurd same (own left inLeft first)
      · rw [if_neg first, if_neg second] at same
        exact List.inj_on_of_nodup_map apiKeys inLeft inRight same
  · rename_i absent
    show ((table.rows ++ [inst]).map Institution.apiKey).Nodup
    rw [List.map_append, List.nodup_append]
    refine ⟨apiKeys, by simp, ?_⟩
    intro left inside right last same
    obtain ⟨other, member, rfl⟩ := List.mem_map.mp inside
    rw [List.map_singleton, List.mem_singleton] at last
    exact own other member (fun named => absent (List.mem_map.mpr ⟨other, member, named⟩))
      (same.trans last)

/-- Changes that leave numbers, moments and keys alone keep a ledger sound. -/
theorem Ledger.Sound.update {ledger : Ledger} (sound : ledger.Sound) (hit : Entry → Bool)
    {change : Entry → Entry} (index : ∀ entry, (change entry).index = entry.index)
    (moment : ∀ entry, (change entry).moment = entry.moment)
    (create : ∀ entry, (change entry).create = entry.create) :
    (ledger.update hit change).2.Sound := by
  have kept : ∀ {β : Type} (field : Entry → β), (∀ entry, field (change entry) = field entry) →
      (ledger.update hit change).2.entries.map field = ledger.entries.map field := by
    intro β field same
    show (ledger.entries.map _).map field = _
    rw [List.map_map]
    apply List.map_congr_left
    intro entry _
    simp only [Function.comp_apply]
    split
    · exact same entry
    · rfl
  refine ⟨?_, ?_, ?_, sound.apiKeys⟩
  · rw [kept _ index, sound.numbered]
    exact congrArg List.range (List.length_map _).symm
  · rw [kept _ (fun entry => by rw [create])]
    exact sound.keys
  · rw [kept _ moment]
    exact sound.ordered

/-- A sound ledger stays sound under its contract, operation by operation. -/
theorem Ledger.Sound.next {ledger : Ledger} (sound : ledger.Sound) {call : Operation × Moment}
    (contract : Contract ledger call) : (ledger.next call).2.Sound := by
  obtain ⟨operation, moment⟩ := call
  cases operation with
  | putInstitution inst =>
    have puttable : Puttable ledger inst := contract
    exact ⟨sound.numbered, sound.keys, sound.ordered,
      put_api_keys sound.apiKeys puttable.distinct⟩
  | createDeposit record =>
    have creatable : Creatable ledger record moment := contract
    refine ⟨?_, ?_, ?_, sound.apiKeys⟩
    · simp [Ledger.next, sound.numbered, List.range_succ]
    · simp only [Ledger.next, List.map_append, List.nodup_append]
      refine ⟨sound.keys, by simp, ?_⟩
      intro key inside other last same
      obtain ⟨entry, member, rfl⟩ := List.mem_map.mp inside
      rw [List.map_singleton, List.mem_singleton] at last
      exact creatable.key entry member (same.trans last)
    · simp only [Ledger.next, List.map_append, List.pairwise_append]
      refine ⟨sound.ordered, by simp, ?_⟩
      intro earlier inside later last
      obtain ⟨entry, member, rfl⟩ := List.mem_map.mp inside
      rw [List.map_singleton, List.mem_singleton] at last
      rw [last]
      exact creatable.time entry member
  | setDepositState id state => exact sound.update _ (fun _ => rfl) (fun _ => rfl) (fun _ => rfl)
  | applyOnChainMatch stealthPubkeyHex onChainAddress amount state =>
    exact sound.update _ (fun _ => rfl) (fun _ => rfl) (fun _ => rfl)
  | _ => exact sound

/-- The times that a store gives order the entries as the clock of the process does, for either
store. -/
theorem Ledger.Sound.agree {ledger : Ledger} (sound : ledger.Sound) {naming : Naming}
    (listed : naming ∈ namings) {left right : Entry} (inLeft : left ∈ ledger.entries)
    (inRight : right ∈ ledger.entries) :
    right.moment.now ≤ left.moment.now ↔
      naming.time right.moment ≤ naming.time left.moment := by
  let Agree : Moment → Moment → Prop := fun first second =>
    (second.now ≤ first.now ↔ naming.time second ≤ naming.time first) ∧
      (first.now ≤ second.now ↔ naming.time first ≤ naming.time second)
  have symmetric : Std.Symm Agree := ⟨fun _ _ => And.symm⟩
  have process : MemoryStore.naming ∈ namings := by simp [namings]
  have agreed : (ledger.entries.map Entry.moment).Pairwise Agree := by
    apply sound.ordered.imp
    rintro first second (earlier | later)
    · have now : first.now < second.now := earlier _ process
      have time := earlier _ listed
      exact ⟨iff_of_false (by omega) (by omega), iff_of_true (by omega) (by omega)⟩
    · have now : second.now < first.now := later _ process
      have time := later _ listed
      exact ⟨iff_of_true (by omega) (by omega), iff_of_false (by omega) (by omega)⟩
  have all := List.Pairwise.forall_of_forall
    (fun first _ => (⟨by simp, by simp⟩ : Agree first first)) agreed
  exact (all (List.mem_map_of_mem inLeft) (List.mem_map_of_mem inRight)).1

end GPay.Gateway
