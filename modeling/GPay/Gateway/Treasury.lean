import GPay.Gateway.Decimals
import GPay.Gateway.Tenants

/-!
# What the treasury is shown

The totals of an institution and the list of its newest records are read off what the
store lists. The totals stop at the store's own limit. The list is cut at the limit of
the query, which is bounded from above only: a negative one counts from the end in the
process, and is an error in the database.
-/

namespace GPay.Gateway

open Doubles
open Quarantine (DepositState)

/-- So many records as are asked for, the newest of all, newest first: none that is left out was
created after one that is listed. -/
structure Newest (count : Nat) (records listed : List DepositRecord) : Prop where
  length : listed.length = min count records.length
  ordered : listed.Pairwise (fun left right => right.createdAt ≤ left.createdAt)
  chosen : ∃ rest, (listed ++ rest).Perm records ∧
    ∀ shown ∈ listed, ∀ left ∈ rest, left.createdAt ≤ shown.createdAt

/-- Putting the newest first loses no record. -/
theorem newest_first_perm (records : List DepositRecord) : (newestFirst records).Perm records :=
  List.perm_insertionSort _ records

/-- No record stands before a newer one. -/
theorem newest_first_ordered (records : List DepositRecord) :
    (newestFirst records).Pairwise (fun left right => right.createdAt ≤ left.createdAt) := by
  have total : Std.Total (fun left right : DepositRecord => right.createdAt ≤ left.createdAt) :=
    ⟨fun left right => le_total right.createdAt left.createdAt⟩
  have transitive :
      IsTrans DepositRecord (fun left right => right.createdAt ≤ left.createdAt) :=
    ⟨fun _ _ _ first second => second.trans first⟩
  exact List.pairwise_insertionSort _ records

/-- The first of the records in their order are the newest. -/
theorem newest_take (count : Nat) (records : List DepositRecord) :
    Newest count records ((newestFirst records).take count) := by
  have ordered := newest_first_ordered records
  have parts := List.take_append_drop count (newestFirst records)
  refine ⟨?_, ordered.sublist (List.take_sublist _ _), (newestFirst records).drop count, ?_, ?_⟩
  · rw [List.length_take, (newest_first_perm records).length_eq]
  · rw [parts]
    exact newest_first_perm records
  · rw [← parts, List.pairwise_append] at ordered
    exact ordered.2.2

/-- How often a state is counted. -/
def counted (counts : List (String × Nat)) (state : String) : Nat :=
  ((counts.find? (fun count => count.1 = state)).map Prod.snd).getD 0

/-- Counting a state adds one to it, and nothing to the others, wherever it stands among the
counts. -/
theorem counted_count (counts : List (String × Nat)) (state other : String) :
    counted (countState counts state) other =
      counted counts other + if other = state then 1 else 0 := by
  unfold countState
  split
  · rename_i present
    have names : (fun count : String × Nat => decide (count.1 = other)) ∘
        (fun count => if count.1 = state then (state, count.2 + 1) else count) =
          fun count => decide (count.1 = other) := by
      funext count
      by_cases same : count.1 = state
      · simp [same]
      · simp [same]
    rw [counted, counted, List.find?_map, names]
    cases found : counts.find? (fun count => count.1 = other) with
    | none =>
      have absent : other ≠ state := by
        rintro rfl
        obtain ⟨count, member, same⟩ := List.mem_map.mp present
        simpa [same] using List.find?_eq_none.mp found count member
      simp [absent]
    | some count =>
      have same : count.1 = other := by simpa using List.find?_some found
      by_cases here : other = state
      · simp [same, here]
      · simp [same, here]
  · rename_i absent
    rw [counted, counted, List.find?_append]
    cases found : counts.find? (fun count => count.1 = other) with
    | none =>
      by_cases here : other = state
      · simp [here]
      · simp [here, Ne.symm here]
    | some count =>
      have same : count.1 = other := by simpa using List.find?_some found
      have different : other ≠ state := by
        rintro rfl
        exact absent (List.mem_map.mpr ⟨count, List.mem_of_find?_eq_some found, same⟩)
      simp [different]

/-- What is counted of a list of records. -/
theorem counted_records (deposits : List DepositRecord) (state : String) :
    counted (deposits.foldl (fun counts d => countState counts (stateText d.state)) []) state =
      deposits.countP (fun d => stateText d.state = state) := by
  induction deposits using List.reverseRecOn with
  | nil => rfl
  | append_singleton deposits last counted_before =>
    rw [List.foldl_append, List.foldl_cons, List.foldl_nil, counted_count, counted_before,
      List.countP_append]
    by_cases same : state = stateText last.state
    · simp [same]
    · simp [same, Ne.symm same]

/-- Different states have different words. -/
theorem state_text_injective : Function.Injective stateText := by
  intro left right same
  cases left <;> cases right <;> simp_all [stateText]

/-- The number that an answer gives for a state, zero for one that it leaves out. -/
def Response.stateCount (response : Response) (state : DepositState) : Option Json :=
  match response.body with
  | .object members =>
      match Json.member members "by_state" with
      | some (.object counts) => some ((Json.member counts (stateText state)).getD (.integer 0))
      | _ => none
  | _ => none

/-- An answer with the number of the records, and of those in each state, also of the states that
no record is in. -/
structure Totals (records : List DepositRecord) (response : Response) : Prop where
  status : response.status = 200
  total : response.number "total" = some (.finite records.length)
  states : ∀ state, response.stateCount state =
    some (.integer (records.countP (fun d => d.state = state)))

/-- The answer about listed records. -/
def totalsAnswer (deposits : List DepositRecord) : Response :=
  .ok [("total", .integer deposits.length), ("by_state", byState deposits)]

/-- The counts as they are written. -/
theorem member_counts (counts : List (String × Nat)) (state : String) :
    (Json.member (counts.map (fun count => (count.1, Json.integer count.2))) state).getD
      (.integer 0) = .integer (counted counts state) := by
  rw [Json.member, List.find?_map, counted]
  have names : (fun entry : String × Json => decide (entry.1 = state)) ∘
      (fun count : String × Nat => (count.1, Json.integer count.2)) =
        fun count => decide (count.1 = state) := rfl
  rw [names]
  cases counts.find? (fun count => count.1 = state) <;> rfl

/-- What is counted is counted right: each state's entry is the number of its records, and states
without one have none. -/
theorem totals_answer (deposits : List DepositRecord) :
    Totals deposits (totalsAnswer deposits) := by
  refine ⟨rfl, ?_, fun state => ?_⟩
  · simp [totalsAnswer, Response.ok, Response.number, Json.member, Json.integer]
  · have texts : deposits.countP (fun d => stateText d.state = stateText state) =
        deposits.countP (fun d => d.state = state) := by
      simp only [state_text_injective.eq_iff]
    rw [← texts, ← counted_records, ← member_counts]
    rfl

/-- The answer's numbers are those of the records it is about. -/
theorem totals_length {records deposits : List DepositRecord}
    (totals : Totals records (totalsAnswer deposits)) : records.length = deposits.length := by
  have same := totals.total.symm.trans (totals_answer deposits).total
  exact_mod_cast Double.finite.inj (Option.some.inj same)

/-- The order of the records does not show in their numbers. -/
theorem Totals.perm {records others : List DepositRecord} {response : Response}
    (totals : Totals records response) (reordered : records.Perm others) :
    Totals others response := by
  obtain ⟨status, total, states⟩ := totals
  refine ⟨status, by rw [← reordered.length_eq]; exact total, fun state => ?_⟩
  rw [← reordered.countP_eq]
  exact states state

/-- An answer with so many of the records, the newest, and with their number. -/
structure Listing (count : Nat) (records : List DepositRecord) (response : Response) : Prop where
  status : response.status = 200
  items : ∃ listed, Newest count records listed ∧ response.body =
    .object [("total", .integer listed.length), ("items", .array (listed.map listItem))]

/-- The answer that lists records. -/
def listAnswer (deposits : List DepositRecord) : Response :=
  .ok [("total", .integer deposits.length), ("items", .array (deposits.map listItem))]

/-- A list that is cut off at a number of the newest records is the listing of a count exactly
when both leave as many of the records. -/
theorem listing_iff (count cut : Nat) (records : List DepositRecord) :
    Listing count records (listAnswer ((newestFirst records).take cut)) ↔
      min cut records.length = min count records.length := by
  have length := (newest_first_perm records).length_eq
  constructor
  · rintro ⟨_, listed, newest, same⟩
    have lengths : ((newestFirst records).take cut).length = listed.length := by
      have members := Json.object.inj same
      simp only [List.cons.injEq, Prod.mk.injEq, Json.integer, Json.number.injEq,
        Double.finite.injEq, Int.cast_natCast, Nat.cast_inj, true_and] at members
      exact members.1
    rw [List.length_take, length, newest.length] at lengths
    exact lengths
  · intro same
    refine ⟨rfl, (newestFirst records).take cut, ?_, rfl⟩
    have taken : (newestFirst records).take cut = (newestFirst records).take count := by
      rw [List.take_eq_take_iff, length]
      exact same
    rw [taken]
    exact newest_take count records

/-- How many records a store lists: so many as a limit leaves of a number of them, unless it
is refused. -/
class ListingStore (σ : Type) extends LawfulStore σ where
  cut : Double → Nat → Option Nat
  listed : ∀ (store : σ) institutionId limit,
    Store.listInstitutionDeposits store institutionId limit =
      match cut limit ((records store).filter
          (fun d => d.institutionId = institutionId)).length with
      | some count => .ok ((newestFirst
          ((records store).filter (fun d => d.institutionId = institutionId))).take count)
      | none => .error .invalidLimit

instance : ListingStore MemoryStore where
  cut limit length := some (sliceEnd limit length)
  listed := by
    intro store institutionId limit
    simp only [Store.listInstitutionDeposits, MemoryStore.listInstitutionDeposits,
      MemoryStore.sort_newest, (newest_first_perm _).length_eq]
    rfl

instance : ListingStore PostgresStore where
  cut limit _ :=
    if limit.isInteger ∧ limit.atLeast 0 ∧ limit.atMost (2 ^ 63 - 1) then some limit.toInt.toNat
    else none
  listed := by
    intro store institutionId limit
    simp only [Store.listInstitutionDeposits, PostgresStore.listInstitutionDeposits]
    split
    · rfl
    · rfl

section

variable {Point σ : Type} [ListingStore σ] (env : Env Point) {store : σ} {call : Call}
variable {inst : Institution}

/-- The totals are right exactly when the store's own limit cuts no record off. -/
theorem totals_iff {cut : Nat} (cuts : ListingStore.cut σ defaultLimit
      (ownRecords store inst.id).length = some cut)
    (authentic : apiKeyAuth store call.request = .ok inst)
    (routed : call.request.route = .treasuryDeposits) :
    Totals (ownRecords store inst.id) (serve env store call).1 ↔
      (ownRecords store inst.id).length ≤ cut := by
  have length := (newest_first_perm (ownRecords store inst.id)).length_eq
  have listed : Store.listInstitutionDeposits store inst.id defaultLimit =
      .ok ((newestFirst (ownRecords store inst.id)).take cut) := by
    rw [ListingStore.listed]
    unfold ownRecords at cuts
    rw [cuts]
    rfl
  have answered : (serve env store call).1 =
      totalsAnswer ((newestFirst (ownRecords store inst.id)).take cut) := by
    simp only [serve, routed, authenticated, authentic, treasuryDeposits, listed]
    rfl
  rw [answered]
  constructor
  · intro totals
    have lengths := totals_length totals
    rw [List.length_take, length] at lengths
    omega
  · intro within
    rw [List.take_of_length_le (length.trans_le within)]
    exact (totals_answer _).perm (newest_first_perm _)

/-- A list is answered if the store takes its limit, and with the newest records that are
asked for if that leaves so many. -/
theorem list_iff {limit : Option String} (count : Nat)
    (authentic : apiKeyAuth store call.request = .ok inst)
    (routed : call.request.route = .treasuryDepositsList limit) :
    Listing count (ownRecords store inst.id) (serve env store call).1 ↔
      ∃ cut, ListingStore.cut σ (limitOf limit) (ownRecords store inst.id).length = some cut ∧
        min cut (ownRecords store inst.id).length =
          min count (ownRecords store inst.id).length := by
  cases cuts : ListingStore.cut σ (limitOf limit) (ownRecords store inst.id).length with
  | none =>
    have refused : Store.listInstitutionDeposits store inst.id (limitOf limit) =
        .error .invalidLimit := by
      rw [ListingStore.listed]
      unfold ownRecords at cuts
      rw [cuts]
    have answered : (serve env store call).1 = .internalError := by
      simp only [serve, routed, authenticated, authentic, treasuryDepositsList, refused]
    rw [answered]
    refine iff_of_false (fun listing => ?_) (by simp)
    exact absurd listing.status (by decide)
  | some cut =>
    have listed : Store.listInstitutionDeposits store inst.id (limitOf limit) =
        .ok ((newestFirst (ownRecords store inst.id)).take cut) := by
      rw [ListingStore.listed]
      unfold ownRecords at cuts
      rw [cuts]
      rfl
    have answered : (serve env store call).1 =
        listAnswer ((newestFirst (ownRecords store inst.id)).take cut) := by
      simp only [serve, routed, authenticated, authentic, treasuryDepositsList, listed]
      rfl
    rw [answered, listing_iff]
    simp

end

/-- A query for a natural is a query for 500 at most, and what is asked of the store is that
number. -/
theorem limit_of_natural {limit : ℤ} (natural : 0 ≤ limit) :
    limitOf (some (toString limit)) = .finite (min limit 500 : ℤ) := by
  rw [limitOf, number_of_integer]
  by_cases small : limit.natAbs < 2 ^ 53
  · rw [nearest_int small, atMost500]
    push_cast
    rfl
  · rw [Int.min_eq_right (by omega)]
    rcases nearest_large (not_lt.mp small) with infinite | ⟨rounded, finite, above, _⟩
    · have positive : ¬ limit < 0 := not_lt.mpr natural
      rw [infinite, decide_eq_false positive]
      rfl
    · have large : (500 : ℚ) ≤ rounded := by
        have bound := above (by omega)
        exact_mod_cast (show (500 : ℤ) ≤ rounded by omega)
      rw [finite, atMost500, min_eq_right large]
      rfl

/-- A query below zero is passed on as it is read, as nothing bounds it from below. -/
theorem limit_of_negative {limit : ℤ} (negative : limit < 0) :
    limitOf (some (toString limit)) = nearest limit ∧
      (nearest limit = .infinity true ∨
        ∃ rounded : ℤ, nearest limit = .finite rounded ∧ rounded < 0) := by
  have cases : nearest limit = .infinity true ∨
      ∃ rounded : ℤ, nearest limit = .finite rounded ∧ rounded < 0 := by
    by_cases small : limit.natAbs < 2 ^ 53
    · exact .inr ⟨limit, nearest_int small, negative⟩
    · rcases nearest_large (not_lt.mp small) with infinite | ⟨rounded, finite, _, below⟩
      · exact .inl (by rw [infinite, decide_eq_true negative])
      · have bound := below negative
        exact .inr ⟨rounded, finite, by omega⟩
  refine ⟨?_, cases⟩
  rw [limitOf, number_of_integer]
  rcases cases with infinite | ⟨rounded, finite, below⟩
  · rw [infinite]
    rfl
  · have small : (rounded : ℚ) ≤ 500 := by exact_mod_cast (show rounded ≤ 500 by omega)
    rw [finite, atMost500, min_eq_left small]

/-- A slice up to an integer. -/
theorem slice_end_int (limit : ℤ) (length : Nat) :
    sliceEnd (.finite limit) length =
      if limit < 0 then (length + limit).toNat else min limit.toNat length := by
  simp [sliceEnd]

/-- The first records up to the limit of a query: all that the query asks for, unless it is
below zero and there are more records. -/
theorem slice_end_query (limit : ℤ) (length : Nat) :
    min (sliceEnd (limitOf (some (toString limit))) length) length =
        min (min limit 500).toNat length ↔
      0 ≤ limit ∨ (nearest limit).atMost (-length) = true := by
  rcases le_or_gt 0 limit with natural | negative
  · rw [limit_of_natural natural, slice_end_int, if_neg (by omega)]
    exact iff_of_true (by omega) (.inl natural)
  · obtain ⟨read, infinite | ⟨rounded, finite, below⟩⟩ := limit_of_negative negative
    · rw [read, infinite]
      exact iff_of_true (by simp [sliceEnd]; omega) (.inr rfl)
    · rw [read, finite, slice_end_int, if_pos below]
      have bound : Double.atMost (-length) (.finite (rounded : ℚ)) = true ↔
          rounded ≤ -length := by
        simp only [Double.atMost, decide_eq_true_eq]
        exact_mod_cast Iff.rfl
      rw [bound]
      omega

/-- The rows up to the limit of a query, which the database refuses below zero. -/
theorem rows_query (limit : ℤ) (length : Nat) :
    (∃ cut, ListingStore.cut PostgresStore (limitOf (some (toString limit))) length = some cut ∧
        min cut length = min (min limit 500).toNat length) ↔ 0 ≤ limit := by
  rcases le_or_gt 0 limit with natural | negative
  · obtain ⟨count, bounded⟩ : ∃ count : Nat, min limit 500 = count :=
      ⟨(min limit 500).toNat, by omega⟩
    have taken : ListingStore.cut PostgresStore (.finite ((count : ℤ) : ℚ)) length =
        some count := by
      have small : count ≤ 2 ^ 63 - 1 := by omega
      simpa [ListingStore.cut, Double.isInteger, Rat.isInt, Double.atLeast, Double.atMost,
        Double.toInt] using small
    rw [limit_of_natural natural, bounded, taken]
    exact iff_of_true ⟨count, rfl, rfl⟩ natural
  · have refused : ListingStore.cut PostgresStore (limitOf (some (toString limit))) length =
        none := by
      obtain ⟨read, infinite | ⟨rounded, finite, below⟩⟩ := limit_of_negative negative
      · rw [read, infinite]
        rfl
      · have short : ¬ (0 : ℚ) ≤ rounded := by exact_mod_cast not_le.mpr below
        rw [read, finite]
        simp [ListingStore.cut, Double.atLeast, short]
    rw [refused]
    exact iff_of_false (by simp) (not_le.mpr negative)

section

variable {Point : Type} (env : Env Point) {call : Call} {inst : Institution} {store : MemoryStore}

/-- In memory the totals are those of all records exactly when there are no more than the limit
that totals have. -/
theorem memory_totals_iff (authentic : apiKeyAuth store call.request = .ok inst)
    (routed : call.request.route = .treasuryDeposits) :
    Totals (ownRecords store inst.id) (serve env store call).1 ↔
      (ownRecords store inst.id).length ≤ 200 := by
  have given : defaultLimit = .finite ((200 : ℤ) : ℚ) := rfl
  rw [totals_iff env rfl authentic routed, given, slice_end_int, if_neg (by decide)]
  omega

/-- In memory a listing shows the newest records up to the limit exactly when the limit is not
negative, or takes away all the records there are. -/
theorem memory_list_iff (authentic : apiKeyAuth store call.request = .ok inst) {limit : ℤ}
    (routed : call.request.route = .treasuryDepositsList (some (toString limit))) :
    Listing (min limit 500).toNat (ownRecords store inst.id) (serve env store call).1 ↔
      0 ≤ limit ∨ (nearest limit).atMost (-(ownRecords store inst.id).length) = true := by
  rw [list_iff env _ authentic routed, ← slice_end_query]
  simp [ListingStore.cut]

end

/-- The totals of an institution are right exactly when it has 200 records at most. A list for an
integer query is right exactly when the integer is not negative, or the store is the process's
own and has no more records than the integer is below zero: cut from the end, none are left.

Proof: both views read the newest records up to a limit, which for the totals is the store's
default. The totals of a part are those of the whole only if the part is the whole, as each total
counts records. -/
theorem treasury_views_iff {Point : Type} (env : Env Point) (call : Call) (inst : Institution) :
    (∀ store : MemoryStore, apiKeyAuth store call.request = .ok inst →
      (call.request.route = .treasuryDeposits →
        (Totals (ownRecords store inst.id) (serve env store call).1 ↔
          (ownRecords store inst.id).length ≤ 200)) ∧
      ∀ limit : ℤ, call.request.route = .treasuryDepositsList (some (toString limit)) →
        (Listing (min limit 500).toNat (ownRecords store inst.id) (serve env store call).1 ↔
          0 ≤ limit ∨ (nearest limit).atMost (-(ownRecords store inst.id).length) = true)) ∧
    (∀ store : PostgresStore, apiKeyAuth store call.request = .ok inst →
      (call.request.route = .treasuryDeposits →
        (Totals (ownRecords store inst.id) (serve env store call).1 ↔
          (ownRecords store inst.id).length ≤ 200)) ∧
      ∀ limit : ℤ, call.request.route = .treasuryDepositsList (some (toString limit)) →
        (Listing (min limit 500).toNat (ownRecords store inst.id) (serve env store call).1 ↔
          0 ≤ limit)) := by
  constructor
  · intro store authentic
    exact ⟨memory_totals_iff env authentic, fun limit => memory_list_iff env authentic⟩
  · intro store authentic
    constructor
    · intro routed
      exact totals_iff env rfl authentic routed
    · intro limit routed
      rw [list_iff env _ authentic routed, rows_query]

namespace Local

/-- A store with so many records of the bank. -/
def busy : Nat → MemoryStore
  | 0 => memory
  | count + 1 => ((busy count).createDeposit ⟨count, count, 0⟩
      ⟨"bank", "C-1", 500, "SOL", [], [], 0, [], 3600000⟩).2

/-- Creating records leaves the institutions alone. -/
theorem busy_institutions (count : Nat) : (busy count).institutions = memory.institutions := by
  induction count with
  | zero => rfl
  | succ count before => exact before

/-- The store has so many records of the bank. -/
theorem busy_length (count : Nat) : (ownRecords (busy count) institution.id).length = count := by
  induction count with
  | zero => rfl
  | succ count before =>
    have rows : ∃ record : DepositRecord, record.institutionId = institution.id ∧
        (busy (count + 1)).deposits.rows = (busy count).deposits.rows ++ [record] :=
      ⟨_, rfl, rfl⟩
    obtain ⟨record, owned, appended⟩ := rows
    have own : ownRecords (busy (count + 1)) institution.id =
        ownRecords (busy count) institution.id ++ [record] := by
      show (busy (count + 1)).deposits.rows.filter _ = _
      rw [appended, List.filter_append, List.filter_cons_of_pos (by simp [owned])]
      rfl
    rw [own, List.length_append, before]
    rfl

/-- A look at the treasury. -/
def look (route : Route) : Call := call 9000 (own route [])

/-- The bank's key is known in it. -/
theorem look_authentic (count : Nat) (route : Route) :
    apiKeyAuth (busy count) (look route).request = .ok institution := by
  have known : LawfulStore.institutions (busy count) = [institution] := by
    show (busy count).institutions.rows = _
    rw [busy_institutions]
    rfl
  refine key_authenticates ?_ ?_ rfl (by decide)
  · rw [known]
    decide
  · rw [known]
    decide

/-- The newest two of three records are listed, and all three are counted. -/
theorem three_counted :
    Totals (ownRecords (busy 3) institution.id) (serve env (busy 3) (look .treasuryDeposits)).1 ∧
    Listing 2 (ownRecords (busy 3) institution.id)
      (serve env (busy 3) (look (.treasuryDepositsList (some (toString (2 : ℤ)))))).1 := by
  have totals := ((treasury_views_iff env (look .treasuryDeposits) institution).1 (busy 3)
    (look_authentic 3 _)).1 rfl
  have list := ((treasury_views_iff env (look (.treasuryDepositsList (some (toString (2 : ℤ)))))
    institution).1 (busy 3) (look_authentic 3 _)).2 2 rfl
  exact ⟨totals.mpr (by rw [busy_length]; decide), list.mpr (.inl (by decide))⟩

/-- Of 201 records only 200 are counted, and of two records one is listed for a limit of
minus one. -/
theorem views_wrong :
    ¬ Totals (ownRecords (busy 201) institution.id)
      (serve env (busy 201) (look .treasuryDeposits)).1 ∧
    ¬ Listing 0 (ownRecords (busy 2) institution.id)
      (serve env (busy 2) (look (.treasuryDepositsList (some (toString (-1 : ℤ)))))).1 := by
  constructor
  · rw [memory_totals_iff env (look_authentic 201 _) rfl, busy_length]
    decide
  · have list : Listing (min (-1) 500).toNat (ownRecords (busy 2) institution.id)
        (serve env (busy 2) (look (.treasuryDepositsList (some (toString (-1 : ℤ)))))).1 ↔
          0 ≤ (-1 : ℤ) ∨ _ := memory_list_iff env (look_authentic 2 _) rfl
    have zero : (min (-1 : ℤ) 500).toNat = 0 := rfl
    rw [zero, busy_length] at list
    rw [list]
    decide +kernel

end Local

end GPay.Gateway
