import GPay.Delivery

/-!
# Amounts on their way to the gateway

The indexer writes an amount of 64 bits as a JSON number, and the gateway reads the
number as a double. What it stores is the amount if and only if 53 bits hold the
amount's odd part; every other amount is stored as its neighbour, and the answer is
that of a success.
-/

namespace GPay.Delivery

open Solana Digits Doubles Indexing Gateway LawfulStore
open Quarantine (DepositState)

section

variable {Key Point σ : Type} [LawfulStore σ] (asRef : Key → Bytes32) (env : Env Point)

/-- The delivery of a match, at some time. -/
def deliveryOf (secret : String) (m : PaymentMatch Key) (moment : Moment) : Call :=
  ⟨notifyMatch asRef secret m, moment, []⟩

/-- The records of a match have its amount, or it is refused and all records stay. -/
def Recorded (store : σ) (m : PaymentMatch Key) (served : Response × σ) : Prop :=
  (served.1.status = 200 ∧ ∀ record ∈ records store,
    touches store (bytesToHex (asRef m.stealthPubkey).val) record = true →
      ∃ updated ∈ records served.2, updated.id = record.id ∧
        updated.onChainAmount = some m.amount) ∨
  (served.1.status ≠ 200 ∧ records served.2 = records store)

/-- 53 bits hold the odd part of an amount. -/
def Representable (amount : Nat) : Prop :=
  ∃ significand exponent, significand < 2 ^ 53 ∧ amount = significand * 2 ^ exponent

variable {asRef env}

/-- With the right secret a match is written to the records it touches, rounded, or there are
none. -/
theorem delivery_cases (store : σ) {m : PaymentMatch Key} (moment : Moment)
    (secret : env.expectedSecret ≠ "") {rounded : Nat}
    (read : nearest m.amount = .finite rounded) (bounded : rounded < numericLimit)
    {response : Response} {stored : σ}
    (served : serve env store (deliveryOf asRef env.expectedSecret m moment) =
      (response, stored)) :
    ((∀ record ∈ records store,
        touches store (bytesToHex (asRef m.stealthPubkey).val) record = false) ∧
      response.status = 404 ∧ records stored = records store) ∨
    ((∃ record ∈ records store,
        touches store (bytesToHex (asRef m.stealthPubkey).val) record = true) ∧
      response.status = 200 ∧ ∃ address now, records stored =
        (records store).map (fun record =>
          if touches store (bytesToHex (asRef m.stealthPubkey).val) record
          then record.observe address rounded (stateText m.state) now else record)) := by
  have arguments := delivery_arguments_rounded asRef env secret read
  obtain ⟨⟨result, written⟩, applied⟩ := match_accepted store moment
    (bytesToHex (asRef m.stealthPubkey).val) (pubkeyText (asRef m.depositPubkey)) rounded
    (stateText m.state) (key_column _) (state_column _) bounded
  obtain ⟨_, now, changed, answer⟩ := apply_match _ _ _ _ _ _ _ _ applied
  have amount : (Double.finite (rounded : ℚ)).toInt.toNat = rounded := by
    simp [Double.toInt]
  have detected : depositDetected env store (deliveryOf asRef env.expectedSecret m moment) =
      (response, stored) := served
  simp only [depositDetected, deliveryOf, arguments, amount, applied] at detected
  cases found : (records store).find?
      (touches store (bytesToHex (asRef m.stealthPubkey).val)) with
  | none =>
    rw [found] at answer
    subst answer
    obtain ⟨rfl, rfl⟩ := Prod.mk.inj detected
    have untouched : ∀ record ∈ records store,
        touches store (bytesToHex (asRef m.stealthPubkey).val) record = false :=
      fun record member => by simpa using List.find?_eq_none.mp found record member
    refine .inl ⟨untouched, rfl, ?_⟩
    rw [changed]
    exact (List.map_congr_left (fun record member => by simp [untouched record member])).trans
      (List.map_id _)
  | some record =>
    rw [found] at answer
    subst answer
    obtain ⟨rfl, rfl⟩ := Prod.mk.inj detected
    exact .inr ⟨⟨record, List.mem_of_find?_eq_some found, List.find?_some found⟩, rfl, _, _,
      changed⟩

/-- Without the right secret a delivery is refused, and all records stay. -/
theorem delivery_denied (store : σ) {secret : String} (m : PaymentMatch Key) (moment : Moment)
    (refused : secret = "" ∨ secret ≠ env.expectedSecret) :
    serve env store (deliveryOf asRef secret m moment) = (.error 403 "forbidden" [], store) := by
  show depositDetected env store _ = _
  simp [depositDetected, deliveryArguments, deliveryOf, notifyMatch, refused]

/-- Of records that a match touches the amount is the one delivered exactly when it is not
rounded. -/
theorem recorded_touched {store stored : σ} {m : PaymentMatch Key} {response : Response}
    {rounded : Nat} {now : Int} {address : String} {record : DepositRecord}
    (status : response.status = 200)
    (member : record ∈ records store)
    (hit : touches store (bytesToHex (asRef m.stealthPubkey).val) record = true)
    (changed : records stored = (records store).map (fun record =>
      if touches store (bytesToHex (asRef m.stealthPubkey).val) record
      then record.observe address rounded (stateText m.state) now else record)) :
    Recorded asRef store m (response, stored) ↔ rounded = m.amount := by
  constructor
  · rintro (⟨_, written⟩ | ⟨failed, _⟩)
    · obtain ⟨updated, listed, named, amount⟩ := written record member hit
      rw [changed] at listed
      obtain ⟨other, present, rfl⟩ := List.mem_map.mp listed
      have own : other = record := by
        apply List.inj_on_of_nodup_map (distinct store) present member
        split at named
        · exact named
        · exact named
      rw [own, if_pos hit] at amount
      exact Option.some.inj amount
    · exact absurd status failed
  · intro kept
    refine .inl ⟨status, ?_⟩
    intro touched present hits
    refine ⟨touched.observe address rounded (stateText m.state) now, ?_, rfl, congrArg some kept⟩
    rw [changed]
    exact List.mem_map.mpr ⟨touched, present, if_pos hits⟩

/-- A delivered amount, up to the largest `u64`, is recorded exactly when the delivery is refused
for its secret, or 53 bits hold the amount's odd part, or there is no record to write it to. In
every other case another amount is recorded, namely the nearest double.

Proof: the amount goes through a number of JSON, and is unchanged by the rounding exactly when it
is representable. A delivery that is not refused changes the records that it touches, and these
to the rounded amount. -/
theorem amount_recorded_iff (store : σ) (secret : String) {m : PaymentMatch Key}
    (bounded : m.amount ≤ u64Max) (moment : Moment) :
    Recorded asRef store m (serve env store (deliveryOf asRef secret m moment)) ↔
      (secret = "" ∨ secret ≠ env.expectedSecret) ∨ Representable m.amount ∨
      ∀ record ∈ records store,
        touches store (bytesToHex (asRef m.stealthPubkey).val) record = false := by
  by_cases refused : secret = "" ∨ secret ≠ env.expectedSecret
  · rw [delivery_denied store m moment refused]
    have status : (Response.error 403 "forbidden" []).status ≠ 200 := by decide
    exact iff_of_true (.inr ⟨status, rfl⟩) (.inl refused)
  · obtain ⟨nonempty, rfl⟩ : secret ≠ "" ∧ secret = env.expectedSecret := by
      simpa [not_or] using refused
    have narrow : m.amount < 2 ^ 64 := by
      unfold u64Max at bounded
      omega
    obtain ⟨rounded, read, small⟩ := nearest_nat_bounded narrow
    have numeric : rounded < numericLimit := by
      unfold numericLimit
      omega
    have same : rounded = m.amount ↔ Representable m.amount := by
      rw [Representable, ← nearest_nat_iff narrow, read, Double.finite.injEq, Nat.cast_inj]
    cases served : serve env store (deliveryOf asRef env.expectedSecret m moment) with
    | mk response stored =>
      rcases delivery_cases store moment nonempty read numeric served with
        ⟨untouched, status, unchanged⟩ | ⟨⟨record, member, hit⟩, status, address, now, changed⟩
      · have failed : response.status ≠ 200 := by simp [status]
        exact iff_of_true (.inr ⟨failed, unchanged⟩) (.inr (.inr untouched))
      · rw [recorded_touched status member hit changed, same]
        constructor
        · intro kept
          exact .inr (.inl kept)
        · rintro (denied | kept | untouched)
          · exact absurd denied refused
          · exact kept
          · simp [untouched record member] at hit

end

namespace Local

open Gateway.Local Indexing.Sample

/-- The deposit on the first address, if it were of that amount. -/
def foundOf (amount : Nat) : PaymentMatch Bytes32 := { found with amount }

/-- A power of two is recorded whatever its length. -/
theorem long_amount_recorded : Recorded sampleFormat.asRef issuedStore (foundOf (2 ^ 60))
    (serve env issuedStore
      (deliveryOf sampleFormat.asRef "internal" (foundOf (2 ^ 60)) ⟨2000, 2000, 0⟩)) :=
  (amount_recorded_iff issuedStore "internal" (by decide) ⟨2000, 2000, 0⟩).mpr
    (.inr (.inl ⟨1, 60, by decide, rfl⟩))

/-- The first natural that 53 bits do not hold is recorded as its neighbour. -/
theorem odd_amount_rounded : ¬ Recorded sampleFormat.asRef issuedStore (foundOf (2 ^ 53 + 1))
    (serve env issuedStore
      (deliveryOf sampleFormat.asRef "internal" (foundOf (2 ^ 53 + 1)) ⟨2000, 2000, 0⟩)) := by
  have amounts : (records (serve env issuedStore (deliveryOf sampleFormat.asRef "internal"
      (foundOf (2 ^ 53 + 1)) ⟨2000, 2000, 0⟩)).2).map DepositRecord.onChainAmount =
        [some (2 ^ 53)] := by decide +kernel
  have status : (serve env issuedStore (deliveryOf sampleFormat.asRef "internal"
      (foundOf (2 ^ 53 + 1)) ⟨2000, 2000, 0⟩)).1.status = 200 := by decide +kernel
  have touched : ∃ record ∈ records issuedStore, touches issuedStore
      (bytesToHex (sampleFormat.asRef (foundOf (2 ^ 53 + 1)).stealthPubkey).val) record =
        true := by decide +kernel
  obtain ⟨record, member, hit⟩ := touched
  rintro (⟨_, written⟩ | ⟨failed, _⟩)
  · obtain ⟨updated, listed, _, amount⟩ := written record member hit
    have among := List.mem_map_of_mem listed (f := DepositRecord.onChainAmount)
    rw [amounts, amount] at among
    exact absurd among (by decide)
  · exact failed status

end Local

end GPay.Delivery
