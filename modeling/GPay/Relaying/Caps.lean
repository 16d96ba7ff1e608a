import GPay.Relaying.Calls

/-!
# Caps and ledgers

A ledger counts the admissions of its institution and sums their fees, and both stop at
the largest value. A cap below the largest value is checked before the sum can stop
there, so under such a cap the total is the exact sum. Every policy has a ledger, so
an admission never panics.
-/

namespace GPay.Relaying

open Runs Solana

section

variable {F : Type}

/-- The exact sum of the fees of the admissions. -/
def feesOf (institutionId : String) (served : List (Served F)) : Nat :=
  ((served.filterMap (Served.fee institutionId)).map (fun fee => fee.microUsdc.toNat)).sum

/-- The exact number of the admissions. -/
def admissionsOf (institutionId : String) (served : List (Served F)) : Nat :=
  (served.filterMap (Served.fee institutionId)).length

/-- Every registration of the institution has the cap. -/
def CappedAt (institutionId : String) (cap : UInt64) (served : List (Served F)) : Prop :=
  ∀ policy, Call.register institutionId policy ∈ served.map Served.call →
    policy.monthlyCapMicroUsdc = some cap

/-- The institution was registered among the calls. -/
def Registered (institutionId : String) (served : List (Served F)) : Prop :=
  ∃ policy, Call.register institutionId policy ∈ served.map Served.call

/-- Under a cap below the largest value the sum that is checked is exact. -/
theorem within_cap {policy : InstitutionPolicy F} {ledger : BillingLedger} {cap : UInt64}
    (capped : policy.monthlyCapMicroUsdc = some cap) (within : policy.overCap ledger = false)
    (below : cap.toNat < u64Max) :
    ledger.accruedMicroUsdc.toNat + policy.fee.microUsdc.toNat ≤ cap.toNat := by
  simp only [InstitutionPolicy.overCap, capped, Option.any_some] at within
  have fits : ¬ cap < saturatingAddU64 ledger.accruedMicroUsdc policy.fee.microUsdc :=
    of_decide_eq_false within
  rw [UInt64.lt_iff_toNat_lt, to_nat_saturating_add] at fits
  omega

end

section

variable {F : Type} [Number F] {institutionId : String} {relayer after : Relayer F}
variable {served : Served F} {history : List (Served F)}

/-- The ledger of an institution, which is empty before its registration. -/
def Relayer.charges (relayer : Relayer F) (institutionId : String) : BillingLedger :=
  (relayer.ledgers institutionId).getD .empty

/-- The cap of a registered institution. -/
def Relayer.cap (relayer : Relayer F) (institutionId : String) : Option (Option UInt64) :=
  (relayer.policies institutionId).map InstitutionPolicy.monthlyCapMicroUsdc

omit [Number F] in
/-- A suspension changes no cap and no ledger. -/
theorem suspend_spares (relayer : Relayer F) (own institutionId : String) :
    (relayer.suspend own).cap institutionId = relayer.cap institutionId ∧
      (relayer.suspend own).ledgers = relayer.ledgers := by
  unfold Relayer.suspend
  split
  · exact ⟨rfl, rfl⟩
  · rename_i policy found
    refine ⟨?_, rfl⟩
    by_cases here : institutionId = own
    · subst here
      simp [Relayer.cap, found]
    · simp [Relayer.cap, here]

/-- What a call does to an institution: it registers it, or spares its cap and its ledger,
or charges its ledger within its cap. -/
theorem performs_cases (taken : Performs relayer served after) (institutionId : String) :
    (∃ policy, served.call = .register institutionId policy ∧
      served.fee institutionId = none ∧
      after.cap institutionId = some policy.monthlyCapMicroUsdc ∧
      after.ledgers institutionId = some (relayer.charges institutionId)) ∨
    ((∀ policy, served.call ≠ .register institutionId policy) ∧
      served.fee institutionId = none ∧
      after.cap institutionId = relayer.cap institutionId ∧
      after.ledgers institutionId = relayer.ledgers institutionId) ∨
    (∃ policy ledger, (∀ policy, served.call ≠ .register institutionId policy) ∧
      served.fee institutionId = some policy.fee ∧
      relayer.policies institutionId = some policy ∧
      relayer.ledgers institutionId = some ledger ∧
      policy.overCap ledger = false ∧
      after.cap institutionId = relayer.cap institutionId ∧
      after.ledgers institutionId = some (ledger.accrue policy.fee)) := by
  obtain ⟨call, reply⟩ := served
  by_cases here : call.institution = institutionId
  · cases call with
    | register own policy =>
      obtain rfl : own = institutionId := here
      obtain ⟨rfl, rfl⟩ := Prod.mk.inj taken
      exact .inl ⟨policy, rfl, rfl, by simp [Relayer.register, Relayer.cap],
        by simp [Relayer.register, Relayer.charges]⟩
    | suspend own =>
      obtain ⟨rfl, rfl⟩ := Prod.mk.inj taken
      obtain ⟨cap, ledgers⟩ := suspend_spares relayer own institutionId
      exact .inr (.inl ⟨by rintro policy ⟨⟩, rfl, cap, congrFun ledgers institutionId⟩)
    | admitAt own now =>
      obtain rfl : own = institutionId := here
      obtain ⟨rfl, rfl⟩ := performs_admitAt taken
      have another : ∀ policy : InstitutionPolicy F,
          Call.admitAt own now ≠ .register own policy := by
        rintro policy ⟨⟩
      rcases admitAt_cases relayer own now with
        ⟨admitted, decision, policy, ledger, answered, charged⟩ | ⟨_, denied, spared⟩
      · obtain ⟨bucket, policies⟩ := charged.policies
        have within : policy.overCap ledger = false := by
          have conditions := admitted
          simp only [Relayer.admits, charged.found, charged.opened, Bool.and_eq_true,
            Bool.not_eq_true'] at conditions
          exact conditions.1.2
        refine .inr (.inr ⟨policy, ledger, another, ?_, charged.found, charged.opened, within,
          ?_, ?_⟩)
        · simp [Served.fee, answered, Call.institution, charged.fee]
        · simp [Relayer.cap, policies, charged.found]
        · simp [charged.ledgers]
      · refine .inr (.inl ⟨another, ?_, ?_, congrFun spared.ledgers own⟩)
        · unfold Served.fee
          split
          · rename_i decision accepted
            exact absurd (Reply.answer.inj accepted) (denied decision)
          · rfl
        · rcases spared.policies with same | ⟨policy, bucket, found, refilled⟩
          · rw [Relayer.cap, same]
            rfl
          · simp [Relayer.cap, refilled, found]
  · have same : relayer.perform call = (reply, after) := taken
    obtain ⟨policies, ledgers⟩ := perform_other relayer call here
    rw [same] at policies ledgers
    refine .inr (.inl ⟨?_, ?_, by rw [Relayer.cap, policies]; rfl, ledgers⟩)
    · rintro policy rfl
      exact here rfl
    · unfold Served.fee
      split
      · rw [if_neg here]
      · rfl

/-- What a history makes of the institution's cap and ledger: the cap is the one that it is
always registered with, the ledger adds up its fees and its admissions, and a cap below the
largest value bounds the fees. -/
structure Metered (institutionId : String) (cap : UInt64) (history : List (Served F))
    (relayer : Relayer F) : Prop where
  capped : ∀ limit, relayer.cap institutionId = some limit → limit = some cap
  opened : Registered institutionId history → relayer.ledgers institutionId ≠ none
  total : (relayer.charges institutionId).accruedMicroUsdc.toNat =
    min u64Max (feesOf institutionId history)
  count : (relayer.charges institutionId).txCount.toNat =
    min u64Max (admissionsOf institutionId history)
  within : cap.toNat < u64Max → feesOf institutionId history ≤ cap.toNat

omit [Number F] in
/-- A call that is no admission of the institution leaves its sums as they are, and what is
metered stays so. -/
theorem Metered.spared {cap : UInt64} (metered : Metered institutionId cap history relayer)
    (free : served.fee institutionId = none)
    (charges : after.charges institutionId = relayer.charges institutionId) :
    (after.charges institutionId).accruedMicroUsdc.toNat =
        min u64Max (feesOf institutionId (history ++ [served])) ∧
      (after.charges institutionId).txCount.toNat =
        min u64Max (admissionsOf institutionId (history ++ [served])) ∧
      (cap.toNat < u64Max → feesOf institutionId (history ++ [served]) ≤ cap.toNat) := by
  have fees : feesOf institutionId (history ++ [served]) = feesOf institutionId history := by
    simp [feesOf, free]
  have admissions : admissionsOf institutionId (history ++ [served]) =
      admissionsOf institutionId history := by
    simp [admissionsOf, free]
  rw [charges, fees, admissions]
  exact ⟨metered.total, metered.count, metered.within⟩

/-- One call keeps the ledger in step with the fees that were answered. The cases are those of a
call: another registration, a call about somebody else or without a charge, and an admission that
is charged. -/
theorem metered_step {cap : UInt64} (metered : Metered institutionId cap history relayer)
    (capped : CappedAt institutionId cap (history ++ [served]))
    (taken : Performs relayer served after) :
    Metered institutionId cap (history ++ [served]) after := by
  have limits := metered.capped
  rcases performs_cases taken institutionId with
    ⟨policy, registers, free, limit, ledger⟩ | ⟨spares, free, limit, ledger⟩ |
    ⟨policy, ledger, admits, charged, found, held, fits, limit, accrued⟩
  · have charges : after.charges institutionId = relayer.charges institutionId := by
      simp [Relayer.charges, ledger]
    obtain ⟨total, count, within⟩ := metered.spared free charges
    refine ⟨?_, fun _ => by simp [ledger], total, count, within⟩
    intro value same
    rw [limit] at same
    exact Option.some.inj same ▸ capped policy (by simp [registers])
  · have charges : after.charges institutionId = relayer.charges institutionId := by
      simp [Relayer.charges, ledger]
    obtain ⟨total, count, within⟩ := metered.spared free charges
    refine ⟨limit ▸ limits, ?_, total, count, within⟩
    rintro ⟨policy, listed⟩
    rw [ledger]
    apply metered.opened
    exact ⟨policy, by simpa [(spares policy).symm] using listed⟩
  · have charges : relayer.charges institutionId = ledger := by
      simp [Relayer.charges, held]
    have charged_after : after.charges institutionId = ledger.accrue policy.fee := by
      simp [Relayer.charges, accrued]
    have fees : feesOf institutionId (history ++ [served]) =
        feesOf institutionId history + policy.fee.microUsdc.toNat := by
      simp [feesOf, charged]
    have admissions : admissionsOf institutionId (history ++ [served]) =
        admissionsOf institutionId history + 1 := by
      simp [admissionsOf, charged]
    have one : (1 : UInt64).toNat = 1 := rfl
    have total := metered.total
    have count := metered.count
    rw [charges] at total count
    refine ⟨limit ▸ limits, fun _ => by simp [accrued], ?_, ?_, ?_⟩
    · rw [charged_after, BillingLedger.accrue, to_nat_saturating_add, total, fees]
      omega
    · rw [charged_after, BillingLedger.accrue, to_nat_saturating_add, count, admissions, one]
      omega
    · intro below
      have terms : policy.monthlyCapMicroUsdc = some cap :=
        limits _ (by simp [Relayer.cap, found])
      have exact_sum := within_cap terms fits below
      rw [fees]
      have smaller := metered.within below
      omega

/-- Every policy has a ledger. -/
def Opened (relayer : Relayer F) : Prop :=
  ∀ institutionId, relayer.ledgers institutionId = none → relayer.policies institutionId = none

/-- One call keeps a ledger for every policy. -/
theorem opened_step (opened : Opened relayer) (taken : Performs relayer served after) :
    Opened after := by
  intro institutionId missing
  have none_cap : after.cap institutionId = none := by
    rcases performs_cases taken institutionId with
      ⟨policy, _, _, _, ledger⟩ | ⟨_, _, limit, ledger⟩ |
      ⟨policy, ledger, _, _, _, _, _, _, accrued⟩
    · simp [ledger] at missing
    · rw [limit, Relayer.cap, opened institutionId (ledger ▸ missing)]
      rfl
    · simp [accrued] at missing
  simpa [Relayer.cap] using none_cap

/-- With a ledger for every policy an admission is answered, and does not panic. -/
theorem opened_answers (opened : Opened relayer) (taken : Performs relayer served after) :
    served.reply ≠ .answer none := by
  obtain ⟨call, reply⟩ := served
  cases call with
  | register own policy =>
    obtain ⟨rfl, rfl⟩ := Prod.mk.inj taken
    nofun
  | suspend own =>
    obtain ⟨rfl, rfl⟩ := Prod.mk.inj taken
    nofun
  | admitAt own now =>
    obtain ⟨rfl, rfl⟩ := performs_admitAt taken
    intro panicked
    have none_left := Reply.answer.inj panicked
    cases found : relayer.policies own with
    | none => simp [Relayer.admitAt, found] at none_left
    | some policy =>
      cases held : relayer.ledgers own with
      | none => simp [opened own held] at found
      | some ledger =>
        cases suspended : policy.suspended with
        | true => simp [Relayer.admitAt, found, suspended] at none_left
        | false =>
          cases capped : policy.overCap ledger with
          | true => simp [Relayer.admitAt, found, held, suspended, capped] at none_left
          | false =>
            rw [admitAt_eq found suspended held capped now] at none_left
            cases covered : policy.bucket.covers 1 now <;> simp [covered] at none_left

/-- Over every run from the beginning the ledger is in step with the fees. -/
theorem metered_run {cap : UInt64} {finish : Relayer F}
    (capped : CappedAt institutionId cap history) (run : Run Performs Relayer.new history finish) :
    Metered institutionId cap history finish ∧ Opened finish := by
  induction run with
  | nil =>
    have initial : Metered institutionId cap [] (Relayer.new : Relayer F) :=
      ⟨nofun, fun ⟨_, listed⟩ => absurd listed (by simp), rfl, rfl, fun _ => Nat.zero_le _⟩
    exact ⟨initial, fun _ _ => rfl⟩
  | @snoc history middle finish served earlier last previous =>
    have before : CappedAt institutionId cap history :=
      fun policy listed => capped policy (by simp [List.mem_map.mp listed])
    obtain ⟨metered, opened⟩ := previous before
    exact ⟨metered_step metered capped last, opened_step opened last⟩

/-- Under one cap, after any calls, an institution's ledger holds the sum of the fees of its
admissions and their number, both up to the largest value. The total is within the cap, and the
sum of the fees too unless the cap is the largest value. No admission panics.

Proof: by induction on the calls. An admission adds its fee and one to the ledger by saturating
additions, a saturated sum of sums is the saturated sum, and the cap is checked on the very total
that is stored. -/
theorem ledgers_metered (institutionId : String) (cap : UInt64) {history : List (Served F)}
    {finish : Relayer F} (capped : CappedAt institutionId cap history)
    (run : Run Performs Relayer.new history finish) :
    (Registered institutionId history → ∃ ledger, finish.ledger institutionId = some ledger ∧
      ledger.totalMicroUsdc.toNat = min u64Max (feesOf institutionId history) ∧
      ledger.txCount.toNat = min u64Max (admissionsOf institutionId history) ∧
      ledger.totalMicroUsdc ≤ cap ∧
      (cap.toNat < u64Max → feesOf institutionId history ≤ cap.toNat)) ∧
    ∀ served ∈ history, served.reply ≠ .answer none := by
  obtain ⟨metered, _⟩ := metered_run capped run
  constructor
  · intro registered
    obtain ⟨ledger, held⟩ := Option.ne_none_iff_exists'.mp (metered.opened registered)
    have charges : finish.charges institutionId = ledger := by simp [Relayer.charges, held]
    have total := metered.total
    have count := metered.count
    rw [charges] at total count
    refine ⟨ledger, held, total, count, ?_, metered.within⟩
    rw [UInt64.le_iff_toNat_le, BillingLedger.totalMicroUsdc, total]
    have largest := cap.toNat_lt
    by_cases below : cap.toNat < u64Max
    · exact (Nat.min_le_right _ _).trans (metered.within below)
    · unfold u64Max at below ⊢
      omega
  · intro served listed
    obtain ⟨before, after, taken, opened⟩ := (run.assuming
      (fun _ _ _ opened taken => opened_step opened taken) (fun _ _ => rfl)).taken listed
    exact opened_answers opened taken

end

namespace Local

/-- A bank with two tokens, and a quote and a cap. -/
def priced (microUsdc cap : UInt64) : InstitutionPolicy ℚ :=
  (InstitutionPolicy.new (.new 2 1 0) ⟨microUsdc⟩).withMonthlyCap cap

/-- A registration, and two admissions at once. -/
def pair (microUsdc cap : UInt64) (second : Reply) : List (Served ℚ) :=
  [⟨.register "bank_x" (priced microUsdc cap), .done⟩,
    ⟨.admitAt "bank_x" 0, .answer (some (.ok ⟨⟨microUsdc⟩, 1⟩))⟩, ⟨.admitAt "bank_x" 0, second⟩]

/-- The sample has one registration, with the cap. -/
theorem pair_capped (microUsdc cap : UInt64) (second : Reply) :
    CappedAt "bank_x" cap (pair microUsdc cap second) := by
  intro policy listed
  simp only [pair, List.map_cons, List.map_nil, List.mem_cons, reduceCtorEq, List.not_mem_nil,
    or_false] at listed
  injection listed with _ same
  exact same ▸ rfl

/-- The bank is registered in it. -/
theorem pair_registered (microUsdc cap : UInt64) (second : Reply) :
    Registered "bank_x" (pair microUsdc cap second) :=
  ⟨priced microUsdc cap, by simp [pair]⟩

/-- The second of two fees of 50 does not fit a cap of 70. -/
theorem cap_stops : ∃ finish ledger, Run Performs Relayer.new
      (pair 50 70 (.answer (some (.error .feeCapExceeded)))) finish ∧
    finish.ledger "bank_x" = some ledger ∧ ledger.totalMicroUsdc.toNat = 50 := by
  have played : (play performedAs Relayer.new
      (pair 50 70 (.answer (some (.error .feeCapExceeded))))).isSome = true := by decide +kernel
  obtain ⟨finish, ended⟩ := Option.isSome_iff_exists.mp played
  have run := play_run performed_as ended
  obtain ⟨ledger, held, total, _⟩ :=
    (ledgers_metered "bank_x" 70 (pair_capped _ _ _) run).1 (pair_registered _ _ _)
  exact ⟨finish, ledger, run, held, total.trans (by decide)⟩

/-- The largest value, as a fee and as a cap, twice. -/
def largest : List (Served ℚ) :=
  pair (UInt64.ofNat u64Max) (UInt64.ofNat u64Max)
    (.answer (some (.ok ⟨⟨UInt64.ofNat u64Max⟩, 0⟩)))

/-- A cap of the largest value lets the sum of the fees pass it, and the total falls
behind. -/
theorem largest_cap_passed : ∃ finish ledger,
    CappedAt "bank_x" (UInt64.ofNat u64Max) largest ∧ Registered "bank_x" largest ∧
    Run Performs Relayer.new largest finish ∧ finish.ledger "bank_x" = some ledger ∧
    ledger.totalMicroUsdc.toNat ≠ feesOf "bank_x" largest ∧
    ¬ feesOf "bank_x" largest ≤ (UInt64.ofNat u64Max).toNat := by
  have played : (play performedAs Relayer.new largest).bind (Relayer.ledger · "bank_x") =
      some ⟨UInt64.ofNat u64Max, 2⟩ := by decide +kernel
  obtain ⟨finish, ended, held⟩ := Option.bind_eq_some_iff.mp played
  exact ⟨finish, _, pair_capped _ _ _, pair_registered _ _ _, play_run performed_as ended, held,
    by decide +kernel, by decide +kernel⟩

end Local

end GPay.Relaying
