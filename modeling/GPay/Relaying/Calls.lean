import GPay.Relaying.Bucket

/-!
# The calls of a relayer

Institutions are registered, suspended and admitted in any order. What a call of one
institution does to it depends on its own registrations, suspensions and admissions
alone: a call of another institution leaves its policy and its ledger as they are, and
a refused admission refills its bucket at most, which the next one would do as well.
-/

namespace GPay.Relaying

open Runs

/-- A call of the relayer, by the time it is made at where the time matters. -/
inductive Call (F : Type) where
  | register (institutionId : String) (policy : InstitutionPolicy F)
  | suspend (institutionId : String)
  | admitAt (institutionId : String) (now : Instant)

/-- The result of an admission, or that there is none to report. -/
inductive Reply where
  | done
  | answer (result : Option (Except RelayerError SubmissionDecision))
  deriving DecidableEq

/-- An admission that was refused. -/
def Reply.refused : Reply → Bool
  | .answer (some (.error _)) => true
  | _ => false

namespace Call

variable {F : Type}

/-- Whom a call is about. -/
def institution : Call F → String
  | register institutionId _ => institutionId
  | suspend institutionId => institutionId
  | admitAt institutionId _ => institutionId

/-- When a call is made, if that matters. -/
def time : Call F → Option Instant
  | admitAt _ now => some now
  | _ => none

/-- A bucket that is registered does not leak. -/
def Refills : Call ℚ → Prop
  | register _ policy => 0 ≤ policy.bucket.refillPerSec
  | _ => True

end Call

/-- Calls of buckets that do not leak, by a clock that does not go back. -/
structure Regular (calls : List (Call ℚ)) : Prop where
  refills : ∀ call ∈ calls, call.Refills
  ordered : (calls.filterMap Call.time).Pairwise (· ≤ ·)

/-- An earlier part of regular calls is regular. -/
theorem Regular.before {calls later : List (Call ℚ)} (regular : Regular (calls ++ later)) :
    Regular calls := by
  obtain ⟨refills, ordered⟩ := regular
  rw [List.filterMap_append] at ordered
  exact ⟨fun call listed => refills call (List.mem_append_left later listed),
    (List.pairwise_append.mp ordered).1⟩

/-- A timed call behind regular ones is not before any of them. -/
theorem Regular.since {calls : List (Call ℚ)} {call : Call ℚ} (regular : Regular (calls ++ [call]))
    {now : Instant} (timed : call.time = some now) :
    ∀ time ∈ calls.filterMap Call.time, time ≤ now := by
  have ordered := regular.ordered
  rw [List.filterMap_append] at ordered
  intro time listed
  exact (List.pairwise_append.mp ordered).2.2 time listed now (by simp [timed])

/-- A call and its reply. -/
structure Served (F : Type) where
  call : Call F
  reply : Reply

namespace Served

variable {F : Type}

/-- The institution's own history: its calls, less its refused admissions. -/
def own (institutionId : String) (served : Served F) : Bool :=
  served.call.institution = institutionId && !served.reply.refused

/-- The fee of an admission of the institution. -/
def fee (institutionId : String) (served : Served F) : Option FeeQuote :=
  match served.reply with
  | .answer (some (.ok decision)) =>
      if served.call.institution = institutionId then some decision.fee else none
  | _ => none

end Served

section

variable {F : Type} [Number F]

/-- What a call answers and leaves. -/
def Relayer.perform (relayer : Relayer F) : Call F → Reply × Relayer F
  | .register institutionId policy => (.done, relayer.register institutionId policy)
  | .suspend institutionId => (.done, relayer.suspend institutionId)
  | .admitAt institutionId now =>
      let (result, after) := relayer.admitAt institutionId now
      (.answer result, after)

/-- A call was answered so and left that. -/
def Performs (relayer : Relayer F) (served : Served F) (after : Relayer F) : Prop :=
  relayer.perform served.call = (served.reply, after)

/-- An admission is answered and recorded as the relayer decides it. -/
theorem performs_admitAt {relayer after : Relayer F} {institutionId : String} {now : Instant}
    {reply : Reply} (taken : Performs relayer ⟨.admitAt institutionId now, reply⟩ after) :
    reply = .answer (relayer.admitAt institutionId now).1 ∧
      after = (relayer.admitAt institutionId now).2 := by
  obtain ⟨answered, left⟩ := Prod.mk.inj taken
  exact ⟨answered.symm, left.symm⟩

/-- Every sequence of calls is performed. -/
theorem performed (relayer : Relayer F) (calls : List (Call F)) : ∃ served finish,
    served.map Served.call = calls ∧ Run Performs relayer served finish := by
  induction calls generalizing relayer with
  | nil => exact ⟨[], relayer, rfl, Run.nil⟩
  | cons call rest continued =>
    obtain ⟨served, finish, listed, run⟩ := continued (relayer.perform call).2
    refine ⟨⟨call, (relayer.perform call).1⟩ :: served, finish, ?_, Run.cons rfl run⟩
    rw [List.map_cons, listed]

/-- A call leaves other institutions as they are: their policies with their buckets, and their
ledgers. -/
theorem perform_other (relayer : Relayer F) (call : Call F) {institutionId : String}
    (other : call.institution ≠ institutionId) :
    (relayer.perform call).2.policies institutionId = relayer.policies institutionId ∧
      (relayer.perform call).2.ledgers institutionId = relayer.ledgers institutionId := by
  cases call with
  | register own policy =>
    have distinct : institutionId ≠ own := Ne.symm other
    simp [Relayer.perform, Relayer.register, distinct]
  | suspend own =>
    have distinct : institutionId ≠ own := Ne.symm other
    unfold Relayer.perform Relayer.suspend
    dsimp only
    split <;> simp [distinct]
  | admitAt own now =>
    have distinct : institutionId ≠ own := Ne.symm other
    have cases := admitAt_cases relayer own now
    show (relayer.admitAt own now).2.policies institutionId = _ ∧ _
    rcases cases with ⟨_, decision, policy, ledger, _, charged⟩ | ⟨_, _, spared⟩
    · obtain ⟨bucket, policies⟩ := charged.policies
      simp [Relayer.perform, policies, charged.ledgers, distinct]
    · rcases spared.policies with same | ⟨policy, bucket, _, refilled⟩
      · simp [Relayer.perform, same, spared.ledgers]
      · simp [Relayer.perform, refilled, spared.ledgers, distinct]

end

/-- A time that none of the calls is later than. -/
def Since (events : List (Served ℚ)) (now : Instant) : Prop :=
  ∀ time ∈ events.filterMap (fun served => served.call.time), time ≤ now

/-- A time behind all calls is behind those but the last. -/
theorem Since.earlier {events : List (Served ℚ)} {event : Served ℚ} {now : Instant}
    (since : Since (events ++ [event]) now) : Since events now := by
  intro time listed
  exact since time (by rw [List.filterMap_append]; exact List.mem_append_left _ listed)

/-- Policies that cannot be told apart at such a time, whatever their buckets were
refilled at before. -/
structure Interchangeable (events : List (Served ℚ)) (left right : InstitutionPolicy ℚ) :
    Prop where
  rate : 0 ≤ left.bucket.refillPerSec
  terms : right = { left with bucket := right.bucket }
  refills : ∀ now, Since events now → left.bucket.refill now = right.bucket.refill now

/-- Relayers that agree on an institution: they have the same ledger for it, and policies that
differ in their buckets at most, which are the same once they are refilled at any time from the
last event on. -/
structure Alike (institutionId : String) (events : List (Served ℚ)) (relayer alone : Relayer ℚ) :
    Prop where
  ledgers : relayer.ledgers institutionId = alone.ledgers institutionId
  policies : Option.Rel (Interchangeable events)
    (relayer.policies institutionId) (alone.policies institutionId)

section

variable {institutionId : String} {events : List (Served ℚ)} {event : Served ℚ}
variable {relayer alone after next : Relayer ℚ}

/-- Policies that cannot be told apart after some calls cannot after more. -/
theorem Interchangeable.later {left right : InstitutionPolicy ℚ}
    (same : Interchangeable events left right) :
    Interchangeable (events ++ [event]) left right :=
  ⟨same.rate, same.terms, fun now since => same.refills now since.earlier⟩

/-- A policy cannot be told apart from itself. -/
theorem interchangeable_refl {policy : InstitutionPolicy ℚ}
    (rate : 0 ≤ policy.bucket.refillPerSec) : Interchangeable events policy policy :=
  ⟨rate, rfl, fun _ _ => rfl⟩

/-- The institution has no policy in either relayer, or policies that cannot be told apart by any
later call. -/
theorem Alike.cases (alike : Alike institutionId events relayer alone) :
    (relayer.policies institutionId = none ∧ alone.policies institutionId = none) ∨
    ∃ left right, relayer.policies institutionId = some left ∧
      alone.policies institutionId = some right ∧ Interchangeable events left right := by
  have policies := alike.policies
  cases found : relayer.policies institutionId with
  | none =>
    cases same : alone.policies institutionId with
    | none => exact .inl ⟨rfl, rfl⟩
    | some right => simp [found, same] at policies
  | some left =>
    cases same : alone.policies institutionId with
    | none => simp [found, same] at policies
    | some right =>
      rw [found, same] at policies
      exact .inr ⟨left, right, rfl, rfl, Option.rel_some_some.mp policies⟩

/-- A call that changes nothing of the institution. -/
theorem Alike.later (alike : Alike institutionId events relayer alone)
    (policies : after.policies institutionId = relayer.policies institutionId)
    (ledgers : after.ledgers institutionId = relayer.ledgers institutionId) :
    Alike institutionId (events ++ [event]) after alone := by
  refine ⟨ledgers.trans alike.ledgers, ?_⟩
  rw [policies]
  rcases alike.cases with ⟨none, vacant⟩ | ⟨left, right, found, image, same⟩
  · rw [none, vacant]
    exact .none
  · rw [found, image]
    exact .some same.later

/-- A registration makes the policies equal, and keeps the ledgers. -/
theorem Alike.register (alike : Alike institutionId events relayer alone)
    {policy : InstitutionPolicy ℚ} (rate : 0 ≤ policy.bucket.refillPerSec) :
    Alike institutionId (events ++ [event]) (relayer.register institutionId policy)
      (alone.register institutionId policy) := by
  constructor
  · simp [Relayer.register, alike.ledgers]
  · simpa [Relayer.register] using interchangeable_refl rate

/-- Suspending the institution keeps both relayers alike for it. -/
theorem Alike.suspend (alike : Alike institutionId events relayer alone) :
    Alike institutionId (events ++ [event]) (relayer.suspend institutionId)
      (alone.suspend institutionId) := by
  rcases alike.cases with ⟨none, vacant⟩ | ⟨left, right, found, image, rate, terms, refills⟩
  · simpa [Relayer.suspend, none, vacant] using alike.later rfl rfl
  · constructor
    · simpa [Relayer.suspend, found, image] using alike.ledgers
    · simp only [Relayer.suspend, found, image, Function.update_self]
      refine .some ⟨rate, ?_, fun now since => refills now since.earlier⟩
      rw [terms]

/-- A draw from the two buckets is answered alike. One that succeeds leaves equal policies,
and one that does not leaves a policy that cannot be told apart from the one it was. -/
theorem Alike.drawn (alike : Alike institutionId events relayer alone) {now : Instant}
    (since : Since events now) (timed : event.call.time = some now)
    {left right : InstitutionPolicy ℚ} {ledger : BillingLedger}
    (found : relayer.policies institutionId = some left)
    (image : alone.policies institutionId = some right)
    (same : Interchangeable events left right) (running : left.suspended = false)
    (opened : relayer.ledgers institutionId = some ledger)
    (within : left.overCap ledger = false) :
    (alone.admitAt institutionId now).1 = (relayer.admitAt institutionId now).1 ∧
    (if (Reply.answer (relayer.admitAt institutionId now).1).refused then
      Alike institutionId (events ++ [event]) (relayer.admitAt institutionId now).2 alone
    else Alike institutionId (events ++ [event]) (relayer.admitAt institutionId now).2
      (alone.admitAt institutionId now).2) := by
  obtain ⟨rate, terms, refills⟩ := same
  have unsuspended : right.suspended = false := by
    rw [terms]
    exact running
  have price : right.fee = left.fee := by rw [terms]
  have present : alone.ledgers institutionId = some ledger := alike.ledgers ▸ opened
  have free : right.overCap ledger = false := by
    rw [terms]
    exact within
  have consumed : right.bucket.tryConsumeAt 1 now = left.bucket.tryConsumeAt 1 now := by
    unfold TokenBucket.tryConsumeAt
    rw [refills now since]
  have covers : right.bucket.covers 1 now = left.bucket.covers 1 now := by
    unfold TokenBucket.covers
    rw [refills now since]
  rw [admitAt_eq found running opened within now, admitAt_eq image unsuspended present free now,
    consumed, covers, price]
  cases granted : left.bucket.covers 1 now with
  | false =>
    refine ⟨rfl, alike.ledgers, ?_⟩
    -- The refill that is left out is made up for by the next one.
    have refilled : Interchangeable (events ++ [event])
        { left with bucket := left.bucket.refill now } right := by
      refine ⟨by simpa using rate, by rw [terms], ?_⟩
      intro later until_then
      have le : now ≤ later := until_then now (by simp [timed])
      show (left.bucket.refill now).refill later = right.bucket.refill later
      rw [left.bucket.refill_refill rate le]
      exact refills later until_then.earlier
    simpa [left.bucket.try_refused 1 now granted, image] using refilled
  | true =>
    refine ⟨rfl, by simp, ?_⟩
    have spent : Interchangeable (events ++ [event])
        { left with bucket := (left.bucket.tryConsumeAt 1 now).2 }
        { right with bucket := (left.bucket.tryConsumeAt 1 now).2 } :=
      ⟨(left.bucket.rate_tried 1 now).symm ▸ rate, by rw [terms], fun _ _ => rfl⟩
    simpa [price] using spent

/-- An admission is answered alike. What is refused before the draw leaves both relayers as
they were. -/
theorem Alike.admitAt (alike : Alike institutionId events relayer alone) {now : Instant}
    (since : Since events now) (timed : event.call.time = some now) :
    (alone.admitAt institutionId now).1 = (relayer.admitAt institutionId now).1 ∧
    (if (Reply.answer (relayer.admitAt institutionId now).1).refused then
      Alike institutionId (events ++ [event]) (relayer.admitAt institutionId now).2 alone
    else Alike institutionId (events ++ [event]) (relayer.admitAt institutionId now).2
      (alone.admitAt institutionId now).2) := by
  have still : Alike institutionId (events ++ [event]) relayer alone := alike.later rfl rfl
  rcases alike.cases with ⟨none, vacant⟩ | ⟨left, right, found, image, same⟩
  · simp [Relayer.admitAt, Reply.refused, none, vacant, still]
  have stops : right.suspended = left.suspended := by rw [same.terms]
  cases suspended : left.suspended with
  | true => simp [Relayer.admitAt, Reply.refused, found, image, stops, suspended, still]
  | false =>
    cases opened : relayer.ledgers institutionId with
    | none =>
      have missing : alone.ledgers institutionId = none := alike.ledgers ▸ opened
      simp [Relayer.admitAt, Reply.refused, found, image, stops, suspended, opened, missing,
        still]
    | some ledger =>
      cases within : left.overCap ledger with
      | true =>
        have present : alone.ledgers institutionId = some ledger := alike.ledgers ▸ opened
        have capped : right.overCap ledger = true := by
          rw [same.terms]
          exact within
        simp [Relayer.admitAt, Reply.refused, found, image, stops, suspended, opened, present,
          within, capped, still]
      | false => exact alike.drawn since timed found image same suspended opened within

/-- A call of the institution's own history is made alike alone, and any other may be left
out. -/
theorem alike_step (alike : Alike institutionId events relayer alone)
    (refills : event.call.Refills)
    (since : ∀ now, event.call.time = some now → Since events now)
    (taken : Performs relayer event after) :
    if event.own institutionId = true then
      ∃ next, Performs alone event next ∧ Alike institutionId (events ++ [event]) after next
    else Alike institutionId (events ++ [event]) after alone := by
  obtain ⟨call, reply⟩ := event
  by_cases here : call.institution = institutionId
  · cases call with
    | register own policy =>
      obtain rfl : own = institutionId := here
      obtain ⟨rfl, rfl⟩ := Prod.mk.inj taken
      rw [if_pos (by simp [Served.own, Call.institution, Reply.refused])]
      exact ⟨_, rfl, alike.register refills⟩
    | suspend own =>
      obtain rfl : own = institutionId := here
      obtain ⟨rfl, rfl⟩ := Prod.mk.inj taken
      rw [if_pos (by simp [Served.own, Call.institution, Reply.refused])]
      exact ⟨_, rfl, alike.suspend⟩
    | admitAt own now =>
      obtain rfl : own = institutionId := here
      obtain ⟨rfl, rfl⟩ := performs_admitAt taken
      have timed : (Served.mk (.admitAt own now) (.answer (relayer.admitAt own now).1) :
          Served ℚ).call.time = some now := rfl
      obtain ⟨answered, left⟩ := alike.admitAt (since now rfl) timed
      cases refused : (Reply.answer (relayer.admitAt own now).1).refused with
      | true =>
        rw [if_neg (by simp [Served.own, refused])]
        rwa [if_pos refused] at left
      | false =>
        rw [if_pos (by simp [Served.own, Call.institution, refused])]
        rw [if_neg (by simp [refused])] at left
        exact ⟨_, Prod.ext (congrArg Reply.answer answered) rfl, left⟩
  · have same : relayer.perform call = (reply, after) := taken
    have kept := perform_other relayer call here
    rw [same] at kept
    rw [if_neg (by simp [Served.own, here])]
    exact alike.later kept.1 kept.2

end

/-- What is answered to an institution, and its ledger, stay as they are when the calls of other
institutions and its own refused admissions are left out, if clocks do not go back and refills
are not negative: the calls that are left make a run with the same answers.

Proof: a simulation between the whole history and the part of it that is left. A refused
admission only refills the bucket up to its time, and what is refilled in two steps is what is
refilled in one, since a bucket that is cut off at its capacity was never above it. -/
theorem own_history_decides (institutionId : String) {served : List (Served ℚ)}
    {finish : Relayer ℚ} (regular : Regular (served.map Served.call))
    (run : Run Performs Relayer.new served finish) :
    ∃ alone, Run Performs Relayer.new (served.filter (Served.own institutionId)) alone ∧
      alone.ledger institutionId = finish.ledger institutionId := by
  have initial : Alike institutionId [] Relayer.new Relayer.new := ⟨rfl, .none⟩
  obtain ⟨alone, traced, alike⟩ : ∃ alone,
      Run Performs Relayer.new (served.filter (Served.own institutionId)) alone ∧
        Alike institutionId served finish alone := by
    apply Run.project (Served.own institutionId) (fun served => Regular (served.map Served.call))
      (Alike institutionId) _ _ regular initial run
    · intro events event regular
      rw [List.map_append] at regular
      exact regular.before
    · intro events before event after image regular alike taken
      rw [List.map_append] at regular
      apply alike_step alike (regular.refills _ (by simp)) _ taken
      intro now timed time listed
      exact regular.since timed time (by simpa [List.filterMap_map] using listed)
  exact ⟨alone, traced, alike.ledgers.symm⟩

namespace Local

/-- A bucket of one token that fills in a second, and a fee. -/
def policy : InstitutionPolicy ℚ := .new (.new 1 1 0) ⟨5⟩

/-- The answer to an admission that is charged. -/
def accepted : Reply := .answer (some (.ok ⟨⟨5⟩, 0⟩))

/-- Two banks with a token a second each, and an admission that comes too soon. -/
def served : List (Served ℚ) :=
  [⟨.register "bank_x" policy, .done⟩, ⟨.admitAt "bank_x" 0, accepted⟩,
    ⟨.register "bank_y" policy, .done⟩,
    ⟨.admitAt "bank_x" 500000000, .answer (some (.error .rateLimited))⟩,
    ⟨.admitAt "bank_y" 500000000, accepted⟩, ⟨.admitAt "bank_x" 1000000000, accepted⟩]

/-- The relayer that a call leaves behind, if the call is answered as listed. -/
def performedAs (relayer : Relayer ℚ) (served : Served ℚ) : Option (Relayer ℚ) :=
  if (relayer.perform served.call).1 = served.reply then some (relayer.perform served.call).2
  else none

/-- A call that is checked against its answer was answered so. -/
theorem performed_as (relayer : Relayer ℚ) (served : Served ℚ) (after : Relayer ℚ)
    (left : performedAs relayer served = some after) : Performs relayer served after := by
  obtain ⟨same, reached⟩ := Option.ite_none_right_eq_some.mp left
  exact Prod.ext same (Option.some.inj reached)

/-- The calls of the sample are answered as it says. -/
theorem served_run : ∃ finish, Run Performs Relayer.new served finish := by
  have played : (play performedAs Relayer.new served).isSome = true := by decide +kernel
  obtain ⟨finish, ended⟩ := Option.isSome_iff_exists.mp played
  exact ⟨finish, play_run performed_as ended⟩

/-- Without the other bank and the refusal the first bank is admitted twice too. -/
theorem admissions_alone : ∃ alone, Run Performs Relayer.new
    [⟨.register "bank_x" policy, .done⟩, ⟨.admitAt "bank_x" 0, accepted⟩,
      ⟨.admitAt "bank_x" 1000000000, accepted⟩] alone := by
  obtain ⟨finish, run⟩ := served_run
  have regular : Regular (served.map Served.call) :=
    ⟨by simp [served, Call.Refills, policy, InstitutionPolicy.new, TokenBucket.new], by decide⟩
  obtain ⟨alone, traced, _⟩ := own_history_decides "bank_x" regular run
  exact ⟨alone, traced⟩

end Local

end GPay.Relaying
