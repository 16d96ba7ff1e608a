import GPay.Gateway.Effects

/-!
# Released and refunded records

The institution's requests respect what has been decided; a delivery does not, since
its state overwrites the record's unless it is `pending`. Runs whose deliveries to a
decided record repeat its state, or say `pending`, keep decisions and make one for a
record at most.
-/

namespace GPay.Gateway

open LawfulStore Runs

section

variable {Point σ : Type} [LawfulStore σ] (env : Env Point)

/-- If the call is a delivery, it tells every decided record that it is written to
either its own state or `pending`. -/
def repeats (store : σ) (event : Served) : Bool :=
  match event.call.request.route, deliveryArguments env event.call.request with
  | .depositDetected, .ok (stealthHex, body) =>
      (records store).all (fun record =>
        !touches store stealthHex record || !terminal record.state ||
          (body.state = .pending || body.state = record.state))
  | _, _ => true

/-- The event is a release or a refund of the record that succeeded, the record being named by
the answer. -/
def settles (id : String) (event : Served) : Bool :=
  event.call.request.route.settles && event.response.status = 200 &&
    event.response.depositId = some id

/-- The record is not yet decided, or not yet there. -/
def undecided (store : σ) (id : String) : Bool :=
  (Store.getDeposit store id).all (fun record => !terminal record.state)

/-- How often the record may still be decided: once, as long as it is not. -/
def remaining (id : String) (store : σ) : Nat := (undecided store id).toNat

end

section

variable {Point σ : Type} [LawfulStore σ] {env : Env Point}

/-- What a delivery that repeats states may tell a decided record. -/
theorem repeats_delivery {store : σ} {event : Served} {stealthHex : String}
    {body : InternalMatchBody} (repeated : repeats env store event = true)
    (route : event.call.request.route = .depositDetected)
    (arguments : deliveryArguments env event.call.request = .ok (stealthHex, body))
    {record : DepositRecord} (stored : record ∈ records store)
    (touched : touches store stealthHex record = true) (decided : terminal record.state = true) :
    body.state = .pending ∨ body.state = record.state := by
  simp only [repeats, route, arguments, List.all_eq_true] at repeated
  simpa [touched, decided] using repeated record stored

/-- The state of a decided record survives a call, if a delivery to it repeats the state or says
`pending`. -/
theorem terminal_step {store stored : σ} {event : Served} (taken : Step env store event stored)
    (repeated : repeats env store event = true) {id : String} {record : DepositRecord}
    (found : Store.getDeposit store id = some record) (decided : terminal record.state = true) :
    ∃ later, Store.getDeposit stored id = some later ∧ later.state = record.state := by
  have member : record ∈ records store := by
    rw [get_deposit] at found
    exact List.mem_of_find?_eq_some found
  obtain ⟨call, response⟩ := event
  cases answered_effect taken with
  | kept quiet => exact ⟨record, found, rfl⟩
  | created route known added =>
    refine ⟨record, ?_, rfl⟩
    rw [get_created added, found]
    rfl
  | @settled inst settlement dep requested known checked =>
    obtain ⟨read, _, allowed⟩ := check_passed checked
    refine ⟨record, ?_, rfl⟩
    have other : record.id ≠ dep.id := by
      intro same
      have again : Store.getDeposit store id = some dep := by
        rw [← read_id found, same, read_id read]
        exact read
      obtain rfl := Option.some.inj (found.symm.trans again)
      rw [settlement.undecided record allowed] at decided
      cases decided
    rw [get_settled, found, Option.map_some, DepositRecord.settled, if_neg other]
  | delivered route arguments applied =>
    obtain ⟨now, after⟩ := get_matched applied id
    rw [found, Option.map_some] at after
    refine ⟨_, after, ?_⟩
    split
    · rename_i touched
      rcases repeats_delivery repeated route arguments member touched decided with pending | same
      · rw [observe_state, if_pos pending]
      · rw [observe_state, same, ite_self]
    · rfl

/-- A successful release or refund decides a record that was undecided, and names it in its
answer. -/
theorem settles_step {store stored : σ} {event : Served} (taken : Step env store event stored)
    {id : String} (success : settles id event = true) :
    undecided store id = true ∧ undecided stored id = false := by
  obtain ⟨call, response⟩ := event
  obtain ⟨⟨route, status⟩, named⟩ :
      (call.request.route.settles = true ∧ response.status = 200) ∧
        response.depositId = some id := by
    simpa [settles] using success
  have answered : serve env store call = (response, stored) := taken
  cases answered_effect answered with
  | kept quiet => exact absurd status (quiet route)
  | created created known added => simp [created, Route.settles] at route
  | delivered delivered arguments applied => simp [delivered, Route.settles] at route
  | @settled inst settlement dep requested known checked =>
    obtain ⟨read, _, allowed⟩ := check_passed checked
    have same : dep.id = id := Option.some.inj ((settlement.succeeds dep).2.symm.trans named)
    have found : Store.getDeposit store id = some dep := by
      rw [← same, read_id read]
      exact read
    constructor
    · simp [undecided, found, settlement.undecided dep allowed]
    · rw [undecided, get_settled, found, Option.map_some, DepositRecord.settled, if_pos rfl]
      simp [settlement.decides]

/-- Every success is paid for by a record becoming decided, and no step makes a decided record
undecided. -/
theorem settles_paid {store stored : σ} {event : Served} (taken : Step env store event stored)
    (repeated : repeats env store event = true) (id : String) :
    (settles id event).toNat + remaining id stored ≤ remaining id store := by
  cases success : settles id event with
  | true =>
    obtain ⟨before, after⟩ := settles_step taken success
    simp [remaining, before, after]
  | false =>
    cases before : undecided store id with
    | true =>
      have bound := Bool.toNat_le (undecided stored id)
      simpa [remaining, before] using bound
    | false =>
      obtain ⟨record, found, decided⟩ : ∃ record, Store.getDeposit store id = some record ∧
          terminal record.state = true := by
        cases read : Store.getDeposit store id with
        | none => simp [undecided, read] at before
        | some record => exact ⟨record, rfl, by simpa [undecided, read] using before⟩
      obtain ⟨later, kept, same⟩ := terminal_step taken repeated found decided
      simp [remaining, undecided, kept, same, decided]

/-- In every run whose deliveries repeat the states of decided records or say `pending`, a record
that is released or refunded at some point stays so, and its releases and refunds succeed once at
most over the whole run.

Proof: a step under the condition keeps a decided record's state. A release or a refund that
succeeds decides a record that was not decided, so that the successes and what remains to be
decided come to one at most along a run. -/
theorem decisions_final {start middle finish : σ} {before after : List Served}
    (first : Run (Guarded (Step env) (fun store event => repeats env store event = true)) start
      before middle)
    (second : Run (Guarded (Step env) (fun store event => repeats env store event = true)) middle
      after finish)
    (id : String) :
    (∀ record, Store.getDeposit middle id = some record → terminal record.state = true →
      ∃ later, Store.getDeposit finish id = some later ∧ later.state = record.state) ∧
    (before ++ after).countP (settles id) ≤ 1 := by
  constructor
  · intro record found decided
    let holds : σ → Prop := fun store =>
      ∃ later, Store.getDeposit store id = some later ∧ later.state = record.state
    have preserved : ∀ store event stored, holds store →
        Guarded (Step env) (fun store event => repeats env store event = true) store event stored →
          holds stored := by
      rintro store event stored ⟨later, kept, same⟩ ⟨taken, repeated⟩
      obtain ⟨next, read, again⟩ := terminal_step taken repeated kept (by rw [same]; exact decided)
      exact ⟨next, read, again.trans same⟩
    exact second.invariant preserved ⟨record, found, rfl⟩
  · have counted :
        (before ++ after).countP (settles id) + remaining id finish ≤ remaining id start :=
      (first.append second).count_le (fun _ _ _ guarded => settles_paid guarded.1 guarded.2 id)
    have bound : remaining id start ≤ 1 := Bool.toNat_le _
    omega

end

namespace Local

open Quarantine (DepositState)

/-- A record is issued, cleared on chain and released. -/
def issueAndRelease : List Call := [create, delivery 2000 .approved, releaseOf 3000 firstId]

/-- An address is issued and its record released. -/
def released : List Served × MemoryStore := serveAll env memory issueAndRelease

/-- The state of the first record in a store. -/
def stateIn (store : MemoryStore) : Option DepositState :=
  (Store.getDeposit store firstId).map DepositRecord.state

/-- Deliveries of the state reached on chain, one of them late, and a second attempt. -/
def afterRelease : List Call :=
  [delivery 4000 .pending, delivery 5000 .released, releaseOf 6000 firstId]

/-- They leave the record released, once. -/
theorem released_once :
    ∃ later, Store.getDeposit (serveAll env released.2 afterRelease).2 firstId = some later ∧
      later.state = .released ∧
      (released.1 ++ (serveAll env released.2 afterRelease).1).countP (settles firstId) ≤ 1 := by
  have first : Run (Guarded (Step env) (fun store event => repeats env store event = true)) memory
      released.1 released.2 := serve_all_run env (by decide +kernel)
  have second : Run (Guarded (Step env) (fun store event => repeats env store event = true))
      released.2 (serveAll env released.2 afterRelease).1
      (serveAll env released.2 afterRelease).2 :=
    serve_all_run env (by decide +kernel)
  have final := decisions_final first second firstId
  obtain ⟨record, found, state⟩ : ∃ record, Store.getDeposit released.2 firstId = some record ∧
      record.state = .released := by
    have reached : stateIn released.2 = some .released := by decide +kernel
    exact Option.map_eq_some_iff.mp reached
  obtain ⟨later, kept, same⟩ := final.1 record found (by rw [state]; rfl)
  exact ⟨later, kept, same.trans state, final.2⟩

/-- The delivery of the approval, repeated after the release, makes the record
approved again, and it is released a second time. -/
theorem released_twice :
    Run (Step env) memory released.1 released.2 ∧
    stateIn released.2 = some .released ∧
    stateIn (serveAll env released.2 [delivery 4000 .approved]).2 = some .approved ∧
    (released.1 ++
      (serveAll env released.2 [delivery 4000 .approved, releaseOf 5000 firstId]).1).countP
      (settles firstId) = 2 := by
  refine ⟨?_, ?_, ?_, ?_⟩
  · have met : meets env (fun (_ : MemoryStore) _ => true) memory issueAndRelease = true := by
      decide +kernel
    exact (serve_all_run env met).unguarded
  · decide +kernel
  · decide +kernel
  · decide +kernel

end Local

end GPay.Gateway
