import GPay.Gateway.Contents
import GPay.Runs

/-!
# What a call does to a store

A call leaves the store alone, adds a record, settles one, or writes a match. This
is read off the handlers once; what follows about a single record is all that runs
of calls need to know.
-/

namespace GPay.Gateway

open LawfulStore Runs
open Quarantine (DepositState)

section

variable {Point σ : Type} [LawfulStore σ] (env : Env Point)

/-- The call is a release or a refund with this parsed body. -/
def Requests (call : Call) (settlement : Settlement) : Prop :=
  (call.request.route = .release ∧ ∃ body, parseBody call.request ReleaseBody.safeParse = .ok body ∧
    settlement = releaseSettlement body) ∨
  (call.request.route = .refund ∧ ∃ body, parseBody call.request RefundBody.safeParse = .ok body ∧
    settlement = refundSettlement body call.moment.now)

/-- Releases and refunds. -/
def Route.settles : Route → Bool
  | .release => true
  | .refund => true
  | _ => false

/-- What a call does, by its answer and the store it leaves: it keeps the store, or adds a record
for an address, or settles a record, or writes a delivered match. A store that is kept is no
answer of success to a release or a refund. -/
inductive Effect (store : σ) (call : Call) : Response → σ → Prop
  | kept {response : Response} (quiet : call.request.route.settles = true → response.status ≠ 200) :
      Effect store call response store
  | created {response : Response} {stored : σ} {inst : Institution} {create : DepositCreate}
      {record : DepositRecord} (route : call.request.route = .receivingAddress)
      (known : apiKeyAuth store call.request = .ok inst)
      (added : Store.createDeposit store call.moment create = .ok (record, stored)) :
      Effect store call response stored
  | settled {inst : Institution} {settlement : Settlement} {dep : DepositRecord}
      (requested : Requests call settlement) (known : apiKeyAuth store call.request = .ok inst)
      (checked : settlement.check inst (Store.getDeposit store settlement.depositId) = .ok dep) :
      Effect store call (settlement.answer dep)
        (Store.setDepositState store dep.id settlement.target).2
  | delivered {response : Response} {stored : σ} {stealthHex : String} {body : InternalMatchBody}
      {result : Option DepositRecord} (route : call.request.route = .depositDetected)
      (arguments : deliveryArguments env call.request = .ok (stealthHex, body))
      (applied : Store.applyOnChainMatch store call.moment stealthHex body.depositPubkey
        body.amount.toInt.toNat (stateText body.state) = .ok (result, stored)) :
      Effect store call response stored

end

/-- A body that is refused, or that is no JSON, is not answered with success. -/
theorem parse_body_refused {α : Type} {request : Request} {safeParse : Json → Except Json α}
    {refused : Response} (failed : parseBody request safeParse = .error refused) :
    refused.status ≠ 200 := by
  unfold parseBody at failed
  cases body : request.body with
  | none =>
    rw [body] at failed
    rw [← Except.error.inj failed]
    decide
  | some json =>
    simp only [body] at failed
    cases parsed : safeParse json with
    | error detail =>
      rw [parsed] at failed
      rw [← Except.error.inj failed]
      simp [Response.invalidBody, Response.error]
    | ok value => simp [parsed, Except.mapError] at failed

/-- A check that fails is not answered with success: no record, a foreign one, or a state that
does not allow it. -/
theorem check_refused {settlement : Settlement} {inst : Institution} {found : Option DepositRecord}
    {refused : Response} (failed : settlement.check inst found = .error refused) :
    refused.status ≠ 200 := by
  unfold Settlement.check at failed
  split at failed
  · rw [← Except.error.inj failed]
    decide
  · split at failed
    · rw [← Except.error.inj failed]
      decide
    · split at failed
      · rw [← Except.error.inj failed]
        simp [Response.error]
      · cases failed

/-- What passes the check was found, is the institution's own, and may be settled. -/
theorem check_passed {settlement : Settlement} {inst : Institution} {found : Option DepositRecord}
    {dep : DepositRecord} (passed : settlement.check inst found = .ok dep) :
    found = some dep ∧ dep.institutionId = inst.id ∧ settlement.allowed dep = true := by
  unfold Settlement.check at passed
  split at passed
  · cases passed
  · split at passed
    · cases passed
    · split at passed
      · cases passed
      · obtain rfl := Except.ok.inj passed
        simp_all

/-- A request without a known key is not answered with success. -/
theorem auth_refused {σ : Type} [Store σ] {store : σ} {request : Request} {refused : Response}
    (failed : apiKeyAuth store request = .error refused) : refused.status ≠ 200 := by
  unfold apiKeyAuth at failed
  split at failed
  · rw [← Except.error.inj failed]
    decide
  · rw [← Except.error.inj failed]
    decide
  · split at failed
    · rw [← Except.error.inj failed]
      decide
    · cases failed

section

variable {Point σ : Type} [LawfulStore σ] {env : Env Point}

/-- On the other routes nothing is asked of the answer. -/
theorem quiet {call : Call} {response : Response} (reads : call.request.route.settles = false) :
    call.request.route.settles = true → response.status ≠ 200 := by
  intro settles
  rw [reads] at settles
  cases settles

/-- A settlement refuses, or writes what it checked. -/
theorem settle_effect {store : σ} {call : Call} {inst : Institution} {settlement : Settlement}
    (requested : Requests call settlement) (known : apiKeyAuth store call.request = .ok inst) :
    Effect env store call (settle store inst settlement).1 (settle store inst settlement).2 := by
  cases checked : settlement.check inst (Store.getDeposit store settlement.depositId) with
  | error refused =>
    simp only [settle, checked]
    exact .kept (fun _ => check_refused checked)
  | ok dep =>
    simp only [settle, checked]
    exact .settled requested known checked

/-- A release settles a record of the institution or leaves the store alone. -/
theorem release_effect {store : σ} {call : Call} {inst : Institution}
    (route : call.request.route = .release) (known : apiKeyAuth store call.request = .ok inst) :
    Effect env store call (release store call inst).1 (release store call inst).2 := by
  unfold release
  cases parsed : parseBody call.request ReleaseBody.safeParse with
  | error refused => exact .kept (fun _ => parse_body_refused parsed)
  | ok body => exact settle_effect (.inl ⟨route, body, parsed, rfl⟩) known

/-- A refund settles a record of the institution or leaves the store alone. -/
theorem refund_effect {store : σ} {call : Call} {inst : Institution}
    (route : call.request.route = .refund) (known : apiKeyAuth store call.request = .ok inst) :
    Effect env store call (refund store call inst).1 (refund store call inst).2 := by
  unfold refund
  cases parsed : parseBody call.request RefundBody.safeParse with
  | error refused => exact .kept (fun _ => parse_body_refused parsed)
  | ok body => exact settle_effect (.inr ⟨route, body, parsed, rfl⟩) known

/-- A request for an address adds a record for the institution or leaves the store alone. -/
theorem receiving_address_effect {store : σ} {call : Call} {inst : Institution}
    (route : call.request.route = .receivingAddress)
    (known : apiKeyAuth store call.request = .ok inst) :
    Effect env store call (receivingAddress env store call inst).1
      (receivingAddress env store call inst).2 := by
  have reads : call.request.route.settles = false := by rw [route]; rfl
  unfold receivingAddress
  split
  · exact .kept (quiet reads)
  · split
    · exact .kept (quiet reads)
    · dsimp only
      split
      · exact .kept (quiet reads)
      · rename_i added
        exact .created route known added

/-- A delivery writes a match to its record or leaves the store alone. -/
theorem deposit_detected_effect {store : σ} {call : Call}
    (route : call.request.route = .depositDetected) :
    Effect env store call (depositDetected env store call).1
      (depositDetected env store call).2 := by
  have reads : call.request.route.settles = false := by rw [route]; rfl
  unfold depositDetected
  split
  · exact .kept (quiet reads)
  · rename_i stealthHex body arguments
    split
    · exact .kept (quiet reads)
    · rename_i applied
      exact .delivered route arguments applied
    · rename_i applied
      exact .delivered route arguments applied

/-- The reading handlers leave the store alone. -/
theorem payment_status_kept (store : σ) (inst : Institution) (id : String) :
    (paymentStatus store inst id).2 = store := by
  unfold paymentStatus
  split
  · rfl
  · split <;> rfl

/-- The totals are read only. -/
theorem treasury_deposits_kept (store : σ) (inst : Institution) :
    (treasuryDeposits store inst).2 = store := by
  unfold treasuryDeposits
  split <;> rfl

/-- The listing is read only. -/
theorem treasury_deposits_list_kept (store : σ) (inst : Institution) (limit : Option String) :
    (treasuryDepositsList store inst limit).2 = store := by
  unfold treasuryDepositsList
  split <;> rfl

/-- A handler's effect is the call's, and so is the refusal to authenticate. -/
theorem authenticated_effect {store : σ} {call : Call} {handler : Institution → Response × σ}
    (handled : ∀ inst, apiKeyAuth store call.request = .ok inst →
      Effect env store call (handler inst).1 (handler inst).2) :
    Effect env store call (authenticated store call handler).1
      (authenticated store call handler).2 := by
  unfold authenticated
  cases known : apiKeyAuth store call.request with
  | error refused => exact .kept (fun _ => auth_refused known)
  | ok inst => exact handled inst known

/-- Every call has one of these effects, by its route: three routes read only, two settle, one
creates, and one delivers. -/
theorem serve_effect (store : σ) (call : Call) :
    Effect env store call (serve env store call).1 (serve env store call).2 := by
  cases route : call.request.route with
  | receivingAddress =>
    simp only [serve, route]
    exact authenticated_effect (fun inst known => receiving_address_effect route known)
  | paymentStatus id =>
    simp only [serve, route]
    apply authenticated_effect
    intro inst known
    rw [payment_status_kept]
    exact .kept (quiet (by rw [route]; rfl))
  | release =>
    simp only [serve, route]
    exact authenticated_effect (fun inst known => release_effect route known)
  | refund =>
    simp only [serve, route]
    exact authenticated_effect (fun inst known => refund_effect route known)
  | treasuryDeposits =>
    simp only [serve, route]
    apply authenticated_effect
    intro inst known
    rw [treasury_deposits_kept]
    exact .kept (quiet (by rw [route]; rfl))
  | treasuryDepositsList limit =>
    simp only [serve, route]
    apply authenticated_effect
    intro inst known
    rw [treasury_deposits_list_kept]
    exact .kept (quiet (by rw [route]; rfl))
  | depositDetected =>
    simp only [serve, route]
    exact deposit_detected_effect route

/-- So has a call that was answered. -/
theorem answered_effect {store stored : σ} {call : Call} {response : Response}
    (answered : serve env store call = (response, stored)) :
    Effect env store call response stored := by
  have effect : Effect env store call _ _ := serve_effect store call
  rwa [answered] at effect

/-- A record with an identifier, after its records were changed one by one. -/
theorem find_mapped (records : List DepositRecord) (change : DepositRecord → DepositRecord)
    (kept : ∀ record, (change record).id = record.id) (id : String) :
    (records.map change).find? (fun d => d.id = id) =
      (records.find? (fun d => d.id = id)).map change := by
  rw [List.find?_map]
  congr 2
  funext record
  simp [kept record]

/-- What is read after a settlement: the record with its new state, and every other as it was. -/
theorem get_settled (store : σ) (id : String) (state : DepositState) (other : String) :
    Store.getDeposit (Store.setDepositState store id state).2 other =
      (Store.getDeposit store other).map (DepositRecord.settled id state) := by
  rw [get_deposit, get_deposit, set_records, find_mapped _ _ (by simp)]

/-- What a match makes of a record. -/
theorem get_matched {store stored : σ} {moment : Moment} {stealthHex onChainAddress : String}
    {amount : Nat} {state : String} {result : Option DepositRecord}
    (applied : Store.applyOnChainMatch store moment stealthHex onChainAddress amount state =
      .ok (result, stored)) (id : String) :
    ∃ now, Store.getDeposit stored id = (Store.getDeposit store id).map (fun record =>
      if touches store stealthHex record
      then record.observe onChainAddress amount state now else record) := by
  obtain ⟨_, now, records, _⟩ := apply_match _ _ _ _ _ _ _ _ applied
  refine ⟨now, ?_⟩
  rw [get_deposit, get_deposit, records, find_mapped]
  intro record
  split <;> rfl

/-- A new record stands behind the others. -/
theorem get_created {store stored : σ} {moment : Moment} {create : DepositCreate}
    {record : DepositRecord}
    (added : Store.createDeposit store moment create = .ok (record, stored)) (id : String) :
    Store.getDeposit stored id =
      (Store.getDeposit store id).or (if record.id = id then some record else none) := by
  obtain ⟨_, records, _⟩ := create_deposit _ _ _ _ _ added
  rw [get_deposit, get_deposit, records, List.find?_append]
  congr 1
  by_cases same : record.id = id
  · simp [same]
  · simp [same]

end

/-- A call and its answer, an event in the course of the gateway's work. -/
structure Served where
  call : Call
  response : Response

section Runs

variable {Point σ : Type} [Store σ] (env : Env Point)

/-- The gateway answers one call after another. -/
def Step (store : σ) (event : Served) (stored : σ) : Prop :=
  serve env store event.call = (event.response, stored)

/-- Answer calls in order. -/
def serveAll (store : σ) : List Call → List Served × σ
  | [] => ([], store)
  | call :: rest =>
      let answered := serve env store call
      let continued := serveAll answered.2 rest
      (⟨call, answered.1⟩ :: continued.1, continued.2)

/-- A condition holds of every call as it is answered. -/
def meets (allowed : σ → Served → Bool) (store : σ) : List Call → Bool
  | [] => true
  | call :: rest =>
      let answered := serve env store call
      allowed store ⟨call, answered.1⟩ && meets allowed answered.2 rest

/-- Answering calls is a run, guarded by any condition that they meet. -/
theorem serve_all_run {allowed : σ → Served → Bool} {store : σ} {calls : List Call}
    (met : meets env allowed store calls = true) :
    Run (Guarded (Step env) (fun store event => allowed store event = true)) store
      (serveAll env store calls).1 (serveAll env store calls).2 := by
  induction calls generalizing store with
  | nil => exact Run.nil
  | cons call rest continued =>
    obtain ⟨first, others⟩ := Bool.and_eq_true_iff.mp met
    exact Run.cons ⟨rfl, first⟩ (continued others)

end Runs

section

variable {Point σ : Type} [LawfulStore σ] {env : Env Point}

/-- Later calls change neither the identifier of a record nor what it was created
with. -/
theorem record_kept {store stored : σ} {events : List Served}
    (run : Run (Step env) store events stored)
    {record : DepositRecord} (member : record ∈ records store) :
    ∃ later ∈ records stored, later.id = record.id ∧
      later.toDepositCreate = record.toDepositCreate := by
  induction run with
  | nil => exact ⟨record, member, rfl, rfl⟩
  | @snoc events middle finish event earlier last kept =>
    obtain ⟨later, present, named, created⟩ := kept
    obtain ⟨next, inside, again⟩ : ∃ next ∈ records finish,
        next.id = later.id ∧ next.toDepositCreate = later.toDepositCreate := by
      obtain ⟨call, response⟩ := event
      cases answered_effect last with
      | kept quiet => exact ⟨later, present, rfl, rfl⟩
      | created route known added =>
        obtain ⟨_, appended, _⟩ := create_deposit _ _ _ _ _ added
        exact ⟨later, appended ▸ List.mem_append_left _ present, rfl, rfl⟩
      | @settled inst settlement dep requested known checked =>
        refine ⟨later.settled dep.id settlement.target, ?_, later.settled_id _ _, ?_⟩
        · rw [set_records]
          exact List.mem_map_of_mem present
        · unfold DepositRecord.settled
          split <;> rfl
      | delivered route arguments applied =>
        obtain ⟨_, now, changed, _⟩ := apply_match _ _ _ _ _ _ _ _ applied
        refine ⟨_, changed ▸ List.mem_map_of_mem present, ?_, ?_⟩
        · split <;> rfl
        · split <;> rfl
    exact ⟨next, inside, again.1.trans named, again.2.trans created⟩

end

end GPay.Gateway
