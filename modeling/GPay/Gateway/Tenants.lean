import GPay.Gateway.Effects

/-!
# Institutions among each other

Records are fetched by identifiers that belong to all institutions. Whether such a
record is another institution's is asked before anything is answered or written, so
that what an institution sees and changes is a function of its own records.
-/

namespace GPay.Gateway

open LawfulStore Tables
open Quarantine (DepositState)

/-- The routes on which an institution reads and settles records. The other two add a record, or
are the indexer's. -/
def Route.ownRecords : Route → Bool
  | .receivingAddress => false
  | .depositDetected => false
  | _ => true

section

variable {σ : Type} [LawfulStore σ]

/-- The records of an institution, in their order. -/
def ownRecords (store : σ) (institutionId : String) : List DepositRecord :=
  (records store).filter (fun d => d.institutionId = institutionId)

/-- The records of all others. -/
def foreignRecords (store : σ) (institutionId : String) : List DepositRecord :=
  (records store).filter (fun d => d.institutionId ≠ institutionId)

/-- What the check for the owner leaves of a record that was fetched is found among
the institution's own records. -/
theorem get_own (store : σ) (institutionId id : String) :
    (Store.getDeposit store id).filter (fun d => d.institutionId = institutionId) =
      (ownRecords store institutionId).find? (fun d => d.id = id) := by
  rw [get_deposit]
  exact (find_filter (distinct store) _ id).symm

/-- A handler that sees and changes an institution's own records only: its answer and what it
makes of these records depend on nothing else, and it leaves those of the others alone. -/
structure Confined (inst : Institution) (handler : σ → Response × σ) : Prop where
  answers : ∀ left right, ownRecords left inst.id = ownRecords right inst.id →
    (handler left).1 = (handler right).1
  follows : ∀ left right, ownRecords left inst.id = ownRecords right inst.id →
    ownRecords (handler left).2 inst.id = ownRecords (handler right).2 inst.id
  spares : ∀ store, foreignRecords (handler store).2 inst.id = foreignRecords store inst.id

/-- A handler that writes nothing needs to answer alike only. -/
theorem confined_of_kept {inst : Institution} {handler : σ → Response × σ}
    (kept : ∀ store, (handler store).2 = store)
    (answers : ∀ left right, ownRecords left inst.id = ownRecords right inst.id →
      (handler left).1 = (handler right).1) : Confined inst handler where
  answers
  follows left right alike := by rw [kept left, kept right, alike]
  spares store := by rw [kept]

/-- The status that is answered is that of an own record. -/
theorem payment_status_answer (store : σ) (inst : Institution) (id : String) :
    (paymentStatus store inst id).1 =
      (((ownRecords store inst.id).find? (fun d => d.id = id)).map paymentStatusJson).getD
        .notFound := by
  rw [← get_own]
  unfold paymentStatus
  cases found : Store.getDeposit store id with
  | none => rfl
  | some dep =>
    by_cases own : dep.institutionId = inst.id
    · simp [own, Option.filter_some]
    · simp [own, Option.filter_some]

/-- A status is answered from the institution's own record. -/
theorem payment_status_confined (inst : Institution) (id : String) :
    Confined inst (fun store : σ => paymentStatus store inst id) := by
  apply confined_of_kept (fun store => payment_status_kept store inst id)
  intro left right alike
  rw [payment_status_answer, payment_status_answer, alike]

/-- The totals are those of the institution's own records. -/
theorem treasury_deposits_confined (inst : Institution) :
    Confined inst (fun store : σ => treasuryDeposits store inst) := by
  apply confined_of_kept (fun store => treasury_deposits_kept store inst)
  intro left right alike
  simp only [treasuryDeposits, list_deposits left right inst.id defaultLimit alike]
  split <;> rfl

/-- The listing is one of the institution's own records. -/
theorem treasury_deposits_list_confined (inst : Institution) (limit : Option String) :
    Confined inst (fun store : σ => treasuryDepositsList store inst limit) := by
  apply confined_of_kept (fun store => treasury_deposits_list_kept store inst limit)
  intro left right alike
  simp only [treasuryDepositsList, list_deposits left right inst.id (limitOf limit) alike]
  split <;> rfl

/-- The check makes of a foreign record what it makes of none. -/
theorem check_own (settlement : Settlement) (inst : Institution) (found : Option DepositRecord) :
    settlement.check inst found =
      settlement.check inst (found.filter (fun d => d.institutionId = inst.id)) := by
  cases found with
  | none => rfl
  | some dep =>
    by_cases own : dep.institutionId = inst.id
    · simp [own, Option.filter_some]
    · simp [Settlement.check, own, Option.filter_some]

/-- A settled record keeps its institution. -/
theorem settled_institution (id : String) (state : DepositState) (record : DepositRecord) :
    (record.settled id state).institutionId = record.institutionId := by
  unfold DepositRecord.settled
  split <;> rfl

/-- A settlement changes no more than the one record of an institution's own. -/
theorem own_settled (store : σ) (id : String) (state : DepositState) (institutionId : String) :
    ownRecords (Store.setDepositState store id state).2 institutionId =
      (ownRecords store institutionId).map (DepositRecord.settled id state) := by
  rw [ownRecords, set_records, List.filter_map, ownRecords]
  congr 2
  funext record
  simp [settled_institution]

/-- Settling an own record leaves the others alone. -/
theorem foreign_settled {store : σ} {dep : DepositRecord} (member : dep ∈ records store)
    (state : DepositState) :
    foreignRecords (Store.setDepositState store dep.id state).2 dep.institutionId =
      foreignRecords store dep.institutionId := by
  have untouched : ∀ record ∈ foreignRecords store dep.institutionId,
      record.settled dep.id state = record := by
    intro record listed
    obtain ⟨inside, foreign⟩ := List.mem_filter.mp listed
    have other : record.id ≠ dep.id := by
      intro same
      rw [List.inj_on_of_nodup_map (distinct store) inside member same] at foreign
      simp at foreign
    rw [DepositRecord.settled, if_neg other]
  calc foreignRecords (Store.setDepositState store dep.id state).2 dep.institutionId
      = (foreignRecords store dep.institutionId).map (DepositRecord.settled dep.id state) := by
        rw [foreignRecords, set_records, List.filter_map, foreignRecords]
        congr 2
        funext record
        simp [settled_institution]
    _ = foreignRecords store dep.institutionId := by
        rw [List.map_congr_left untouched]
        exact List.map_id _

/-- The outcome of a settlement, from what the check makes of the own records: a foreign record
is no record to it. -/
theorem settle_own (store : σ) (inst : Institution) (settlement : Settlement) :
    settle store inst settlement =
      match settlement.check inst
          ((ownRecords store inst.id).find? (fun d => d.id = settlement.depositId)) with
      | .error refused => (refused, store)
      | .ok dep =>
          (settlement.answer dep, (Store.setDepositState store dep.id settlement.target).2) := by
  have own : settlement.check inst (Store.getDeposit store settlement.depositId) =
      settlement.check inst
        ((ownRecords store inst.id).find? (fun d => d.id = settlement.depositId)) := by
    rw [check_own, get_own]
  cases checked : settlement.check inst
      ((ownRecords store inst.id).find? (fun d => d.id = settlement.depositId)) with
  | error refused => simp only [settle, own, checked]
  | ok dep => simp only [settle, own, checked]

/-- A settlement is decided by the institution's own record and changes no other. Another
institution's record is answered like none. -/
theorem settle_confined (inst : Institution) (settlement : Settlement) :
    Confined inst (fun store : σ => settle store inst settlement) where
  answers left right alike := by
    simp only [settle_own, alike]
    split <;> rfl
  follows left right alike := by
    simp only [settle_own, alike]
    split
    · exact alike
    · rw [own_settled, own_settled, alike]
  spares store := by
    cases checked : settlement.check inst (Store.getDeposit store settlement.depositId) with
    | error refused => simp only [settle, checked]
    | ok dep =>
      obtain ⟨read, own, _⟩ := check_passed checked
      rw [get_deposit] at read
      simp only [settle, checked]
      rw [← own]
      exact foreign_settled (List.mem_of_find?_eq_some read) settlement.target

/-- A handler that refuses every body is confined. -/
theorem refused_confined (inst : Institution) (refused : Response) :
    Confined inst (fun store : σ => (refused, store)) :=
  confined_of_kept (fun _ => rfl) (fun _ _ _ => rfl)

/-- A release is such a settlement. -/
theorem release_confined (call : Call) (inst : Institution) :
    Confined inst (fun store : σ => release store call inst) := by
  unfold release
  cases parseBody call.request ReleaseBody.safeParse with
  | error refused => exact refused_confined inst refused
  | ok body => exact settle_confined inst (releaseSettlement body)

/-- A refund is such a settlement. -/
theorem refund_confined (call : Call) (inst : Institution) :
    Confined inst (fun store : σ => refund store call inst) := by
  unfold refund
  cases parseBody call.request RefundBody.safeParse with
  | error refused => exact refused_confined inst refused
  | ok body => exact settle_confined inst (refundSettlement body call.moment.now)

/-- Every handler on these routes is confined, so that one argument about confined handlers does
for all of them. -/
theorem handler_confined {Point : Type} (env : Env Point) {call : Call}
    (route : call.request.route.ownRecords = true) (inst : Institution) :
    ∃ handler : σ → Response × σ, Confined inst handler ∧
      ∀ store, apiKeyAuth store call.request = .ok inst → serve env store call = handler store := by
  cases asked : call.request.route with
  | receivingAddress => simp [asked, Route.ownRecords] at route
  | depositDetected => simp [asked, Route.ownRecords] at route
  | paymentStatus id =>
    refine ⟨_, payment_status_confined inst id, fun store known => ?_⟩
    simp only [serve, asked, authenticated, known]
  | release =>
    refine ⟨_, release_confined call inst, fun store known => ?_⟩
    simp only [serve, asked, authenticated, known]
  | refund =>
    refine ⟨_, refund_confined call inst, fun store known => ?_⟩
    simp only [serve, asked, authenticated, known]
  | treasuryDeposits =>
    refine ⟨_, treasury_deposits_confined inst, fun store known => ?_⟩
    simp only [serve, asked, authenticated, known]
  | treasuryDepositsList limit =>
    refine ⟨_, treasury_deposits_list_confined inst limit, fun store known => ?_⟩
    simp only [serve, asked, authenticated, known]

/-- Two stores with the same own records of an institution answer its requests alike and keep
these records alike, and in each the records of all others stay as they are. So what an
institution can see or change does not depend on anyone else's records.

Proof: behind the API key each route runs a handler that is confined to the institution's
records; one lemma says so of each handler. -/
theorem institutions_isolated {Point : Type} (env : Env Point) {inst : Institution} {call : Call}
    (route : call.request.route.ownRecords = true) {left right : σ}
    (alike : ownRecords left inst.id = ownRecords right inst.id)
    (knownLeft : apiKeyAuth left call.request = .ok inst)
    (knownRight : apiKeyAuth right call.request = .ok inst) :
    (serve env left call).1 = (serve env right call).1 ∧
      ownRecords (serve env left call).2 inst.id = ownRecords (serve env right call).2 inst.id ∧
      foreignRecords (serve env left call).2 inst.id = foreignRecords left inst.id ∧
      foreignRecords (serve env right call).2 inst.id = foreignRecords right inst.id := by
  obtain ⟨handler, confined, served⟩ := handler_confined (σ := σ) env route inst
  rw [served left knownLeft, served right knownRight]
  exact ⟨confined.answers left right alike, confined.follows left right alike, confined.spares left,
    confined.spares right⟩

end

namespace Local

/-- Another institution. -/
def rival : Institution := { institution with id := "rival", apiKey := "rival-key" }

/-- Two institutions have a record each, the rival the first. -/
def crowded : MemoryStore :=
  (serveAll env { memory with institutions := ⟨[rival, institution], by decide⟩ }
    [{ create with request := { create.request with apiKey := some "rival-key" } }, create]).2

/-- The second record is there, but not the first. -/
def sparse : MemoryStore :=
  (serveAll env
    { memory with
      nextDepositSeq := 2
      fresh := by simp [memory, MemoryStore.new, Tables.Table.empty] }
    [create]).2

/-- A release of the rival's record is answered as if it were not there. -/
theorem foreign_record_hidden :
    (foreignRecords crowded institution.id).map DepositRecord.id = [firstId] ∧
    (serve env sparse (releaseOf 3000 firstId)).1 = (serve env crowded (releaseOf 3000 firstId)).1 ∧
    foreignRecords (serve env crowded (releaseOf 3000 firstId)).2 institution.id =
      foreignRecords crowded institution.id := by
  have alike : ownRecords sparse institution.id = ownRecords crowded institution.id := by
    decide +kernel
  have knownLeft : apiKeyAuth sparse (releaseOf 3000 firstId).request = .ok institution :=
    key_authenticates (by decide +kernel) (by decide +kernel) rfl (by decide)
  have knownRight : apiKeyAuth crowded (releaseOf 3000 firstId).request = .ok institution :=
    key_authenticates (by decide +kernel) (by decide +kernel) rfl (by decide)
  have isolated := institutions_isolated env rfl alike knownLeft knownRight
  exact ⟨by decide +kernel, isolated.1, isolated.2.2.2⟩

end Local

end GPay.Gateway
