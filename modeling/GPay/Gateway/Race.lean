import Mathlib.Logic.Function.Basic
import GPay.Gateway.Effects

/-!
# Releases and refunds at the same time

A release or refund awaits the store twice: it reads the record, checks it, and
writes the new state. Any number of them take these three steps in any order.
Between a check and the write that follows it nothing holds the record, so two of
them may pass the check before either writes.

A check that passes is isolated when the record still has the state that was read
and no other write is outstanding. Runs whose checks are isolated have one winner at
most; and of the runs in which no write is left outstanding, only those do.
-/

namespace GPay.Gateway

open LawfulStore Runs

/-- A release or refund that has been authenticated and parsed, and has its three steps left: to
fetch the record, to check it, and to write. -/
structure Contender where
  inst : Institution
  settlement : Settlement

/-- How far a contender has come: it has done nothing, has fetched what it found, has passed its
check with the write left, or has answered. -/
inductive Phase where
  | waiting
  | fetched (found : Option DepositRecord)
  | passed (dep : DepositRecord)
  | answered (response : Response)

/-- The store, and how far each contender has come. Between two steps of one contender the others
may take any of theirs. -/
structure Race (σ ι : Type) where
  store : σ
  phase : ι → Phase

section

variable {σ ι : Type} [DecidableEq ι]

/-- Nobody has begun. -/
def Race.start (store : σ) : Race σ ι := ⟨store, fun _ => .waiting⟩

/-- One contender has come that far. -/
def Race.enter (race : Race σ ι) (i : ι) (phase : Phase) : Race σ ι :=
  { race with phase := Function.update race.phase i phase }

/-- The contender was answered with success, so that it has written its state. -/
def Race.Won (race : Race σ ι) (i : ι) : Prop :=
  ∃ response, race.phase i = .answered response ∧ response.status = 200

/-- The contender has passed its check: it is about to write, or has written and was answered
with success. -/
def Race.Engaged (race : Race σ ι) (i : ι) : Prop :=
  (∃ dep, race.phase i = .passed dep) ∨ race.Won i

/-- The status that the contender was answered with. -/
def Race.status (race : Race σ ι) (i : ι) : Option Nat :=
  match race.phase i with
  | .answered response => some response.status
  | _ => none

omit [DecidableEq ι] in
/-- A winner is one whose answer has the status of a success. -/
theorem Race.won_iff_status {race : Race σ ι} {i : ι} : race.Won i ↔ race.status i = some 200 := by
  unfold Won status
  cases phase : race.phase i with
  | answered response => simp
  | waiting => simp
  | fetched found => simp
  | passed dep => simp

/-- Coming further leaves the store alone. -/
@[simp] theorem Race.enter_store (race : Race σ ι) (i : ι) (phase : Phase) :
    (race.enter i phase).store = race.store := rfl

/-- The contender has come that far. -/
@[simp] theorem Race.enter_self (race : Race σ ι) (i : ι) (phase : Phase) :
    (race.enter i phase).phase i = phase := by
  simp [enter]

/-- The others are where they were. -/
theorem Race.enter_other (race : Race σ ι) {i j : ι} (other : j ≠ i) (phase : Phase) :
    (race.enter i phase).phase j = race.phase j := by
  simp [enter, other]

variable [Store σ] (contenders : ι → Contender)

/-- What the contender's check makes of what it read, as that shows by now: a row of the database
is a copy, an object of the process is not. -/
def Race.check (race : Race σ ι) (i : ι) (found : Option DepositRecord) :
    Except Response DepositRecord :=
  (contenders i).settlement.check (contenders i).inst (found.map (Store.view race.store))

/-- The next step of a contender: to fetch the record, to check it as it shows by then, or to
write and answer. One that has answered takes none. -/
def Race.next (race : Race σ ι) (i : ι) : Option (Race σ ι) :=
  match race.phase i with
  | .waiting =>
      some (race.enter i
        (.fetched (Store.getDeposit race.store (contenders i).settlement.depositId)))
  | .fetched found =>
      match race.check contenders i found with
      | .error refused => some (race.enter i (.answered refused))
      | .ok dep => some (race.enter i (.passed dep))
  | .passed dep =>
      let stored := (Store.setDepositState race.store dep.id (contenders i).settlement.target).2
      some ({ race with store := stored }.enter i
        (.answered ((contenders i).settlement.answer dep)))
  | .answered _ => none

/-- One contender takes its next step. -/
def Contend (race : Race σ ι) (i : ι) (after : Race σ ι) : Prop :=
  race.next contenders i = some after

/-- If this step is a check that passes, the record still has the state that was
read, and no other write is outstanding. -/
def Isolated (race : Race σ ι) (i : ι) : Prop :=
  ∀ found dep, race.phase i = .fetched found → race.check contenders i found = .ok dep →
    (∃ stored, Store.getDeposit race.store (contenders i).settlement.depositId = some stored ∧
      stored.state = dep.state) ∧
    ∀ j other, race.phase j ≠ .passed other

end

section

variable {σ ι : Type} [DecidableEq ι] [LawfulStore σ] {contenders : ι → Contender} {id : String}
  {race after : Race σ ι} {i : ι}

/-- The four kinds of steps: a contender fetches, fails its check, passes it, or writes and is
answered with success. -/
theorem contend_cases (taken : Contend contenders race i after) :
    (race.phase i = .waiting ∧ after = race.enter i
      (.fetched (Store.getDeposit race.store (contenders i).settlement.depositId))) ∨
    (∃ found refused, race.phase i = .fetched found ∧
      race.check contenders i found = .error refused ∧
      after = race.enter i (.answered refused)) ∨
    (∃ found dep, race.phase i = .fetched found ∧ race.check contenders i found = .ok dep ∧
      after = race.enter i (.passed dep)) ∨
    ∃ dep, race.phase i = .passed dep ∧
      after = { race with
        store := (Store.setDepositState race.store dep.id (contenders i).settlement.target).2
        }.enter i (.answered ((contenders i).settlement.answer dep)) := by
  unfold Contend Race.next at taken
  split at taken
  · rename_i waiting
    exact .inl ⟨waiting, (Option.some.inj taken).symm⟩
  · rename_i found fetched
    split at taken
    · rename_i refused failed
      exact .inr (.inl ⟨found, refused, fetched, failed, (Option.some.inj taken).symm⟩)
    · rename_i dep passed
      exact .inr (.inr (.inl ⟨found, dep, fetched, passed, (Option.some.inj taken).symm⟩))
  · rename_i dep passed
    exact .inr (.inr (.inr ⟨dep, passed, (Option.some.inj taken).symm⟩))
  · cases taken

/-- What holds of every race for one record. A winner has left the record decided;
without one, what was read is still stored. -/
structure Consistent (contenders : ι → Contender) (id : String) (race : Race σ ι) : Prop where
  fetched_id : ∀ i record, race.phase i = .fetched (some record) → record.id = id
  passed_id : ∀ i dep, race.phase i = .passed dep → dep.id = id ∧
    (Store.getDeposit race.store id).isSome = true
  won_decided : ∀ i, race.Won i → ∃ record, Store.getDeposit race.store id = some record ∧
    terminal record.state = true
  unchanged : ∀ i found, race.phase i = .fetched found → Store.getDeposit race.store id = found ∨
    ∃ j, race.Won j

omit [DecidableEq ι] in
/-- At the beginning nothing has been read that could be out of date. -/
theorem consistent_start (contenders : ι → Contender) (id : String) (store : σ) :
    Consistent contenders id (Race.start store : Race σ ι) := by
  constructor
  · intro i record fetched
    cases fetched
  · intro i dep passed
    cases passed
  · rintro i ⟨response, answered, _⟩
    cases answered
  · intro i found fetched
    cases fetched

/-- A record that is shown has the identifier of the one that was handed out. -/
theorem view_id (store : σ) (record : DepositRecord) :
    (Store.view store record).id = record.id := by
  rcases viewed store record with same | same
  · rw [same]
  · rw [same, ← get_deposit]
    cases read : Store.getDeposit store record.id with
    | none => rfl
    | some stored => exact read_id read

/-- A record that is stored shows as it is. -/
theorem view_stored {store : σ} {record : DepositRecord}
    (read : Store.getDeposit store id = some record) :
    Store.view store record = record := by
  rcases viewed store record with same | same
  · exact same
  · rw [same, ← get_deposit, read_id read, read]
    rfl

omit [DecidableEq ι] in
/-- A passing check was made of a record that was read. -/
theorem check_read {found : Option DepositRecord} {dep : DepositRecord}
    (passed : race.check contenders i found = .ok dep) :
    ∃ record, found = some record ∧ dep = Store.view race.store record ∧
      terminal dep.state = false := by
  obtain ⟨shown, _, allowed⟩ := check_passed passed
  obtain ⟨record, read, same⟩ := Option.map_eq_some_iff.mp shown
  exact ⟨record, read, same.symm, (contenders i).settlement.undecided dep allowed⟩

/-- A step leaves the other contenders where they are. -/
theorem phase_other (taken : Contend contenders race i after) {j : ι} (other : j ≠ i) :
    after.phase j = race.phase j := by
  rcases contend_cases taken with ⟨_, rfl⟩ | ⟨_, _, _, _, rfl⟩ | ⟨_, _, _, _, rfl⟩ | ⟨_, _, rfl⟩
  · exact race.enter_other other _
  · exact race.enter_other other _
  · exact race.enter_other other _
  · exact Race.enter_other _ other _

/-- Engagement is the contender's own business. -/
theorem engaged_other (taken : Contend contenders race i after) {j : ι} (other : j ≠ i) :
    after.Engaged j ↔ race.Engaged j := by
  simp only [Race.Engaged, Race.Won, phase_other taken other]

omit [DecidableEq ι] [LawfulStore σ] in
/-- Before its check a contender is not engaged. -/
theorem not_engaged {phase : Phase} (at_ : race.phase i = phase)
    (unchecked : ∀ dep, phase ≠ .passed dep)
    (running : ∀ response, phase ≠ .answered response) : ¬ race.Engaged i := by
  rintro (⟨dep, passed⟩ | ⟨response, answered, _⟩)
  · exact unchecked dep (at_.symm.trans passed)
  · exact running response (at_.symm.trans answered)

/-- A winner stays one, and a contender that passed its check stays engaged. -/
theorem engaged_step (taken : Contend contenders race i after) {j : ι} (engaged : race.Engaged j) :
    after.Engaged j := by
  by_cases same : j = i
  · subst same
    rcases contend_cases taken with ⟨waiting, _⟩ | ⟨_, _, fetched, _⟩ | ⟨_, _, fetched, _⟩ |
      ⟨dep, passed, rfl⟩
    · exact absurd engaged (not_engaged waiting (by simp) (by simp))
    · exact absurd engaged (not_engaged fetched (by simp) (by simp))
    · exact absurd engaged (not_engaged fetched (by simp) (by simp))
    · exact .inr ⟨_, Race.enter_self _ _ _, ((contenders j).settlement.succeeds dep).1⟩
  · exact (engaged_other taken same).mpr engaged

/-- A check that passes shows in the phase. -/
theorem passed_step (taken : Contend contenders race i after)
    {found : Option DepositRecord} {dep : DepositRecord} (fetched : race.phase i = .fetched found)
    (passed : race.check contenders i found = .ok dep) : after.phase i = .passed dep := by
  simp only [Contend, Race.next, fetched, passed, Option.some.injEq] at taken
  rw [← taken, Race.enter_self]

omit [LawfulStore σ] in
/-- Entering a phase that is no success keeps the winners what they are. -/
theorem won_enter {phase : Phase} (open_ : ¬ race.Won i)
    (fails : ∀ response, phase = .answered response → response.status ≠ 200) (j : ι) :
    (race.enter i phase).Won j ↔ race.Won j := by
  by_cases same : j = i
  · subst same
    refine iff_of_false ?_ open_
    rintro ⟨response, answered, status⟩
    rw [race.enter_self] at answered
    exact fails response answered status
  · simp [Race.Won, race.enter_other same]

/-- A step that writes nothing keeps a race consistent, when the phase that its contender enters
is. -/
theorem consistent_enter (consistent : Consistent contenders id race) {phase : Phase}
    (idle : ¬ race.Engaged i)
    (fails : ∀ response, phase = .answered response → response.status ≠ 200)
    (fetched : ∀ found, phase = .fetched found → Store.getDeposit race.store id = found)
    (passed : ∀ dep, phase = .passed dep →
      dep.id = id ∧ (Store.getDeposit race.store id).isSome = true) :
    Consistent contenders id (race.enter i phase) := by
  have winners : ∀ j, (race.enter i phase).Won j ↔ race.Won j :=
    won_enter (fun won => idle (.inr won)) fails
  constructor
  · intro j record read
    by_cases same : j = i
    · subst same
      rw [race.enter_self] at read
      exact read_id (fetched _ read)
    · rw [race.enter_other same] at read
      exact consistent.fetched_id j record read
  · intro j dep engaged
    by_cases same : j = i
    · subst same
      rw [race.enter_self] at engaged
      exact passed dep engaged
    · rw [race.enter_other same] at engaged
      exact consistent.passed_id j dep engaged
  · intro j won
    exact consistent.won_decided j ((winners j).mp won)
  · intro j found read
    by_cases same : j = i
    · subst same
      rw [race.enter_self] at read
      exact .inl (fetched found read)
    · rw [race.enter_other same] at read
      rcases consistent.unchanged j found read with stored | ⟨k, won⟩
      · exact .inl stored
      · exact .inr ⟨k, (winners k).mpr won⟩

/-- A write decides the record, and its contender wins; the race stays consistent. -/
theorem consistent_write (consistent : Consistent contenders id race) {dep : DepositRecord}
    (passed : race.phase i = .passed dep) :
    Consistent contenders id ({ race with
      store := (Store.setDepositState race.store dep.id (contenders i).settlement.target).2
      }.enter i (.answered ((contenders i).settlement.answer dep))) := by
  obtain ⟨named, present⟩ := consistent.passed_id i dep passed
  obtain ⟨record, read⟩ := Option.isSome_iff_exists.mp present
  have written : Store.getDeposit (Store.setDepositState race.store dep.id
      (contenders i).settlement.target).2 id =
        some { record with state := (contenders i).settlement.target } := by
    rw [get_settled, read, Option.map_some, DepositRecord.settled,
      if_pos ((read_id read).trans named.symm)]
  constructor
  · intro j other fetched
    by_cases same : j = i
    · subst same
      rw [Race.enter_self] at fetched
      cases fetched
    · rw [Race.enter_other _ same] at fetched
      exact consistent.fetched_id j other fetched
  · intro j other engaged
    by_cases same : j = i
    · subst same
      rw [Race.enter_self] at engaged
      cases engaged
    · rw [Race.enter_other _ same] at engaged
      exact ⟨(consistent.passed_id j other engaged).1, by rw [Race.enter_store, written]; rfl⟩
  · intro j won
    exact ⟨_, written, (contenders i).settlement.decides⟩
  · intro j found fetched
    exact .inr ⟨i, _, Race.enter_self _ _ _, ((contenders i).settlement.succeeds dep).1⟩

/-- One step keeps what the contenders have seen in accordance with the store. The cases are the
step's three: a read, a check and a write. -/
theorem consistent_step (same : ∀ i, (contenders i).settlement.depositId = id)
    (consistent : Consistent contenders id race) (taken : Contend contenders race i after) :
    Consistent contenders id after := by
  rcases contend_cases taken with ⟨waiting, rfl⟩ | ⟨found, refused, fetched, failed, rfl⟩ |
    ⟨found, dep, fetched, passed, rfl⟩ | ⟨dep, passed, rfl⟩
  · refine consistent_enter consistent (not_engaged waiting (by simp) (by simp)) (by simp) ?_
      (by simp)
    intro found read
    rw [← Phase.fetched.inj read, same i]
  · refine consistent_enter consistent (not_engaged fetched (by simp) (by simp)) ?_ (by simp)
      (by simp)
    intro response answered
    rw [← Phase.answered.inj answered]
    exact check_refused failed
  · refine consistent_enter consistent (not_engaged fetched (by simp) (by simp)) (by simp)
      (by simp) ?_
    intro other entered
    obtain ⟨record, rfl, shown, _⟩ := check_read passed
    rw [← Phase.passed.inj entered, shown, view_id]
    refine ⟨consistent.fetched_id i record fetched, ?_⟩
    rcases consistent.unchanged i _ fetched with stored | ⟨j, won⟩
    · rw [stored]
      rfl
    · obtain ⟨winner, stored, _⟩ := consistent.won_decided j won
      rw [stored]
      rfl
  · exact consistent_write consistent passed

/-- No two contenders have passed their checks. -/
def Exclusive (race : Race σ ι) : Prop := ∀ i j, race.Engaged i → race.Engaged j → i = j

omit [DecidableEq ι] in
/-- An isolated check finds nobody ahead of it. -/
theorem isolated_alone (same : ∀ i, (contenders i).settlement.depositId = id)
    (consistent : Consistent contenders id race) (isolated : Isolated contenders race i)
    {found : Option DepositRecord} {dep : DepositRecord} (fetched : race.phase i = .fetched found)
    (passed : race.check contenders i found = .ok dep) (j : ι) : ¬ race.Engaged j := by
  obtain ⟨⟨stored, read, state⟩, quiet⟩ := isolated found dep fetched passed
  obtain ⟨_, _, _, open_⟩ := check_read passed
  rintro (⟨other, engaged⟩ | won)
  · exact quiet j other engaged
  · obtain ⟨record, again, decided⟩ := consistent.won_decided j won
    rw [same i, again] at read
    rw [Option.some.inj read, state, open_] at decided
    cases decided

/-- A contender becomes engaged by passing its check only. -/
theorem newly_engaged (taken : Contend contenders race i after) (engaged : after.Engaged i) :
    race.Engaged i ∨
      ∃ found dep, race.phase i = .fetched found ∧ race.check contenders i found = .ok dep := by
  rcases contend_cases taken with ⟨_, rfl⟩ | ⟨found, refused, fetched, failed, rfl⟩ |
    ⟨found, dep, fetched, passed, rfl⟩ | ⟨dep, passed, rfl⟩
  · exact absurd engaged (not_engaged (race.enter_self i _) (by simp) (by simp))
  · rcases engaged with ⟨dep, entered⟩ | ⟨response, entered, status⟩
    · simp at entered
    · rw [race.enter_self] at entered
      rw [← Phase.answered.inj entered] at status
      exact absurd status (check_refused failed)
  · exact .inr ⟨found, dep, fetched, passed⟩
  · exact .inl (.inl ⟨dep, passed⟩)

/-- Isolated steps keep the race exclusive: whoever passes its check is alone in that. -/
theorem exclusive_step (same : ∀ i, (contenders i).settlement.depositId = id)
    (consistent : Consistent contenders id race) (isolated : Isolated contenders race i)
    (exclusive : Exclusive race) (taken : Contend contenders race i after) : Exclusive after := by
  have alone : ∀ j, j ≠ i → after.Engaged i → ¬ after.Engaged j := by
    intro j other engaged rival
    have before := (engaged_other taken other).mp rival
    rcases newly_engaged taken engaged with already | ⟨found, dep, fetched, passed⟩
    · exact other (exclusive j i before already)
    · exact isolated_alone same consistent isolated fetched passed j before
  intro j k first second
  by_cases left : j = i
  · by_cases right : k = i
    · rw [left, right]
    · exact absurd second (alone k right (left ▸ first))
  · by_cases right : k = i
    · exact absurd first (alone j left (right ▸ second))
    · exact exclusive j k ((engaged_other taken left).mp first)
        ((engaged_other taken right).mp second)

omit [DecidableEq ι] in
/-- A check that passes without being isolated has another contender ahead of it, which has
passed its own check before. -/
theorem overtaken (same : ∀ i, (contenders i).settlement.depositId = id)
    (consistent : Consistent contenders id race) (crossed : ¬ Isolated contenders race i) :
    ∃ found dep j, race.phase i = .fetched found ∧ race.check contenders i found = .ok dep ∧
      j ≠ i ∧ race.Engaged j := by
  unfold Isolated at crossed
  push Not at crossed
  obtain ⟨found, dep, fetched, passed, ahead⟩ := crossed
  have elsewhere : ∀ j, race.Engaged j → j ≠ i := by
    rintro j engaged rfl
    exact not_engaged fetched (by simp) (by simp) engaged
  have rival : ∃ j, race.Engaged j := by
    obtain ⟨record, rfl, shown, _⟩ := check_read passed
    rcases consistent.unchanged i _ fetched with stored | ⟨j, won⟩
    · obtain ⟨j, other, engaged⟩ := ahead ⟨record, (same i).symm ▸ stored, by
        rw [shown, view_stored stored]⟩
      exact ⟨j, .inl ⟨other, engaged⟩⟩
    · exact ⟨j, .inr won⟩
  obtain ⟨j, engaged⟩ := rival
  exact ⟨found, dep, j, fetched, passed, elsewhere j engaged, engaged⟩

/-- Every race for one record is consistent. -/
theorem consistent_run (same : ∀ i, (contenders i).settlement.depositId = id) {store : σ}
    {events : List ι} {finish : Race σ ι}
    (run : Run (Contend contenders) (Race.start store) events finish) :
    Consistent contenders id finish := by
  have preserved : ∀ (race : Race σ ι) i after, Consistent contenders id race →
      Contend contenders race i after → Consistent contenders id after :=
    fun _ _ _ consistent taken => consistent_step same consistent taken
  exact run.invariant preserved (consistent_start contenders id store)

/-- A run is isolated throughout, or two contenders have passed their checks in it, by induction
on the run. -/
theorem isolated_or_double (same : ∀ i, (contenders i).settlement.depositId = id) {store : σ}
    {events : List ι} {finish : Race σ ι}
    (run : Run (Contend contenders) (Race.start store) events finish) :
    Run (Guarded (Contend contenders) (Isolated contenders)) (Race.start store) events finish ∨
      ¬ Exclusive finish := by
  induction run with
  | nil => exact .inl Run.nil
  | @snoc events middle finish i earlier last continued =>
    rcases continued with guarded | double
    · by_cases isolated : Isolated contenders middle i
      · exact .inl (guarded.snoc ⟨last, isolated⟩)
      · obtain ⟨found, dep, j, fetched, passed, other, engaged⟩ :=
          overtaken same (consistent_run same earlier) isolated
        refine .inr (fun exclusive => other (exclusive j i (engaged_step last engaged) ?_))
        exact .inl ⟨dep, passed_step last fetched passed⟩
    · refine .inr (fun exclusive => double (fun j k first second => ?_))
      exact exclusive j k (engaged_step last first) (engaged_step last second)

/-- Any number of releases and refunds of one record, in any order of their steps. If every check
that passes is isolated, that is, no other request has passed its check or won, then one of them
succeeds at most. Conversely, if one succeeds at most and no write is left outstanding, every
check was isolated.

Proof: that at most one request is engaged is an invariant of the isolated steps. A check that
passes without being isolated leaves two requests engaged, which stay so, and both win once they
have written. -/
theorem one_winner (same : ∀ i, (contenders i).settlement.depositId = id) {store : σ}
    {events : List ι} {finish : Race σ ι}
    (run : Run (Contend contenders) (Race.start store) events finish) :
    (Run (Guarded (Contend contenders) (Isolated contenders)) (Race.start store) events finish →
      ∀ i j, finish.Won i → finish.Won j → i = j) ∧
    ((∀ i dep, finish.phase i ≠ .passed dep) → (∀ i j, finish.Won i → finish.Won j → i = j) →
      Run (Guarded (Contend contenders) (Isolated contenders)) (Race.start store) events
        finish) := by
  constructor
  · intro guarded i j first second
    have both : ∀ (race : Race σ ι) i after, Consistent contenders id race ∧ Exclusive race →
        Guarded (Contend contenders) (Isolated contenders) race i after →
          Consistent contenders id after ∧ Exclusive after := by
      rintro race i after ⟨consistent, exclusive⟩ ⟨taken, isolated⟩
      exact ⟨consistent_step same consistent taken,
        exclusive_step same consistent isolated exclusive taken⟩
    have vacant : Exclusive (Race.start store : Race σ ι) := by
      rintro i j (⟨dep, passed⟩ | ⟨response, answered, _⟩) _
      · cases passed
      · cases answered
    have held := guarded.invariant both ⟨consistent_start contenders id store, vacant⟩
    exact held.2 i j (.inr first) (.inr second)
  · intro complete unique
    rcases isolated_or_double same run with guarded | double
    · exact guarded
    · refine absurd (fun i j first second => ?_) double
      have won : ∀ k, finish.Engaged k → finish.Won k := by
        rintro k (⟨dep, passed⟩ | won)
        · exact absurd passed (complete k dep)
        · exact won
      exact unique i j (won i first) (won j second)

/-- A contender that is alone does what its handler does: its three steps lead to the store and
the answer of the handler in one piece. -/
theorem alone_settles (contenders : ι → Contender) (i : ι) (store : σ) :
    ∃ events finish, Run (Contend contenders) (Race.start store) events finish ∧
      finish.store = (settle store (contenders i).inst (contenders i).settlement).2 ∧
      finish.phase i =
        .answered (settle store (contenders i).inst (contenders i).settlement).1 := by
  obtain ⟨read, reading⟩ :
      ∃ read, Store.getDeposit store (contenders i).settlement.depositId = read := ⟨_, rfl⟩
  have first :
      Contend contenders (Race.start store) i ((Race.start store).enter i (.fetched read)) := by
    rw [← reading]
    rfl
  have shown : read.map (Store.view store) = read := by
    cases found : read with
    | none => rfl
    | some record => rw [Option.map_some, view_stored (reading.trans found)]
  have second : ((Race.start store).enter i (.fetched read)).check contenders i read =
      (contenders i).settlement.check (contenders i).inst read := by
    rw [Race.check, Race.enter_store, Race.start, shown]
  cases checked : (contenders i).settlement.check (contenders i).inst read with
  | error refused =>
    have outcome : settle store (contenders i).inst (contenders i).settlement =
        (refused, store) := by
      rw [settle, reading, checked]
    have last : Contend contenders ((Race.start store).enter i (.fetched read)) i
        (((Race.start store).enter i (.fetched read)).enter i (.answered refused)) := by
      simp only [Contend, Race.next, Race.enter_self, second, checked]
    refine ⟨_, _, (Run.single first).snoc last, ?_, ?_⟩
    · rw [outcome]
      rfl
    · rw [outcome, Race.enter_self]
  | ok dep =>
    let written := (Store.setDepositState store dep.id (contenders i).settlement.target).2
    have outcome : settle store (contenders i).inst (contenders i).settlement =
        ((contenders i).settlement.answer dep, written) := by
      rw [settle, reading, checked]
    let passed := ((Race.start store).enter i (.fetched read)).enter i (.passed dep)
    have third : Contend contenders ((Race.start store).enter i (.fetched read)) i passed := by
      simp only [Contend, Race.next, Race.enter_self, second, checked, passed]
    have last : Contend contenders passed i
        ({ passed with store := written }.enter i
          (.answered ((contenders i).settlement.answer dep))) := by
      simp only [Contend, Race.next, Race.enter_self, passed]
      rfl
    refine ⟨_, _, ((Run.single first).snoc third).snoc last, ?_, ?_⟩
    · rw [outcome]
      rfl
    · rw [outcome, Race.enter_self]

end

namespace Local

/-- A database whose record has been approved, and two releases of it. -/
def approved : PostgresStore := (serveAll env postgres [create, delivery 2000 .approved]).2

/-- Two releases of the one record, by its institution. -/
def rivals (_ : Bool) : Contender := ⟨institution, releaseSettlement ⟨"dep_rs_0", "07"⟩⟩

/-- How the rivals end when they take their steps in this order. -/
def raced (events : List Bool) : Option (Race PostgresStore Bool) :=
  play (Race.next rivals) (Race.start approved) events

/-- How they were answered by then. -/
def statuses (finish : Race PostgresStore Bool) : Option Nat × Option Nat :=
  (finish.status false, finish.status true)

/-- Steps that can be taken in this order are a run of the race. -/
theorem raced_run {events : List Bool} {finish : Race PostgresStore Bool}
    (played : raced events = some finish) :
    Run (Contend rivals) (Race.start approved) events finish :=
  play_run (fun _ _ _ taken => taken) played

/-- One after the other, the first wins, and every check was isolated. -/
theorem released_by_one : ∃ finish,
    Run (Guarded (Contend rivals) (Isolated rivals)) (Race.start approved)
      [false, false, false, true, true] finish ∧ finish.Won false ∧ ¬ finish.Won true := by
  have ended : (raced [false, false, false, true, true]).map statuses =
      some (some 200, some 409) := by
    decide +kernel
  obtain ⟨finish, played, answers⟩ := Option.map_eq_some_iff.mp ended
  obtain ⟨first, second⟩ := Prod.mk.inj answers
  have won : finish.Won false := Race.won_iff_status.mpr first
  have lost : ¬ finish.Won true := by
    rw [Race.won_iff_status, second]
    decide
  refine ⟨finish, ?_, won, lost⟩
  have named : ∀ i, (rivals i).settlement.depositId = "dep_rs_0" := fun _ => rfl
  refine (one_winner named (raced_run played)).2 ?_ ?_
  · intro i dep passed
    cases i with
    | false => simp [Race.status, passed] at first
    | true => simp [Race.status, passed] at second
  · intro i j left right
    cases i with
    | false =>
      cases j with
      | false => rfl
      | true => exact absurd right lost
    | true => exact absurd left lost

/-- Both read the record before either writes, and both are answered with success. -/
theorem released_by_both : ∃ finish,
    Run (Contend rivals) (Race.start approved) [false, true, false, true, false, true] finish ∧
      finish.Won false ∧ finish.Won true := by
  have ended : (raced [false, true, false, true, false, true]).map statuses =
      some (some 200, some 200) := by
    decide +kernel
  obtain ⟨finish, played, answers⟩ := Option.map_eq_some_iff.mp ended
  obtain ⟨first, second⟩ := Prod.mk.inj answers
  exact ⟨finish, raced_run played, Race.won_iff_status.mpr first, Race.won_iff_status.mpr second⟩

end Local

end GPay.Gateway
