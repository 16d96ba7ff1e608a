import Mathlib.Algebra.BigOperators.Group.List.Basic
import Mathlib.Algebra.Order.Monoid.Defs
import Mathlib.Data.List.Induction
import Mathlib.Tactic.GCongr

/-!
# Finite labelled runs

A transition relation carries an event on every step. A run lists its events in
order and names its two end states; it is built at its end, so that an
invariant is proved by one step at a time. Splitting, joining and guarding runs
are independent of what the states and the events are.

Counting rules bound how often an event occurs along a run, and what its events cost,
by a measure of its first state. An executable step function yields runs by evaluation.

A machine answers every input. One that simulates another, state by state, gives its
answers along every list of inputs that the other one's states allow.
-/

namespace GPay.Runs

universe u v
variable {σ : Type u} {ε : Type v}

/-- A finite run from `start`, with the events it took and the state it reached. It grows at its
end, so that induction on a run is about its last step. -/
inductive Run (step : σ → ε → σ → Prop) (start : σ) : List ε → σ → Prop
  | nil : Run step start [] start
  | snoc {events : List ε} {middle finish : σ} {event : ε}
      (earlier : Run step start events middle) (last : step middle event finish) :
      Run step start (events ++ [event]) finish

variable {step : σ → ε → σ → Prop}

namespace Run

/-- A single step is a run of one event. -/
theorem single {start finish : σ} {event : ε} (taken : step start event finish) :
    Run step start [event] finish :=
  Run.nil.snoc taken

/-- Runs that meet in a state join. -/
theorem append {start middle finish : σ} {before after : List ε}
    (first : Run step start before middle) (second : Run step middle after finish) :
    Run step start (before ++ after) finish := by
  induction second with
  | nil => simpa using first
  | snoc earlier last joined => simpa using joined.snoc last

/-- A run may be extended at its front. -/
theorem cons {start middle finish : σ} {event : ε} {after : List ε}
    (taken : step start event middle) (rest : Run step middle after finish) :
    Run step start (event :: after) finish := by
  simpa using (single taken).append rest

/-- A run of no events stays where it is. -/
theorem of_nil {start finish : σ} (run : Run step start [] finish) : finish = start := by
  generalize vacant : ([] : List ε) = events at run
  cases run with
  | nil => rfl
  | snoc earlier last => simp at vacant

/-- The last event of a run was a step out of the state reached before it. -/
theorem of_snoc {start finish : σ} {events : List ε} {event : ε}
    (run : Run step start (events ++ [event]) finish) :
    ∃ middle, Run step start events middle ∧ step middle event finish := by
  generalize listed : events ++ [event] = all at run
  cases run with
  | nil => simp at listed
  | @snoc others middle _ other earlier last =>
    obtain ⟨rfl, rfl⟩ : events = others ∧ event = other := by
      simpa using List.append_inj' listed rfl
    exact ⟨middle, earlier, last⟩

/-- A run splits at every position of its event list. -/
theorem split {start finish : σ} {before after : List ε}
    (run : Run step start (before ++ after) finish) :
    ∃ middle, Run step start before middle ∧ Run step middle after finish := by
  induction after using List.reverseRecOn generalizing finish with
  | nil => exact ⟨finish, by simpa using run, Run.nil⟩
  | append_singleton after event shorter =>
    rw [← List.append_assoc] at run
    obtain ⟨previous, earlier, last⟩ := run.of_snoc
    obtain ⟨middle, first, second⟩ := shorter earlier
    exact ⟨middle, first, second.snoc last⟩

/-- The first event of a run was a step out of its start. -/
theorem of_cons {start finish : σ} {event : ε} {after : List ε}
    (run : Run step start (event :: after) finish) :
    ∃ middle, step start event middle ∧ Run step middle after finish := by
  have joined : Run step start ([event] ++ after) finish := run
  obtain ⟨middle, first, rest⟩ := joined.split
  have ended : Run step start ([] ++ [event]) middle := first
  obtain ⟨origin, vacant, taken⟩ := ended.of_snoc
  rw [of_nil vacant] at taken
  exact ⟨middle, taken, rest⟩

/-- Every listed event was a step between two states. -/
theorem taken {start finish : σ} {events : List ε} (run : Run step start events finish) {event : ε}
    (listed : event ∈ events) : ∃ before after, step before event after := by
  induction run with
  | nil => cases listed
  | snoc earlier last found =>
    rcases List.mem_append.mp listed with inside | final
    · exact found inside
    · exact List.mem_singleton.mp final ▸ ⟨_, _, last⟩

/-- A run of a relation is a run of every weaker relation. -/
theorem mono {weaker : σ → ε → σ → Prop}
    (weakens : ∀ before event after, step before event after → weaker before event after)
    {start finish : σ} {events : List ε} (run : Run step start events finish) :
    Run weaker start events finish := by
  induction run with
  | nil => exact Run.nil
  | snoc earlier last weakened => exact weakened.snoc (weakens _ _ _ last)

/-- A property that holds at the start and survives every step holds at the end. -/
theorem invariant {holds : σ → Prop}
    (preserved : ∀ before event after, holds before → step before event after → holds after)
    {start finish : σ} {events : List ε} (initial : holds start)
    (run : Run step start events finish) : holds finish := by
  induction run with
  | nil => exact initial
  | snoc earlier last previous => exact preserved _ _ _ previous last

/-- A property that survives the steps out of states with an established invariant
holds at the end of every run. -/
theorem invariant_within {assumed holds : σ → Prop}
    (established : ∀ before event after, assumed before → step before event after → assumed after)
    (preserved : ∀ before event after, assumed before → holds before → step before event after →
      holds after)
    {start finish : σ} {events : List ε} (base : assumed start) (initial : holds start)
    (run : Run step start events finish) : holds finish := by
  have both : ∀ before event after, assumed before ∧ holds before → step before event after →
      assumed after ∧ holds after := by
    rintro before event after ⟨assumption, held⟩ taken
    exact ⟨established before event after assumption taken,
      preserved before event after assumption held taken⟩
  exact (run.invariant both ⟨base, initial⟩).2

/-- A measure that pays one unit for every counted event bounds their number. -/
theorem count_le {counted : ε → Bool} {measure : σ → Nat}
    (paid : ∀ before event after, step before event after →
      (counted event).toNat + measure after ≤ measure before)
    {start finish : σ} {events : List ε} (run : Run step start events finish) :
    events.countP counted + measure finish ≤ measure start := by
  induction run with
  | nil => simp
  | @snoc events middle finish event earlier last previous =>
    have unit := paid _ _ _ last
    have counts : (events ++ [event]).countP counted =
        events.countP counted + (counted event).toNat := by
      cases same : counted event <;> simp [List.countP_append, same]
    omega

/-- A measure that pays for the cost of every step bounds the cost of the run. -/
theorem sum_le {α : Type*} [AddCommMonoid α] [PartialOrder α] [IsOrderedAddMonoid α]
    (cost : ε → α) (measure : σ → α)
    (paid : ∀ before event after, step before event after →
      cost event + measure after ≤ measure before)
    {start finish : σ} {events : List ε} (run : Run step start events finish) :
    (events.map cost).sum + measure finish ≤ measure start := by
  induction run with
  | nil => simp
  | @snoc events middle finish event earlier last previous =>
    calc ((events ++ [event]).map cost).sum + measure finish
        = (events.map cost).sum + (cost event + measure finish) := by simp [add_assoc]
      _ ≤ (events.map cost).sum + measure middle := by gcongr; exact paid _ _ _ last
      _ ≤ measure start := previous

end Run

/-- Steps that also meet a condition on their first state and event. A run of guarded steps is a
run all of whose steps meet the condition. -/
def Guarded (step : σ → ε → σ → Prop) (allowed : σ → ε → Prop) : σ → ε → σ → Prop :=
  fun before event after => step before event after ∧ allowed before event

/-- A guarded run is a run. -/
theorem Run.unguarded {allowed : σ → ε → Prop} {start finish : σ} {events : List ε}
    (run : Run (Guarded step allowed) start events finish) : Run step start events finish :=
  run.mono (fun _ _ _ guarded => guarded.1)

/-- A run whose events all meet a condition is guarded by it. -/
theorem Run.guard_events {allowed : ε → Prop} {start finish : σ} {events : List ε}
    (run : Run step start events finish) (each : ∀ event ∈ events, allowed event) :
    Run (Guarded step (fun _ event => allowed event)) start events finish := by
  induction run with
  | nil => exact Run.nil
  | snoc earlier last guarded =>
    refine (guarded (fun event member => each event (by simp [member]))).snoc ?_
    exact ⟨last, each _ (by simp)⟩

/-- An invariant of every step may be assumed of the first state of every step. -/
theorem Run.assuming {holds : σ → Prop}
    (preserved : ∀ before event after, holds before → step before event after → holds after)
    {start finish : σ} {events : List ε} (initial : holds start)
    (run : Run step start events finish) :
    Run (Guarded step (fun before _ => holds before)) start events finish := by
  induction run with
  | nil => exact Run.nil
  | snoc earlier last guarded =>
    exact guarded.snoc ⟨last, earlier.invariant preserved initial⟩

/-- A second relation follows the kept events of a run, and related states stay related
on every history of events that is allowed. -/
theorem Run.project {τ : Type*} {shadow : τ → ε → τ → Prop} (kept : ε → Bool)
    (allowed : List ε → Prop) (related : List ε → σ → τ → Prop)
    (shorter : ∀ events event, allowed (events ++ [event]) → allowed events)
    (followed : ∀ events before event after image, allowed (events ++ [event]) →
      related events before image → step before event after →
      if kept event = true then
        ∃ next, shadow image event next ∧ related (events ++ [event]) after next
      else related (events ++ [event]) after image)
    {start finish : σ} {origin : τ} {events : List ε} (history : allowed events)
    (initial : related [] start origin) (run : Run step start events finish) :
    ∃ image, Run shadow origin (events.filter kept) image ∧ related events finish image := by
  induction run with
  | nil => exact ⟨origin, Run.nil, initial⟩
  | @snoc events middle finish event earlier last previous =>
    obtain ⟨image, traced, held⟩ := previous (shorter _ _ history)
    have next := followed events middle event finish image history held last
    cases keeps : kept event with
    | false =>
      rw [if_neg (by simp [keeps])] at next
      exact ⟨image, by simpa [keeps] using traced, next⟩
    | true =>
      rw [if_pos keeps] at next
      obtain ⟨following, shadowed, rest⟩ := next
      exact ⟨following, by simpa [keeps] using traced.snoc shadowed, rest⟩

/-- Evaluate a list of events, stopping at the first that is refused. What is evaluated to the
end is a run. -/
def play (next : σ → ε → Option σ) : σ → List ε → Option σ
  | state, [] => some state
  | state, event :: rest => (next state event).bind (fun following => play next following rest)

/-- An evaluation that is not refused is a run. -/
theorem play_run {next : σ → ε → Option σ}
    (sound : ∀ before event after, next before event = some after → step before event after)
    {start finish : σ} {events : List ε} (played : play next start events = some finish) :
    Run step start events finish := by
  induction events generalizing start with
  | nil =>
    have same : start = finish := Option.some.inj played
    exact same ▸ Run.nil
  | cons event rest continued =>
    obtain ⟨middle, first, remaining⟩ := Option.bind_eq_some_iff.mp played
    exact Run.cons (sound _ _ _ first) (continued remaining)

/-- Refuse the steps that a condition forbids. -/
def sift (next : σ → ε → Option σ) (allowed : σ → ε → Prop)
    [∀ state event, Decidable (allowed state event)] : σ → ε → Option σ :=
  fun state event => if allowed state event then next state event else none

/-- What is not refused is a guarded step. -/
theorem sift_guarded {next : σ → ε → Option σ} {allowed : σ → ε → Prop}
    [∀ state event, Decidable (allowed state event)]
    (sound : ∀ before event after, next before event = some after → step before event after)
    (before : σ) (event : ε) (after : σ) (taken : sift next allowed before event = some after) :
    Guarded step allowed before event after := by
  obtain ⟨permitted, stepped⟩ := Option.ite_none_right_eq_some.mp taken
  exact ⟨sound _ _ _ stepped, permitted⟩

section Machine

universe w x
variable {τ : Type w} {ι ω : Type x}

/-- The answers of a machine along its inputs. -/
def outputs (next : σ → ι → ω × σ) : σ → List ι → List ω
  | _, [] => []
  | state, input :: rest => (next state input).1 :: outputs next (next state input).2 rest

/-- Every input is allowed in the state that it meets. -/
def Along (next : σ → ι → ω × σ) (allowed : σ → ι → Prop) : σ → List ι → Prop
  | _, [] => True
  | state, input :: rest => allowed state input ∧ Along next allowed (next state input).2 rest

instance Along.decidable {next : σ → ι → ω × σ} {allowed : σ → ι → Prop}
    [∀ state input, Decidable (allowed state input)] :
    (state : σ) → (inputs : List ι) → Decidable (Along next allowed state inputs)
  | _, [] => isTrue trivial
  | state, input :: rest =>
      have : Decidable (Along next allowed (next state input).2 rest) :=
        Along.decidable _ rest
      inferInstanceAs (Decidable (allowed state input ∧ _))

/-- A machine that simulates another gives its answers. -/
theorem outputs_simulated {abstract : σ → ι → ω × σ} {concrete : τ → ι → ω × τ}
    {allowed : σ → ι → Prop} (related : σ → τ → Prop)
    (simulates : ∀ state image input, related state image → allowed state input →
      (concrete image input).1 = (abstract state input).1 ∧
        related (abstract state input).2 (concrete image input).2)
    {state : σ} {image : τ} (initial : related state image) {inputs : List ι}
    (along : Along abstract allowed state inputs) :
    outputs concrete image inputs = outputs abstract state inputs := by
  induction inputs generalizing state image with
  | nil => rfl
  | cons input rest continued =>
    obtain ⟨answer, next⟩ := simulates state image input initial along.1
    rw [outputs, outputs, answer, continued next along.2]

end Machine

end GPay.Runs
