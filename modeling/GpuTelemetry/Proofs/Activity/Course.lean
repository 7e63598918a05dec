import GpuTelemetry.Collector.Activity

/-!
# The course of an activity

The steps of a performed activity are its events and its offers, in the order in which they
happen: the events among them are the log, and the offers fix the sink afterwards. An activity of
which nothing is refused runs its full course, whatever the sink.
-/

namespace GpuTelemetry

/-- One step of a performed activity. -/
inductive Step where
  /-- An event is recorded. -/
  | recorded (event : Event)
  /-- A sample is offered, whatever the answer. -/
  | offered (sample : Sample)
  deriving DecidableEq, Repr

namespace Step

/-- The event of a step, if it records one. -/
def event? : Step → Option Event
  | .recorded event => some event
  | .offered _ => none

/-- The sample of a step, if it offers one. -/
def sample? : Step → Option Sample
  | .recorded _ => none
  | .offered sample => some sample

/-- The recorded events, in order. -/
def events (steps : List Step) : List Event := steps.filterMap event?

/-- The offered samples, in order. -/
def samples (steps : List Step) : List Sample := steps.filterMap sample?

@[simp] theorem samples_nil : samples [] = [] := rfl

@[simp] theorem events_recorded (e : Event) (rest : List Step) :
    events (.recorded e :: rest) = e :: events rest := rfl

@[simp] theorem events_offered (s : Sample) (rest : List Step) :
    events (.offered s :: rest) = events rest := rfl

@[simp] theorem samples_recorded (e : Event) (rest : List Step) :
    samples (.recorded e :: rest) = samples rest := rfl

@[simp] theorem samples_offered (s : Sample) (rest : List Step) :
    samples (.offered s :: rest) = s :: samples rest := rfl

@[simp] theorem events_append (xs ys : List Step) :
    events (xs ++ ys) = events xs ++ events ys := List.filterMap_append

@[simp] theorem samples_append (xs ys : List Step) :
    samples (xs ++ ys) = samples xs ++ samples ys := List.filterMap_append

@[simp] theorem events_map_recorded (es : List Event) : events (es.map .recorded) = es := by
  induction es with
  | nil => rfl
  | cons e es ih => simp only [List.map_cons, events_recorded, ih]

@[simp] theorem samples_map_recorded (es : List Event) : samples (es.map .recorded) = [] := by
  induction es with
  | nil => rfl
  | cons e es ih => simp only [List.map_cons, samples_recorded, ih]

@[simp] theorem events_map_offered (ss : List Sample) : events (ss.map .offered) = [] := by
  induction ss with
  | nil => rfl
  | cons s ss ih => simp only [List.map_cons, events_offered, ih]

@[simp] theorem samples_map_offered (ss : List Sample) : samples (ss.map .offered) = ss := by
  induction ss with
  | nil => rfl
  | cons s ss ih => simp only [List.map_cons, samples_offered, ih]

/-- Courses that are laid out index by index have their events laid out that way. -/
theorem events_flatMap {α : Type} (f : α → List Step) (xs : List α) :
    events (xs.flatMap f) = xs.flatMap fun x => events (f x) := by
  induction xs with
  | nil => rfl
  | cons x xs ih => simp only [List.flatMap_cons, events_append, ih]

/-- Their samples are laid out that way, too. -/
theorem samples_flatMap {α : Type} (f : α → List Step) (xs : List α) :
    samples (xs.flatMap f) = xs.flatMap fun x => samples (f x) := by
  induction xs with
  | nil => rfl
  | cons x xs ih => simp only [List.flatMap_cons, samples_append, ih]

end Step

namespace Sink

variable {τ : Type} [Sink τ]

/-- The sink after samples were offered in order, whatever it said of them. -/
def after (sink : τ) : List Sample → τ
  | [] => sink
  | s :: rest => after (accept sink s).2 rest

/-- The sink accepts each of the samples when they are offered in order. -/
def Accepts (sink : τ) : List Sample → Prop
  | [] => True
  | s :: rest => (accept sink s).1 = true ∧ Accepts (accept sink s).2 rest

/-- The sink accepts whatever it is offered, now and later. -/
def Willing (sink : τ) : Prop := ∀ samples, Accepts sink samples

end Sink

/-- A collected list takes everything. -/
theorem Collected.willing (sink : Collected) : Sink.Willing sink := by
  intro samples
  induction samples generalizing sink with
  | nil => trivial
  | cons s rest ih => exact ⟨rfl, ih _⟩

/-- A collected list keeps everything, in order. -/
@[simp] theorem Collected.samples_after (sink : Collected) (samples : List Sample) :
    (Sink.after sink samples).samples = sink.samples ++ samples := by
  induction samples generalizing sink with
  | nil => exact (List.append_nil _).symm
  | cons s rest ih =>
    rw [Sink.after, ih]
    exact List.append_assoc sink.samples [s] rest

namespace Activity

variable {α β τ : Type}

/-- The steps of an activity performed against a sink. -/
def trace [Sink τ] : Activity α → τ → List Step
  | .done _, _ => []
  | .record event rest, sink => .recorded event :: rest.trace sink
  | .offer sample rest, sink =>
    let answer := Sink.accept sink sample
    .offered sample :: (rest answer.1).trace answer.2

/-- The log is what the steps record. -/
theorem perform_log [Sink τ] (a : Activity α) (sink : τ) :
    (a.perform sink).log = Step.events (a.trace sink) := by
  induction a generalizing sink with
  | done result => rfl
  | record event rest ih => exact congrArg (event :: ·) (ih sink)
  | offer sample rest ih => exact ih _ _

/-- The sink afterwards has been offered the samples of the steps and nothing else. -/
theorem perform_sink [Sink τ] (a : Activity α) (sink : τ) :
    (a.perform sink).sink = Sink.after sink (Step.samples (a.trace sink)) := by
  induction a generalizing sink with
  | done result => rfl
  | record event rest ih => exact ih sink
  | offer sample rest ih => exact ih _ _

/-- The second of two activities goes on with the result and the sink of the first. -/
theorem trace_bind [Sink τ] (a : Activity α) (next : α → Activity β) (sink : τ) :
    (a.bind next).trace sink =
      a.trace sink ++ (next (a.perform sink).result).trace (a.perform sink).sink := by
  induction a generalizing sink with
  | done result => rfl
  | record event rest ih => exact congrArg (.recorded event :: ·) (ih sink)
  | offer sample rest ih => exact congrArg (.offered sample :: ·) (ih _ _)

/-- The steps of an activity of which nothing is refused. -/
def course : Activity α → List Step
  | .done _ => []
  | .record event rest => .recorded event :: rest.course
  | .offer sample rest => .offered sample :: (rest true).course

/-- The result of an activity of which nothing is refused. -/
def outcome : Activity α → α
  | .done result => result
  | .record _ rest => rest.outcome
  | .offer _ rest => (rest true).outcome

@[simp] theorem course_done (result : α) : (done result).course = [] := rfl

@[simp] theorem outcome_done (result : α) : (done result).outcome = result := rfl

@[simp] theorem course_bind (a : Activity α) (next : α → Activity β) :
    (a.bind next).course = a.course ++ (next a.outcome).course := by
  induction a with
  | done result => rfl
  | record event rest ih => exact congrArg (.recorded event :: ·) ih
  | offer sample rest ih => exact congrArg (.offered sample :: ·) (ih true)

@[simp] theorem outcome_bind (a : Activity α) (next : α → Activity β) :
    (a.bind next).outcome = (next a.outcome).outcome := by
  induction a with
  | done result => rfl
  | record event rest ih => exact ih
  | offer sample rest ih => exact ih true

@[simp] theorem course_emitAll (samples : List Sample) :
    (emitAll samples).course = samples.map .offered := by
  induction samples with
  | nil => rfl
  | cons s rest ih => exact congrArg (.offered s :: ·) ih

@[simp] theorem outcome_emitAll (samples : List Sample) : (emitAll samples).outcome = true := by
  induction samples with
  | nil => rfl
  | cons s rest ih => exact ih

/-- A sink that accepts the full course is taken through all of it. -/
theorem trace_of_accepts [Sink τ] (a : Activity α) {sink : τ}
    (h : Sink.Accepts sink (Step.samples a.course)) : a.trace sink = a.course := by
  induction a generalizing sink with
  | done result => rfl
  | record event rest ih => exact congrArg (.recorded event :: ·) (ih h)
  | offer sample rest ih =>
    obtain ⟨ha, hr⟩ := h
    simp only [trace, course, ha]
    exact congrArg (.offered sample :: ·) (ih true hr)

/-- A sink that accepts the full course sees the outcome of it. -/
theorem result_of_accepts [Sink τ] (a : Activity α) {sink : τ}
    (h : Sink.Accepts sink (Step.samples a.course)) : (a.perform sink).result = a.outcome := by
  induction a generalizing sink with
  | done result => rfl
  | record event rest ih => exact ih h
  | offer sample rest ih =>
    obtain ⟨ha, hr⟩ := h
    simp only [perform, outcome, ha]
    exact ih true hr

/-- Collecting an activity into an empty list leaves the samples of its full course. -/
theorem samples_perform_empty (a : Activity α) :
    (a.perform Collected.empty).sink.samples = Step.samples a.course := by
  rw [perform_sink, trace_of_accepts a (Collected.willing _ _), Collected.samples_after]
  rfl

end Activity

end GpuTelemetry
