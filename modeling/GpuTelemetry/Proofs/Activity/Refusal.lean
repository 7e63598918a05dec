import GpuTelemetry.Proofs.Activity.Course

/-!
# Refused offers

A sink takes a course as far as its first refusal. An activity is prompt if it ends there at once:
whatever the sink, its steps are then those of its course up to the refused offer, and its result
says that there was one.
-/

namespace GpuTelemetry

/-- How far a sink takes a course. -/
structure Reception (τ : Type) where
  /-- The steps up to the first refused offer, or all of them. -/
  steps : List Step
  /-- The refused sample, if there is one. -/
  refused : Option Sample
  /-- The sink then. -/
  sink : τ

namespace Sink

variable {τ : Type} [Sink τ]

/-- Takes a course up to and including the first refused offer. -/
def receive (sink : τ) : List Step → Reception τ
  | [] => ⟨[], none, sink⟩
  | .recorded event :: rest =>
    let received := receive sink rest
    { received with steps := .recorded event :: received.steps }
  | .offered sample :: rest =>
    let answer := accept sink sample
    if answer.1 then
      let received := receive answer.2 rest
      { received with steps := .offered sample :: received.steps }
    else ⟨[.offered sample], some sample, answer.2⟩

@[simp] theorem receive_nil (sink : τ) : receive sink [] = ⟨[], none, sink⟩ := rfl

/-- Events are received whatever the sink. -/
theorem receive_recorded (sink : τ) (e : Event) (rest : List Step) :
    receive sink (.recorded e :: rest) =
      { receive sink rest with steps := .recorded e :: (receive sink rest).steps } := rfl

/-- An accepted offer hands the sink on. -/
theorem receive_of_accept {sink : τ} {s : Sample} (h : (accept sink s).1 = true)
    (rest : List Step) : receive sink (.offered s :: rest) =
      { receive (accept sink s).2 rest with
        steps := .offered s :: (receive (accept sink s).2 rest).steps } := by
  simp only [receive, h, if_true]

/-- A refused offer is the last step. -/
theorem receive_of_refuse {sink : τ} {s : Sample} (h : (accept sink s).1 = false)
    (rest : List Step) :
    receive sink (.offered s :: rest) = ⟨[.offered s], some s, (accept sink s).2⟩ := by
  simp only [receive, h, Bool.false_eq_true, if_false]

/-- Behind a refusal nothing is received. -/
theorem receive_append_of_refused {sink : τ} {xs : List Step} {s : Sample}
    (h : (receive sink xs).refused = some s) (ys : List Step) :
    receive sink (xs ++ ys) = receive sink xs := by
  induction xs generalizing sink with
  | nil => simp at h
  | cons x xs ih =>
    cases x with
    | recorded e =>
      rw [List.cons_append, receive_recorded, receive_recorded, ih h]
    | offered t =>
      cases hc : (accept sink t).1 with
      | true =>
        rw [receive_of_accept hc] at h
        rw [List.cons_append, receive_of_accept hc, receive_of_accept hc, ih h]
      | false => rw [List.cons_append, receive_of_refuse hc, receive_of_refuse hc]

/-- Behind a course that is accepted, the second one is received where the first leaves the
sink. -/
theorem receive_append_of_accepts {sink : τ} {xs : List Step}
    (h : Accepts sink (Step.samples xs)) (ys : List Step) :
    receive sink (xs ++ ys) =
      { receive (after sink (Step.samples xs)) ys with
        steps := xs ++ (receive (after sink (Step.samples xs)) ys).steps } := by
  induction xs generalizing sink with
  | nil => rfl
  | cons x xs ih =>
    cases x with
    | recorded e => rw [List.cons_append, receive_recorded, ih h]; rfl
    | offered t => rw [List.cons_append, receive_of_accept h.1, ih h.2]; rfl

/-- Nothing is refused if and only if each sample of the course is accepted. -/
theorem receive_refused_eq_none_iff (sink : τ) (steps : List Step) :
    (receive sink steps).refused = none ↔ Accepts sink (Step.samples steps) := by
  induction steps generalizing sink with
  | nil => simp [Accepts]
  | cons x xs ih =>
    cases x with
    | recorded e => exact ih sink
    | offered s =>
      cases h : (accept sink s).1 with
      | true => simp [receive_of_accept h, Accepts, h, ih]
      | false => simp [receive_of_refuse h, Accepts, h]

/-- A course that is not accepted meets a first refusal. -/
theorem exists_refused {sink : τ} {steps : List Step}
    (h : ¬ Accepts sink (Step.samples steps)) : ∃ s, (receive sink steps).refused = some s := by
  cases hr : (receive sink steps).refused with
  | none => exact absurd ((receive_refused_eq_none_iff sink steps).mp hr) h
  | some s => exact ⟨s, rfl⟩

/-- Without a refusal the whole course is received. -/
theorem receive_of_accepts {sink : τ} {steps : List Step}
    (h : Accepts sink (Step.samples steps)) :
    receive sink steps = ⟨steps, none, after sink (Step.samples steps)⟩ := by
  induction steps generalizing sink with
  | nil => rfl
  | cons x xs ih =>
    cases x with
    | recorded e => rw [receive_recorded, ih h]; rfl
    | offered s => rw [receive_of_accept h.1, ih h.2]; rfl

/-- The received steps are the course up to a refused sample whose predecessors were accepted. -/
theorem receive_refused_eq_some {sink : τ} {steps : List Step} {s : Sample}
    (h : (receive sink steps).refused = some s) :
    ∃ before rest, steps = before ++ .offered s :: rest ∧
      (receive sink steps).steps = before ++ [.offered s] ∧
      Accepts sink (Step.samples before) ∧
      (accept (after sink (Step.samples before)) s).1 = false := by
  induction steps generalizing sink with
  | nil => simp at h
  | cons x xs ih =>
    cases x with
    | recorded e =>
      have h' : (receive sink xs).refused = some s := h
      obtain ⟨before, rest, hx, hs, ha, hr⟩ := ih h'
      refine ⟨.recorded e :: before, rest, congrArg (_ :: ·) hx, ?_, ha, hr⟩
      rw [receive_recorded, hs]
      rfl
    | offered t =>
      cases hc : (accept sink t).1 with
      | true =>
        rw [receive_of_accept hc] at h ⊢
        obtain ⟨before, rest, hx, hs, ha, hr⟩ := ih h
        refine ⟨.offered t :: before, rest, congrArg (_ :: ·) hx, ?_, ⟨hc, ha⟩, hr⟩
        exact congrArg (_ :: ·) hs
      | false =>
        rw [receive_of_refuse hc] at h ⊢
        obtain rfl := Option.some.inj h
        exact ⟨[], xs, rfl, rfl, trivial, hc⟩

/-- The sink has been offered the samples that were received. -/
theorem receive_sink (sink : τ) (steps : List Step) :
    (receive sink steps).sink = after sink (Step.samples (receive sink steps).steps) := by
  induction steps generalizing sink with
  | nil => rfl
  | cons x xs ih =>
    cases x with
    | recorded e => exact ih sink
    | offered s =>
      cases h : (accept sink s).1 with
      | true => rw [receive_of_accept h]; exact ih _
      | false => rw [receive_of_refuse h]; rfl

/-- What is received is a prefix of the course. -/
theorem receive_isPrefix (sink : τ) (steps : List Step) :
    (receive sink steps).steps <+: steps := by
  cases h : (receive sink steps).refused with
  | none =>
    have ha := receive_of_accepts ((receive_refused_eq_none_iff sink steps).mp h)
    exact ⟨[], by rw [ha, List.append_nil]⟩
  | some s =>
    obtain ⟨before, rest, hx, hs, _, _⟩ := receive_refused_eq_some h
    exact ⟨rest, by rw [hs, hx, List.append_assoc]; rfl⟩

end Sink

namespace Activity

variable {α β τ : Type}

/-- Records events in order and goes on. -/
def recordAll (events : List Event) (rest : Activity α) : Activity α :=
  events.foldr .record rest

@[simp] theorem course_recordAll (es : List Event) (rest : Activity α) :
    (recordAll es rest).course = es.map .recorded ++ rest.course := by
  induction es with
  | nil => rfl
  | cons e es ih => exact congrArg (.recorded e :: ·) ih

@[simp] theorem outcome_recordAll (es : List Event) (rest : Activity α) :
    (recordAll es rest).outcome = rest.outcome := by
  induction es with
  | nil => rfl
  | cons e es ih => exact ih

/-- After a refusal the activity does nothing but end with the given result. -/
def Prompt (closed : α) : Activity α → Prop
  | .done _ => True
  | .record _ rest => rest.Prompt closed
  | .offer _ rest => rest false = .done closed ∧ (rest true).Prompt closed

/-- Recording events first keeps an activity prompt. -/
theorem prompt_recordAll (closed : α) (es : List Event) {rest : Activity α}
    (h : rest.Prompt closed) : (recordAll es rest).Prompt closed := by
  induction es with
  | nil => exact h
  | cons e es ih => exact ih

/-- Offering samples in order is prompt, and a refusal is answered with `false`. -/
theorem prompt_emitAll (samples : List Sample) : (emitAll samples).Prompt false := by
  induction samples with
  | nil => trivial
  | cons s rest ih => exact ⟨rfl, ih⟩

/-- Prompt activities make a prompt sequence if the second ends at once when the first was cut
short. -/
theorem prompt_bind {closed : α} {closed' : β} {a : Activity α} {next : α → Activity β}
    (ha : a.Prompt closed) (hc : next closed = .done closed')
    (hn : ∀ result, (next result).Prompt closed') : (a.bind next).Prompt closed' := by
  induction a with
  | done result => exact hn result
  | record event rest ih => exact ih ha
  | offer sample rest ih =>
    obtain ⟨hf, ht⟩ := ha
    refine ⟨?_, ih true ht⟩
    change (rest false).bind next = _
    rw [hf]
    exact hc

/-- A prompt activity goes as far as the sink takes its course. -/
theorem trace_of_prompt [Sink τ] {closed : α} {a : Activity α} (h : a.Prompt closed) (sink : τ) :
    a.trace sink = (Sink.receive sink a.course).steps := by
  induction a generalizing sink with
  | done result => rfl
  | record event rest ih => exact congrArg (.recorded event :: ·) (ih h sink)
  | offer sample rest ih =>
    obtain ⟨hf, ht⟩ := h
    simp only [trace, course]
    cases hc : (Sink.accept sink sample).1 with
    | true =>
      rw [Sink.receive_of_accept hc]
      exact congrArg (.offered sample :: ·) (ih true ht _)
    | false =>
      rw [Sink.receive_of_refuse hc, hf]
      rfl

/-- A prompt activity of which something is refused ends with the result for that. -/
theorem result_of_prompt [Sink τ] {closed : α} {a : Activity α} (h : a.Prompt closed) {sink : τ}
    {s : Sample} (hr : (Sink.receive sink a.course).refused = some s) :
    (a.perform sink).result = closed := by
  induction a generalizing sink with
  | done result => simp [course] at hr
  | record event rest ih => exact ih h hr
  | offer sample rest ih =>
    obtain ⟨hf, ht⟩ := h
    simp only [perform]
    cases hc : (Sink.accept sink sample).1 with
    | true =>
      simp only [course, Sink.receive_of_accept hc] at hr
      exact ih true ht hr
    | false =>
      rw [hf]
      rfl

end Activity

end GpuTelemetry
