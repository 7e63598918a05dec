import GpuTelemetry.Log
import GpuTelemetry.Metric.Sink

/-!
# Activities

What a collector does in one scrape, before it is known who listens: it records events and offers
samples, and goes on depending on whether each offer is accepted. Performing an activity against a
sink yields its result, the sink afterwards and the log, in order. Sequencing two activities
performs the second with the sink that the first leaves, and joins their logs.
-/

namespace GpuTelemetry

/-- A course of events and offers that ends with a result. -/
inductive Activity (α : Type) where
  /-- The end. -/
  | done (result : α)
  /-- Records an event. -/
  | record (event : Event) (rest : Activity α)
  /-- Offers a sample and goes on with the answer. -/
  | offer (sample : Sample) (rest : Bool → Activity α)

/-- What performing an activity leaves. -/
structure Performed (τ α : Type) where
  /-- The result of the activity. -/
  result : α
  /-- The sink after the last offer. -/
  sink : τ
  /-- The recorded events, in order. -/
  log : List Event
  deriving DecidableEq, Repr

namespace Activity

variable {α β τ : Type}

/-- Goes on with the result. -/
def bind : Activity α → (α → Activity β) → Activity β
  | .done result, next => next result
  | .record event rest, next => .record event (rest.bind next)
  | .offer sample rest, next => .offer sample fun accepted => (rest accepted).bind next

instance : Monad Activity where
  pure := .done
  bind := bind

/-- Records one event. -/
def log (event : Event) : Activity Unit := .record event (.done ())

/-- Offers samples in order up to the first refusal; tells whether all were accepted. -/
def emitAll : List Sample → Activity Bool
  | [] => .done true
  | sample :: rest => .offer sample fun accepted => if accepted then emitAll rest else .done false

/-- Performs an activity against a sink. -/
def perform [Sink τ] : Activity α → τ → Performed τ α
  | .done result, sink => ⟨result, sink, []⟩
  | .record event rest, sink =>
    let performed := rest.perform sink
    { performed with log := event :: performed.log }
  | .offer sample rest, sink =>
    let answer := Sink.accept sink sample
    (rest answer.1).perform answer.2

/-- Sequencing joins the logs and hands the sink on. -/
theorem perform_bind [Sink τ] (activity : Activity α) (next : α → Activity β) (sink : τ) :
    (activity.bind next).perform sink =
      let first := activity.perform sink
      let second := (next first.result).perform first.sink
      ⟨second.result, second.sink, first.log ++ second.log⟩ := by
  induction activity generalizing sink with
  | done result => rfl
  | record event rest ih => simp [bind, perform, ih]
  | offer sample rest ih => simp [bind, perform, ih]

end Activity

end GpuTelemetry
