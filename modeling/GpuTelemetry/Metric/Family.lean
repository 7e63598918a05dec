import GpuTelemetry.Metric.Sample

/-!
# Metric families

Samples are served by family: all metrics of one name together, under one help. Families appear
in the order in which their names first occur, and a family keeps its metrics in the order of the
samples; its help is that of its first sample.
-/

namespace GpuTelemetry

/-- How the values of a family move. -/
inductive MetricKind where
  /-- Up and down. -/
  | gauge
  /-- Up only. -/
  | counter
  deriving DecidableEq, Repr

/-- The metrics of one name. -/
structure Family where
  /-- The name they share. -/
  name : String
  /-- What they mean. -/
  help : String
  /-- How they move. -/
  kind : MetricKind
  /-- The metrics themselves. -/
  metrics : List Metric
  deriving DecidableEq, Repr

namespace Family

/-- The family of a single sample. -/
def ofSample (s : Sample) : Family := ⟨s.name, s.descriptor.help, .gauge, [s.metric]⟩

/-- Puts the metrics of a family behind those of the family with its name, or the family behind
all others if there is none. -/
def merge (families : List Family) (family : Family) : List Family :=
  match families with
  | [] => [family]
  | head :: rest =>
    if head.name = family.name then { head with metrics := head.metrics ++ family.metrics } :: rest
    else head :: merge rest family

/-- The families of samples. -/
def group (samples : List Sample) : List Family :=
  (samples.map ofSample).foldl merge []

/-- One more sample at the end joins its family last. -/
theorem group_append_singleton (samples : List Sample) (s : Sample) :
    group (samples ++ [s]) = merge (group samples) (ofSample s) := by
  simp [group]

end Family

end GpuTelemetry
