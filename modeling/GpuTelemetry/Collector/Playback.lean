import GpuTelemetry.Collector.Basic

/-!
# Playback collectors

A collector that plays recorded takes, one per scrape, and repeats the last one. A take lists
samples that are built only when they are played, and the failure it ends with, if any.
-/

namespace GpuTelemetry

/-- A sample to be built. -/
structure Emission where
  /-- The metric. -/
  descriptor : Descriptor
  /-- The value. -/
  value : Binary64
  /-- The label values; their number is checked when the sample is built. -/
  labelValues : List String
  deriving DecidableEq, Repr

/-- What happens in one scrape. -/
structure Take where
  /-- The samples, in order. -/
  emissions : List Emission
  /-- The failure after all of them. -/
  failure : Option Failure
  /-- Whether refusals are ignored rather than passed on. -/
  ignoresRefusal : Bool
  deriving DecidableEq, Repr

/-- A collector that plays takes. -/
structure Playback where
  /-- The declared metrics. -/
  descriptors : List Descriptor
  /-- The takes, in order. -/
  takes : List Take
  /-- How many scrapes there have been. -/
  played : Nat
  deriving DecidableEq, Repr

namespace Take

/-- A take in which nothing happens. -/
def idle : Take := ⟨[], none, false⟩

/-- Builds and offers samples in order, then ends as the take says. -/
def play (take : Take) : List Emission → Activity (Except Failure Unit)
  | [] => .done (take.failure.elim (.ok ()) .error)
  | emission :: rest =>
    match Sample.create emission.descriptor emission.value emission.labelValues with
    | .error failure => .done (.error failure)
    | .ok sample => .offer sample fun accepted =>
      if accepted || take.ignoresRefusal then take.play rest else .done (.error .sinkClosed)

end Take

namespace Playback

/-- The take of the next scrape. -/
def current (playback : Playback) : Take :=
  (playback.takes[min playback.played (playback.takes.length - 1)]?).getD .idle

instance : Collector Playback where
  descriptors := Playback.descriptors
  update playback :=
    (playback.current.play playback.current.emissions).bind fun result =>
      .done (result, { playback with played := playback.played + 1 })

end Playback

end GpuTelemetry
