import GpuTelemetry.Collector.Basic

/-!
# Rosters

A roster is the list of the collectors that are active, each under its name, together with the two
metrics that every scrape gives for each of them: how long it took and whether it succeeded.
-/

namespace GpuTelemetry

/-- A collector under its name. -/
structure Member (κ : Type) where
  /-- The name. -/
  name : String
  /-- The collector, with its state. -/
  collector : κ
  deriving DecidableEq, Repr

/-- The active collectors. -/
structure Roster (κ : Type) where
  /-- The metric of how long a collector took. -/
  duration : LabelledBy ["collector"]
  /-- The metric of whether a collector succeeded. -/
  success : LabelledBy ["collector"]
  /-- The collectors, in the order in which they run. -/
  members : List (Member κ)

namespace Roster

variable {κ : Type}

/-- A roster without collectors; the namespace must make metric names. -/
def create (metricNamespace : String) : Except Failure (Roster κ) := do
  let duration ← LabelledBy.create metricNamespace "scrape" "collector_duration_seconds"
    "Duration of a collector scrape." ["collector"]
  let success ← LabelledBy.create metricNamespace "scrape" "collector_success"
    "Whether a collector succeeded." ["collector"]
  return ⟨duration, success, []⟩

/-- The names of the collectors, in order. -/
def names (roster : Roster κ) : List String := roster.members.map Member.name

/-- Whether there are no collectors. -/
def isEmpty (roster : Roster κ) : Bool := roster.members.isEmpty

/-- Every metric that a scrape may give: the roster's own two, then those of each collector. -/
def descriptors [Collector κ] (roster : Roster κ) : List Descriptor :=
  roster.duration.1 :: roster.success.1 ::
    roster.members.flatMap fun member => Collector.descriptors member.collector

/-- The same roster with every collector replaced. -/
def map {κ' : Type} (f : κ → κ') (roster : Roster κ) : Roster κ' :=
  ⟨roster.duration, roster.success, roster.members.map fun m => ⟨m.name, f m.collector⟩⟩

@[simp] theorem names_map {κ' : Type} (f : κ → κ') (roster : Roster κ) :
    (roster.map f).names = roster.names := by
  simp [names, map]

end Roster

end GpuTelemetry
