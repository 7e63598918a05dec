import GpuTelemetry.Exposition.Message
import GpuTelemetry.Roster.Scrape

/-!
# The serving registry

Rosters are registered once and gathered on every page view. Registration compares the declared
metrics with those of earlier registrations by their digests; a name keeps the shape it was first
seen with, even if that registration fails later on. A roster as a whole is known by the sum of its
digests, and two rosters of one sum count as the same. Gathering scrapes every roster, joins the
families by name and brings everything into a fixed order.
-/

namespace GpuTelemetry.Serving

/-- Registered rosters and how their families are presented. -/
structure Registry (κ : Type) where
  /-- What is put in front of every family name, if anything. -/
  scope : Option String
  /-- A label that every metric gets in addition. -/
  commonLabel : Option (String × String)
  /-- The digests of the registered metric names. -/
  ids : List UInt64
  /-- The shape of each name that was ever declared. -/
  shapes : List (String × UInt64)
  /-- The sums by which the registered rosters are known. -/
  sums : List UInt64
  /-- The rosters, in the order of registration. -/
  rosters : List (Roster κ)

namespace Registry

variable {κ : Type}

/-- A registry without rosters; the scope must not be empty. -/
def create (scope : Option String) (commonLabel : Option (String × String)) :
    Except ServingError (Registry κ) :=
  if scope = some "" then .error (.refused "empty prefix namespace")
  else .ok ⟨scope, commonLabel, [], [], [], []⟩

/-- Checks the declared metrics of one roster. `own` are the digests already checked, the latest
first; known shapes outlast a failed check. -/
def checkAll (ids : List UInt64) (own : List UInt64) (shapes : List (String × UInt64)) :
    List Descriptor → Except ServingError (List UInt64) × List (String × UInt64)
  | [] => (.ok own, shapes)
  | d :: rest =>
    if d.id ∈ ids then (.error .alreadyRegistered, shapes)
    else
      let known := shapes.lookup d.name
      if known.any (· != d.shape) then
        (.error (.refused ("a previously registered descriptor with the same fully-qualified " ++
          "name as " ++ d.describe ++ " has different label names or a different help string")),
          shapes)
      else
        let shapes := if known.isNone then (d.name, d.shape) :: shapes else shapes
        if d.id ∈ own then
          (.error (.refused ("a duplicate descriptor within the same collector the same " ++
            "fully-qualified name: " ++ Text.quoted d.name)), shapes)
        else checkAll ids (d.id :: own) shapes rest

/-- The sum of digests, by which a roster is known. -/
def digestSum (ids : List UInt64) : UInt64 := ids.foldl (· + ·) 0

/-- Registers a roster if its metrics are new and agree with known ones, and no registered roster
has its sum. -/
def register [Collector κ] (registry : Registry κ) (roster : Roster κ) :
    Except ServingError Unit × Registry κ :=
  match checkAll registry.ids [] registry.shapes roster.descriptors with
  | (.error cause, shapes) => (.error cause, { registry with shapes })
  | (.ok own, shapes) =>
    if digestSum own ∈ registry.sums then (.error .alreadyRegistered, { registry with shapes })
    else
      (.ok (), { registry with
        ids := own ++ registry.ids
        shapes
        sums := digestSum own :: registry.sums
        rosters := registry.rosters ++ [roster] })

/-- Whether a metric may stand before another: fewer labels first, then smaller label values from
the first one on. -/
def metricLE (a b : Metric) : Bool :=
  if a.labels.length = b.labels.length then
    !List.lex (b.labels.map Prod.snd) (a.labels.map Prod.snd) fun x y => decide (x < y)
  else decide (a.labels.length ≤ b.labels.length)

/-- Families without metrics left out, the others joined by name and ordered by name, their
metrics ordered. -/
def arrange (families : List Family) : List Family :=
  let joined := (families.filter fun f => !f.metrics.isEmpty).foldl Family.merge []
  (joined.mergeSort fun a b => decide (a.name ≤ b.name)).map fun f =>
    { f with metrics := f.metrics.mergeSort metricLE }

/-- A family as the registry presents it. -/
def present (registry : Registry κ) (f : Family) : Family :=
  { f with
    name := registry.scope.elim f.name fun scope => scope ++ "_" ++ f.name
    metrics := f.metrics.map fun m =>
      { m with labels := m.labels ++ registry.commonLabel.toList } }

/-- Scrapes rosters in order; gives their families and their new states. -/
def collectAll [Collector κ] (clock : Clock) : List (Roster κ) → List Family × List (Roster κ)
  | [] => ([], [])
  | roster :: rest =>
    let collection := roster.collect clock
    let later := collectAll clock rest
    (collection.families ++ later.1, collection.roster :: later.2)

/-- The families of all rosters, as the registry presents them. -/
def gather [Collector κ] (registry : Registry κ) (clock : Clock) : List Family × Registry κ :=
  let (families, rosters) := collectAll clock registry.rosters
  ((arrange families).map registry.present, { registry with rosters })

/-- The page of all rosters. -/
def writePage [Collector κ] (registry : Registry κ) (clock : Clock) :
    Except Failure String × Registry κ :=
  let (families, registry) := registry.gather clock
  (Exposition.writeFamilies families, registry)

end Registry

end GpuTelemetry.Serving
