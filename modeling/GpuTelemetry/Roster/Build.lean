import GpuTelemetry.Log
import GpuTelemetry.Roster.Basic
import GpuTelemetry.Settings.Basic

/-!
# Building a roster

Collectors are built from a list of registrations. Names must not repeat and the namespace must
make metric names; both are checked before anything is built. Then each registration is either
disabled by the settings, or built and added, or reported as failing; one that fails keeps no
other from being built.
-/

namespace GpuTelemetry

/-- What a collector is built with. -/
structure Context where
  /-- What stands in front of its metric names. -/
  metricNamespace : String
  /-- The collector in whose span it logs. -/
  collector : String
  deriving DecidableEq, Repr

/-- What building leaves: the thing built or an error, the log, and the world in which it was
built. -/
structure Built (ε ω α : Type) where
  /-- The thing built. -/
  outcome : Except ε α
  /-- The recorded events, in order. -/
  log : List Event
  /-- The world afterwards. -/
  world : ω

/-- An entry in the list of collectors that may be built. -/
structure Registration (ω κ : Type) where
  /-- The name of the collector. -/
  name : String
  /-- Whether it is built unless the settings say otherwise. -/
  enabledByDefault : Bool
  /-- Builds the collector. -/
  factory : Context → ω → Built Failure ω κ

namespace Registration

variable {ω κ : Type}

/-- A registration in words. -/
def describe (registration : Registration ω κ) : String :=
  "Registration \x7b name: " ++ Text.quoted registration.name ++ ", enabled_by_default: " ++
    (if registration.enabledByDefault then "true" else "false") ++ ", .. \x7d"

/-- The first name that occurs among those before it. -/
def firstRepeated? (seen : List String) : List String → Option String
  | [] => none
  | name :: rest => if name ∈ seen then some name else firstRepeated? (name :: seen) rest

/-- Builds the enabled collectors in order, in a changing world. -/
def buildMembers (settings : Settings) :
    List (Registration ω κ) → ω → List (Member κ) × List Event × ω
  | [], world => ([], [], world)
  | registration :: rest, world =>
    let name := registration.name
    if settings.isEnabled name registration.enabledByDefault then
      let built := registration.factory ⟨settings.metricNamespace, name⟩ world
      let later := buildMembers settings rest built.world
      match built.outcome with
      | .ok collector =>
        (⟨name, collector⟩ :: later.1,
          built.log ++ .unspanned (.collectorEnabled name) :: later.2.1, later.2.2)
      | .error failure =>
        (later.1,
          built.log ++ .unspanned (.collectorNotCreated name failure.message) :: later.2.1,
          later.2.2)
    else
      let later := buildMembers settings rest world
      (later.1, .unspanned (.collectorDisabled name) :: later.2.1, later.2.2)

end Registration

/-- Builds the roster of the enabled collectors. -/
def Roster.build {ω κ : Type} (settings : Settings) (registrations : List (Registration ω κ))
    (world : ω) : Built Failure ω (Roster κ) :=
  match Registration.firstRepeated? [] (registrations.map Registration.name) with
  | some name => ⟨.error (.duplicateCollector name), [], world⟩
  | none =>
    match Roster.create settings.metricNamespace with
    | .error failure => ⟨.error failure, [], world⟩
    | .ok (roster : Roster κ) =>
      let (members, log, world) := Registration.buildMembers settings registrations world
      ⟨.ok { roster with members }, log, world⟩

end GpuTelemetry
