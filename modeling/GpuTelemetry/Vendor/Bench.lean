import GpuTelemetry.Roster.Scrape
import GpuTelemetry.Roster.Startup
import GpuTelemetry.Vendor.Host

/-!
# Vendor benches

A host together with what is held on it: an open library, a collector and a roster, at most one of
each. Whatever is replaced or dropped closes its sessions, so that the sessions opened and not yet
closed are always those that are held. All that is held answers from the script of the moment.
-/

namespace GpuTelemetry.Vendor

/-- A host and what is held on it. -/
structure Bench where
  /-- The host. -/
  host : Host
  /-- The held library. -/
  library : Option Session
  /-- The held collector. -/
  collector : Option (GpuCollector Session)
  /-- The held roster. -/
  roster : Option (Roster (GpuCollector Session))

/-- A request to a bench. -/
inductive Request (τ : Type) where
  /-- Changes what the vendor's library answers. -/
  | rescript (script : Script)
  /-- Opens the library and holds it. -/
  | openLibrary
  /-- Queries the held library: the count, or a device by its index. -/
  | query (queries : List (Option Nat))
  /-- Opens a library for a collector in the default namespace and holds the collector. -/
  | openCollector
  /-- Moves the held library into a collector and holds that; without a library there is no
  collector afterwards. -/
  | adopt (metricNamespace : String)
  /-- Runs the held collector. -/
  | update (sink : τ)
  /-- Builds a roster by a settings document and holds it. -/
  | buildRoster (document : Option String)
  /-- Scrapes the held roster. -/
  | scrape (sink : τ) (clock : Clock)
  /-- Drops all that is held. -/
  | drop

/-- The answer to a query. -/
inductive Finding where
  /-- The number of devices. -/
  | count (answer : Except QueryError Nat)
  /-- A device. -/
  | device (answer : Except QueryError Device)

/-- What a bench can hold. -/
inductive Holding where
  /-- A library. -/
  | library
  /-- A collector. -/
  | collector
  /-- A roster. -/
  | roster
  deriving DecidableEq, Repr

/-- The answer to a request. -/
inductive Response (τ : Type) where
  /-- The script is changed. -/
  | rescripted
  /-- Whether the library opened, with the log. -/
  | libraryOpened (outcome : Except QueryError Unit) (log : List Event)
  /-- The answers to the queries. -/
  | findings (findings : List Finding)
  /-- Whether there is a new collector, with the log. -/
  | collectorBuilt (outcome : Except Failure Unit) (log : List Event)
  /-- The names of the collectors of a new roster, with the log. -/
  | rosterBuilt (outcome : Except Failure (List String)) (log : List Event)
  /-- The result of a run, with the sink and the log. -/
  | performed (performed : Performed τ (Except Failure Unit))
  /-- What the request needs is not held. -/
  | missing (holding : Holding)
  /-- How often the library has been opened and closed. -/
  | ledger (opened closed : Nat)

/-- Queries a library. -/
def findings {L : Type} [DeviceLibrary L] (library : L) : List (Option Nat) → List Finding
  | [] => []
  | none :: rest =>
    let counted := DeviceLibrary.enumerate library
    .count counted.1 :: findings counted.2 rest
  | some index :: rest => .device (DeviceLibrary.device library index) :: findings library rest

namespace Bench

variable {τ : Type} [Sink τ]

/-- A bench on which nothing is held. -/
def start (script : Script) : Bench := ⟨.start script, none, none, none⟩

/-- How many sessions the roster holds. -/
def rosterSessions (bench : Bench) : Nat := bench.roster.elim 0 fun roster => roster.members.length

/-- How many sessions are held. -/
def sessions (bench : Bench) : Nat :=
  bench.library.toList.length + bench.collector.toList.length + bench.rosterSessions

/-- Holds another library, or none, and closes the one before. -/
def holdLibrary (bench : Bench) (host : Host) (library : Option Session) : Bench :=
  { bench with host := host.close bench.library.toList.length, library }

/-- Holds another collector, or none, and closes the one before. -/
def holdCollector (bench : Bench) (host : Host) (collector : Option (GpuCollector Session)) :
    Bench :=
  { bench with host := host.close bench.collector.toList.length, collector }

/-- Holds another roster, or none, and closes the one before. -/
def holdRoster (bench : Bench) (host : Host) (roster : Option (Roster (GpuCollector Session))) :
    Bench :=
  { bench with host := host.close bench.rosterSessions, roster }

/-- A collector as it answers now. -/
def live (bench : Bench) (collector : GpuCollector Session) : GpuCollector Script :=
  collector.withLibrary bench.host.script

/-- Whether something was built. -/
def verdict {ε α : Type} (outcome : Except ε α) : Except ε Unit := outcome.map fun _ => ()

/-- Builds a roster by a settings document and holds it. -/
def buildRoster (bench : Bench) (document : Option String) : Response τ × Bench :=
  let built := Roster.start document registrations bench.host
  (.rosterBuilt (built.outcome.map Roster.names) built.log,
    bench.holdRoster built.world built.outcome.toOption)

/-- Answers one request. -/
def answer (bench : Bench) : Request τ → Response τ × Bench
  | .rescript script => (.rescripted, { bench with host := { bench.host with script } })
  | .openLibrary =>
    let opened := bench.host.openSession
    (.libraryOpened (verdict opened.outcome) opened.log,
      bench.holdLibrary opened.world opened.outcome.toOption)
  | .query queries =>
    match bench.library with
    | none => (.missing .library, bench)
    | some _ => (.findings (findings bench.host.script queries), bench)
  | .openCollector =>
    let built := bench.host.openCollector defaultNamespace none
    (.collectorBuilt (verdict built.outcome) built.log,
      bench.holdCollector built.world built.outcome.toOption)
  | .adopt metricNamespace =>
    match bench.library with
    | none => (.missing .library, bench.holdCollector bench.host none)
    | some session =>
      let adopted := bench.host.adopt session metricNamespace none
      (.collectorBuilt (verdict adopted.1) [],
        { bench with library := none }.holdCollector adopted.2 adopted.1.toOption)
  | .update sink =>
    match bench.collector with
    | none => (.missing .collector, bench)
    | some collector =>
      let performed := (Collector.update (bench.live collector)).perform sink
      (.performed ⟨performed.result.1, performed.sink, performed.log⟩, bench)
  | .buildRoster document => bench.buildRoster document
  | .scrape sink clock =>
    match bench.roster with
    | none => (.missing .roster, bench)
    | some roster =>
      let performed := ((roster.map bench.live).scrape clock).perform sink
      (.performed ⟨performed.result.1, performed.sink, performed.log⟩, bench)
  | .drop =>
    let bench := (bench.holdLibrary bench.host none)
    let bench := (bench.holdCollector bench.host none)
    let bench := (bench.holdRoster bench.host none)
    (.ledger bench.host.opened bench.host.closed, bench)

/-- Answers requests in order. -/
def answerAll (bench : Bench) : List (Request τ) → List (Response τ) × Bench
  | [] => ([], bench)
  | request :: rest =>
    let (response, bench) := bench.answer request
    let (responses, bench) := bench.answerAll rest
    (response :: responses, bench)

end Bench

end GpuTelemetry.Vendor
