import GpuTelemetry.Gpu.Collector
import GpuTelemetry.Roster.Build
import GpuTelemetry.Vendor.Script

/-!
# Hosts and sessions

A host runs the vendor's library and counts how often it is opened and closed. An open library is
a session; it belongs to whoever opened it until it is closed, which every path on which it gets
lost has to do. The registered collector opens a session of its own.
-/

namespace GpuTelemetry.Vendor

/-- A machine with the vendor's library. -/
structure Host where
  /-- What the library answers now. -/
  script : Script
  /-- How often it has been opened. -/
  opened : Nat
  /-- How often it has been closed. -/
  closed : Nat
  deriving DecidableEq, Repr

/-- The right to call an open library. -/
structure Session where
  deriving DecidableEq, Repr

namespace Host

/-- A host on which nothing has happened. -/
def start (script : Script) : Host := ⟨script, 0, 0⟩

/-- Closes sessions. -/
def close (host : Host) (sessions : Nat) : Host := { host with closed := host.closed + sessions }

/-- Opens the library. The driver version is logged if it can be had. -/
def openSession (host : Host) : Built QueryError Host Session :=
  let opening := Event.unspanned .libraryOpening
  match checked host.script.initCode () with
  | .error error => ⟨.error error, [opening], host⟩
  | .ok () =>
    let versionLog :=
      match host.script.driverVersion with
      | .ok version => [Event.unspanned (.libraryOpened version)]
      | .error _ => []
    ⟨.ok ⟨⟩, opening :: versionLog, { host with opened := host.opened + 1 }⟩

/-- Gives a session to a collector; if there is no such collector, the session is closed. -/
def adopt (host : Host) (session : Session) (metricNamespace : String) (span : Option String) :
    Except Failure (GpuCollector Session) × Host :=
  match GpuCollector.create session metricNamespace span with
  | .ok collector => (.ok collector, host)
  | .error failure => (.error failure, host.close 1)

/-- Opens a session for a new collector. -/
def openCollector (host : Host) (metricNamespace : String) (span : Option String) :
    Built Failure Host (GpuCollector Session) :=
  let opened := host.openSession
  match opened.outcome with
  | .error error => ⟨.error (.initialization error), opened.log, opened.world⟩
  | .ok session =>
    let adopted := opened.world.adopt session metricNamespace span
    ⟨adopted.1, opened.log, adopted.2⟩

end Host

/-- The collectors that can be built on a host. -/
def registrations : List (Registration Host (GpuCollector Session)) :=
  [{ name := GpuCollector.collectorName
     enabledByDefault := true
     factory := fun context host =>
       host.openCollector context.metricNamespace (some context.collector) }]

end GpuTelemetry.Vendor
