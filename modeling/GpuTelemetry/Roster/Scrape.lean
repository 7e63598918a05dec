import GpuTelemetry.Metric.Family
import GpuTelemetry.Roster.Basic

/-!
# Scrapes

A scrape runs the collectors in order. Behind the samples of each come its duration and whether it
succeeded; a collector that fails keeps no other from running. Only the departure of the consumer
ends a scrape early: either a collector says so, or one of the two samples is refused. How long
each collector takes is not computed but given, by its position.
-/

namespace GpuTelemetry

/-- How long the collector at each position of a scrape takes, in seconds. -/
abbrev Clock := Nat → Binary64

namespace Roster

variable {κ : Type}

/-- A sample about the collector with the given name. -/
def memberSample (d : LabelledBy ["collector"]) (value : Binary64) (name : String) : Sample :=
  .ofLabelled d value [name] rfl

/-- The value of success and of failure. -/
def successValue (succeeded : Bool) : Binary64 := if succeeded then .one else .zero false

/-- What is logged when a collector is done without the consumer being gone. -/
def outcomeEvent (name : String) (duration : Binary64) : Except Failure Unit → Event
  | .ok () => .unspanned (.collectorSucceeded name duration)
  | .error failure => .unspanned (.collectorFailed name duration failure.message)

/-- Runs the members from a position on; gives them back with their new states. -/
def runMembers [Collector κ] (roster : Roster κ) (clock : Clock) (position : Nat) :
    List (Member κ) → Activity (Except Failure Unit × List (Member κ))
  | [] => pure (.ok (), [])
  | member :: rest => do
    let (result, collector) ← Collector.update member.collector
    let member := { member with collector }
    match result with
    | .error .sinkClosed =>
      .log (.unspanned (.scrapeAbandoned member.name))
      pure (.error .sinkClosed, member :: rest)
    | result =>
      .log (outcomeEvent member.name (clock position) result)
      let samples :=
        [memberSample roster.duration (clock position) member.name,
          memberSample roster.success (successValue result.isOk) member.name]
      if ← .emitAll samples then
        let (result, rest) ← runMembers roster clock (position + 1) rest
        pure (result, member :: rest)
      else pure (.error .sinkClosed, member :: rest)

/-- One scrape over all collectors, with the roster after it. -/
def scrape [Collector κ] (roster : Roster κ) (clock : Clock) :
    Activity (Except Failure Unit × Roster κ) := do
  let (result, members) ← roster.runMembers clock 0 roster.members
  pure (result, { roster with members })

/-- The families of one scrape, the log and the roster afterwards. -/
structure Collection (κ : Type) where
  /-- What was scraped. -/
  families : List Family
  /-- The recorded events, in order. -/
  log : List Event
  /-- The roster after the scrape. -/
  roster : Roster κ

/-- Scrapes for the serving side: whatever was emitted is served, and a scrape that did not come to
its end is logged. -/
def collect [Collector κ] (roster : Roster κ) (clock : Clock) : Collection κ :=
  let performed := (roster.scrape clock).perform Collected.empty
  let complaint :=
    match performed.result.1 with
    | .ok () => []
    | .error failure => [Event.unspanned (.scrapeFailed failure.message)]
  ⟨Family.group performed.sink.samples, performed.log ++ complaint, performed.result.2⟩

end Roster

end GpuTelemetry
