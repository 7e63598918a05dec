import GpuTelemetry.Binary64

/-!
# The log

Everything that is logged is one of a fixed set of occurrences. Level, message and fields follow
from the occurrence; the span says on behalf of which collector it was logged, if of any.
-/

namespace GpuTelemetry

/-- How much an event matters. -/
inductive Level where
  /-- Details of normal work. -/
  | debug
  /-- Milestones of normal work. -/
  | info
  /-- Something is left out. -/
  | warn
  /-- Something failed. -/
  | error
  deriving DecidableEq, Repr

/-- A query to one device that can fail on its own. -/
inductive DeviceQuery where
  /-- The handle of the device itself. -/
  | handle
  /-- Its name. -/
  | name
  /-- Its utilisation. -/
  | utilization
  /-- Its temperature. -/
  | temperature
  /-- Its memory. -/
  | memory
  deriving DecidableEq, Repr

/-- The message of a failed query. -/
def DeviceQuery.complaint : DeviceQuery → String
  | .handle => "failed to get handle for GPU device"
  | .name => "failed to get GPU name"
  | .utilization => "failed to get GPU utilization"
  | .temperature => "failed to get GPU temperature"
  | .memory => "failed to get GPU memory info"

/-- What can be logged. -/
inductive Occurrence where
  /-- The vendor library is about to be opened. -/
  | libraryOpening
  /-- The vendor library is open and has told its driver version. -/
  | libraryOpened (driverVersion : String)
  /-- A collector is left out by the settings. -/
  | collectorDisabled (collector : String)
  /-- A collector is built. -/
  | collectorEnabled (collector : String)
  /-- A collector cannot be built. -/
  | collectorNotCreated (collector error : String)
  /-- The devices cannot be counted. -/
  | countFailed (error : String)
  /-- A device does not answer a query. -/
  | queryFailed (query : DeviceQuery) (index : Nat) (error : String)
  /-- A device is read. -/
  | deviceRead (index : Nat) (name : String) (utilization temperature : Nat)
  /-- A collector is done. -/
  | collectorSucceeded (collector : String) (duration : Binary64)
  /-- A collector failed. -/
  | collectorFailed (collector : String) (duration : Binary64) (error : String)
  /-- A collector found that the consumer is gone. -/
  | scrapeAbandoned (collector : String)
  /-- A scrape for the serving side did not come to its end. -/
  | scrapeFailed (error : String)
  deriving DecidableEq, Repr

/-- The value of a field. -/
inductive FieldValue where
  /-- A number. -/
  | number (value : Nat)
  /-- A text. -/
  | text (value : String)
  /-- A time span in seconds. -/
  | seconds (value : Binary64)
  deriving DecidableEq, Repr

namespace Occurrence

/-- How much the occurrence matters. -/
def level : Occurrence → Level
  | .libraryOpening | .libraryOpened _ | .collectorEnabled _ => .info
  | .collectorDisabled _ | .deviceRead .. | .collectorSucceeded .. | .scrapeAbandoned _ => .debug
  | .queryFailed .. => .warn
  | .collectorNotCreated .. | .countFailed _ | .collectorFailed .. | .scrapeFailed _ => .error

/-- The message. -/
def message : Occurrence → String
  | .libraryOpening => "Initializing NVML for GPU monitoring"
  | .libraryOpened _ => "NVML initialized"
  | .collectorDisabled _ => "collector disabled"
  | .collectorEnabled _ => "collector enabled"
  | .collectorNotCreated .. => "failed to create collector"
  | .countFailed _ => "failed to get GPU count"
  | .queryFailed query _ _ => query.complaint
  | .deviceRead .. => "read GPU"
  | .collectorSucceeded .. => "collector succeeded"
  | .collectorFailed .. => "collector failed"
  | .scrapeAbandoned _ => "scrape abandoned by consumer"
  | .scrapeFailed _ => "scrape failed"

/-- The fields beside the message. -/
def fields : Occurrence → List (String × FieldValue)
  | .libraryOpening => []
  | .libraryOpened version => [("driver_version", .text version)]
  | .collectorDisabled collector | .collectorEnabled collector | .scrapeAbandoned collector =>
    [("collector", .text collector)]
  | .collectorNotCreated collector error => [("collector", .text collector), ("error", .text error)]
  | .countFailed error | .scrapeFailed error => [("error", .text error)]
  | .queryFailed _ index error => [("gpu_index", .number index), ("error", .text error)]
  | .deviceRead index name utilization temperature =>
    [("gpu_index", .number index), ("gpu_name", .text name),
      ("utilization", .number utilization), ("temperature", .number temperature)]
  | .collectorSucceeded collector duration =>
    [("collector", .text collector), ("duration_seconds", .seconds duration)]
  | .collectorFailed collector duration error =>
    [("collector", .text collector), ("duration_seconds", .seconds duration),
      ("error", .text error)]

end Occurrence

/-- The name of the span in which a collector logs. -/
def collectorSpan : String := "collector"

/-- An occurrence and the collector on whose behalf it was logged. -/
structure Event where
  /-- What happened. -/
  occurrence : Occurrence
  /-- The collector whose span was entered, if any was. -/
  span : Option String
  deriving DecidableEq, Repr

/-- An event outside every span. -/
def Event.unspanned (occurrence : Occurrence) : Event := ⟨occurrence, none⟩

end GpuTelemetry
