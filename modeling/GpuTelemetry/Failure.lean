import GpuTelemetry.Json.Fault
import GpuTelemetry.Text.Utf8

/-!
# Failures

Causes of failure, from one query to a device up to a whole scrape. The wording of each is one
function beside it; programs tell causes apart by their constructors.
-/

namespace GpuTelemetry

/-- Why a device library does not answer a query. -/
inductive QueryError where
  /-- The library has not been opened. -/
  | uninitialized
  /-- The device cannot answer this. -/
  | notSupported
  /-- The caller may not ask this. -/
  | noPermission
  /-- There is no such device. -/
  | notFound
  /-- The device no longer answers at all. -/
  | gpuLost
  /-- The query itself is wrong. -/
  | invalidArgument (reason : String)
  /-- Anything else, in the library's words. -/
  | library (reason : String)
  deriving DecidableEq, Repr

/-- The wording of a query error. -/
def QueryError.message : QueryError → String
  | .uninitialized => "library not initialized"
  | .notSupported => "operation not supported by this device"
  | .noPermission => "insufficient permissions"
  | .notFound => "device not found"
  | .gpuLost => "GPU has fallen off the bus or is otherwise inaccessible"
  | .invalidArgument reason => "invalid argument: " ++ reason
  | .library reason => "library error: " ++ reason

/-- Why a serving registry or the page writer refuses. -/
inductive ServingError where
  /-- A refusal in words. -/
  | refused (reason : String)
  /-- A descriptor is registered already. -/
  | alreadyRegistered
  deriving DecidableEq, Repr

/-- The wording of a serving error. -/
def ServingError.message : ServingError → String
  | .refused reason => "Error: " ++ reason
  | .alreadyRegistered => "Duplicate metrics collector registration attempted"

/-- Why collecting or serving fails. -/
inductive Failure where
  /-- The device library does not open. -/
  | initialization (cause : QueryError)
  /-- The devices cannot be counted. -/
  | deviceCount (cause : QueryError)
  /-- There are no devices. -/
  | noDevices
  /-- A metric cannot be described that way. -/
  | invalidDescriptor (reason : String)
  /-- A sample has the wrong number of label values. -/
  | labelCardinality (metric : String) (expected actual : Nat)
  /-- The consumer of samples is gone. -/
  | sinkClosed
  /-- Two collectors share a name. -/
  | duplicateCollector (name : String)
  /-- The serving side refuses. -/
  | serving (cause : ServingError)
  /-- The page is not text. -/
  | encoding (fault : Utf8.Fault)
  /-- The settings document cannot be read. -/
  | settings (fault : Json.Fault)
  deriving DecidableEq, Repr

/-- The wording of a failure. -/
def Failure.message : Failure → String
  | .initialization cause => "could not initialise device library: " ++ cause.message
  | .deviceCount cause => "could not retrieve GPU count: " ++ cause.message
  | .noDevices => "no GPUs found"
  | .invalidDescriptor reason => "invalid metric descriptor: " ++ reason
  | .labelCardinality metric expected actual =>
    "metric " ++ metric ++ " expects " ++ toString expected ++ " label values, got " ++
      toString actual
  | .sinkClosed => "metric consumer went away before the scrape finished"
  | .duplicateCollector name => "collector " ++ name ++ " registered more than once"
  | .serving cause => "prometheus error: " ++ cause.message
  | .encoding fault => "exposition is not valid UTF-8: " ++ fault.message
  | .settings fault => "configuration error: " ++ fault.message

end GpuTelemetry
