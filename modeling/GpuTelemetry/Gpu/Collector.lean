import GpuTelemetry.Collector.Basic
import GpuTelemetry.Gpu.Quantity

/-!
# The GPU collector

In each scrape the collector counts the devices of its library and reads them one by one. Without
a count or without devices the scrape fails; a device that does not answer is left out, except
that an unknown name is replaced. Every device that is read gives six samples, and the first
refused sample ends the scrape.

There is no case of a device whose samples cannot be made: the type `LabelledBy` of the descriptors
fixes their labels, so that the check of the number of label values always succeeds, which is
`GpuCollector.create_eq_ofLabelled`.
-/

namespace GpuTelemetry

/-- A collector over a device library. -/
structure GpuCollector (L : Type) where
  /-- The library, with its state. -/
  library : L
  /-- The metrics. -/
  descriptors : GpuDescriptors
  /-- The name of the collector in whose span is logged, if in any. -/
  span : Option String

namespace GpuCollector

variable {L : Type}

/-- The name under which the collector is registered. -/
def collectorName : String := "nvidia"

/-- The name of a device that does not tell its own. -/
def unknownName : String := "unknown"

/-- A collector over an open library; the namespace must make metric names. -/
def create (library : L) (metricNamespace : String) (span : Option String) :
    Except Failure (GpuCollector L) :=
  (GpuDescriptors.create metricNamespace).map fun descriptors => ⟨library, descriptors, span⟩

/-- The same collector over another library. -/
def withLibrary {L' : Type} (collector : GpuCollector L) (library : L') : GpuCollector L' :=
  { collector with library }

/-- The full names of the metrics, in order. -/
def metricNames (collector : GpuCollector L) : List String :=
  collector.descriptors.toList.map Descriptor.name

/-- Logs in the span of the collector. -/
def log (collector : GpuCollector L) (occurrence : Occurrence) : Activity Unit :=
  .log ⟨occurrence, collector.span⟩

/-- Takes the answer to a query, with a complaint if there is none. -/
def answer {α : Type} (collector : GpuCollector L) (index : Nat) (query : DeviceQuery) :
    Except QueryError α → Activity (Option α)
  | .ok value => pure (some value)
  | .error error => do
    collector.log (.queryFailed query index error.message)
    pure none

/-- Reads one device, unless it has to be left out. -/
def readDevice (collector : GpuCollector L) (index : Nat) (device : Except QueryError Device) :
    Activity (Option DeviceReading) := do
  match ← collector.answer index .handle device with
  | none => pure none
  | some device =>
    let name ← collector.answer index .name device.name
    match ← collector.answer index .utilization device.utilization with
    | none => pure none
    | some utilization =>
      match ← collector.answer index .temperature device.temperature with
      | none => pure none
      | some temperature =>
        match ← collector.answer index .memory device.memory with
        | none => pure none
        | some memory =>
          pure (some ⟨index, name.getD unknownName, utilization, temperature, memory⟩)

/-- Reads a device and emits its samples, which can always be made; tells whether the consumer is
still there. -/
def visit (collector : GpuCollector L) (index : Nat) (device : Except QueryError Device) :
    Activity Bool := do
  match ← collector.readDevice index device with
  | none => pure true
  | some reading =>
    collector.log (.deviceRead index reading.name reading.utilization.toNat
      reading.temperature.toNat)
    .emitAll (collector.descriptors.samples reading)

/-- Visits `remaining` devices from an index on. -/
def survey [DeviceLibrary L] (collector : GpuCollector L) :
    (remaining index : Nat) → Activity (Except Failure Unit)
  | 0, _ => pure (.ok ())
  | remaining + 1, index => do
    if ← collector.visit index (DeviceLibrary.device collector.library index) then
      collector.survey remaining (index + 1)
    else pure (.error .sinkClosed)

instance [DeviceLibrary L] : Collector (GpuCollector L) where
  descriptors collector := collector.descriptors.toList
  update collector :=
    let (count, library) := DeviceLibrary.enumerate collector.library
    let collector := collector.withLibrary library
    match count with
    | .error error => do
      collector.log (.countFailed error.message)
      pure (.error (.deviceCount error), collector)
    | .ok 0 => pure (.error .noDevices, collector)
    | .ok count => do
      let result ← collector.survey count 0
      pure (result, collector)

end GpuCollector

end GpuTelemetry
