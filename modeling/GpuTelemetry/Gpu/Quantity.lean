import GpuTelemetry.Device.Basic
import GpuTelemetry.Metric.Sample

/-!
# GPU quantities

The six metrics of a device, in the order in which they are declared and emitted. Each is a gauge
labelled with the index and the name of the device; the last one states no reading, only that the
device is there.
-/

namespace GpuTelemetry

/-- What is read from one device. -/
structure DeviceReading where
  /-- The index of the device. -/
  index : Nat
  /-- Its name, or the stand-in for an unknown one. -/
  name : String
  /-- Its utilisation in percent. -/
  utilization : UInt32
  /-- Its temperature in degrees Celsius. -/
  temperature : UInt32
  /-- Its memory. -/
  memory : MemoryUse
  deriving DecidableEq, Repr

/-- What is said about a device. -/
inductive Quantity where
  /-- Its utilisation. -/
  | utilization
  /-- Its temperature. -/
  | temperature
  /-- All its memory. -/
  | memoryTotal
  /-- Its memory in use. -/
  | memoryUsed
  /-- Its memory not in use. -/
  | memoryFree
  /-- That it is there. -/
  | info
  deriving DecidableEq, Repr

namespace Quantity

/-- The quantities in the order of declaration and emission. -/
def all : List Quantity :=
  [.utilization, .temperature, .memoryTotal, .memoryUsed, .memoryFree, .info]

/-- The part of metric names that all quantities share. -/
def subsystem : String := "gpu"

/-- The labels of every quantity. -/
def labels : List String := ["gpu_index", "gpu_name"]

/-- The last part of the metric name. -/
def metricName : Quantity → String
  | .utilization => "utilisation_percentage"
  | .temperature => "temperature_celsius"
  | .memoryTotal => "memory_total_bytes"
  | .memoryUsed => "memory_used_bytes"
  | .memoryFree => "memory_free_bytes"
  | .info => "info"

/-- The help of the metric. -/
def help : Quantity → String
  | .utilization => "GPU utilisation in percent."
  | .temperature => "GPU temperature in Celsius."
  | .memoryTotal => "Total GPU memory in bytes."
  | .memoryUsed => "Used GPU memory in bytes."
  | .memoryFree => "Free GPU memory in bytes."
  | .info => "Static GPU information (e.g. index and name)."

/-- The value that a reading gives. -/
def value (reading : DeviceReading) : Quantity → Binary64
  | .utilization => .ofNat reading.utilization.toNat
  | .temperature => .ofNat reading.temperature.toNat
  | .memoryTotal => .ofNat reading.memory.total.toNat
  | .memoryUsed => .ofNat reading.memory.used.toNat
  | .memoryFree => .ofNat reading.memory.free.toNat
  | .info => .one

/-- The descriptor in a namespace. -/
def describe (metricNamespace : String) (q : Quantity) : Except Failure (LabelledBy labels) :=
  LabelledBy.create metricNamespace subsystem q.metricName q.help labels

end Quantity

/-- A descriptor for each quantity. -/
structure GpuDescriptors where
  /-- The descriptor of one quantity. -/
  of : Quantity → LabelledBy Quantity.labels

namespace GpuDescriptors

/-- The descriptors in a namespace, or the first that cannot be made. -/
def create (metricNamespace : String) : Except Failure GpuDescriptors := do
  let utilization ← Quantity.utilization.describe metricNamespace
  let temperature ← Quantity.temperature.describe metricNamespace
  let memoryTotal ← Quantity.memoryTotal.describe metricNamespace
  let memoryUsed ← Quantity.memoryUsed.describe metricNamespace
  let memoryFree ← Quantity.memoryFree.describe metricNamespace
  let info ← Quantity.info.describe metricNamespace
  return ⟨fun
    | .utilization => utilization
    | .temperature => temperature
    | .memoryTotal => memoryTotal
    | .memoryUsed => memoryUsed
    | .memoryFree => memoryFree
    | .info => info⟩

/-- All six, in order. -/
def toList (descriptors : GpuDescriptors) : List Descriptor :=
  Quantity.all.map fun q => (descriptors.of q).1

/-- The samples of a reading, in order. -/
def samples (descriptors : GpuDescriptors) (reading : DeviceReading) : List Sample :=
  Quantity.all.map fun q =>
    .ofLabelled (descriptors.of q) (q.value reading) [toString reading.index, reading.name] rfl

end GpuDescriptors

end GpuTelemetry
