import GpuTelemetry.Binary64
import GpuTelemetry.Failure
import GpuTelemetry.Metric.Descriptor

/-!
# Samples

A sample is one value of a metric with one value for each of its labels. Its metric view pairs
label names with label values in the order of the descriptor; a single label is found by the
position of its name.
-/

namespace GpuTelemetry

/-- The descriptors with exactly the given labels. -/
abbrev LabelledBy (labels : List String) := { d : Descriptor // d.labels = labels }

/-- A descriptor as a collector builds it. -/
def LabelledBy.create (metricNamespace subsystem name help : String) (labels : List String) :
    Except Failure (LabelledBy labels) :=
  (Descriptor.create metricNamespace subsystem name help labels).mapError fun fault =>
    .invalidDescriptor fault.message

/-- One value of a metric. -/
structure Sample where
  /-- The metric. -/
  descriptor : Descriptor
  /-- The value. -/
  value : Binary64
  /-- A value for each label, in the order of the descriptor. -/
  labelValues : List String
  /-- No label value is missing and none is left over. -/
  length_labelValues : labelValues.length = descriptor.labels.length
  deriving DecidableEq, Repr

/-- A labelled value as it is served. -/
structure Metric where
  /-- Label names with their values. -/
  labels : List (String × String)
  /-- The value. -/
  value : Binary64
  deriving DecidableEq, Repr

namespace Sample

/-- A sample of the descriptor, refused if the number of label values is wrong. -/
def create (d : Descriptor) (value : Binary64) (labelValues : List String) :
    Except Failure Sample :=
  if h : labelValues.length = d.labels.length then .ok ⟨d, value, labelValues, h⟩
  else .error (.labelCardinality d.name d.labels.length labelValues.length)

/-- A sample of a descriptor whose labels are known. -/
def ofLabelled {labels : List String} (d : LabelledBy labels) (value : Binary64)
    (labelValues : List String) (h : labelValues.length = labels.length) : Sample :=
  ⟨d.1, value, labelValues, by rw [d.2, h]⟩

/-- The name of the metric. -/
def name (s : Sample) : String := s.descriptor.name

/-- The value of the label with the given name. -/
def label? (s : Sample) (key : String) : Option String :=
  (s.descriptor.labels.findIdx? (· == key)).bind (s.labelValues[·]?)

/-- The sample as it is served. -/
def metric (s : Sample) : Metric := ⟨s.descriptor.labels.zip s.labelValues, s.value⟩

/-- The labels of such a sample are the known ones. -/
theorem labels_metric_ofLabelled {labels : List String} (d : LabelledBy labels) (value : Binary64)
    (labelValues : List String) (h : labelValues.length = labels.length) :
    (ofLabelled d value labelValues h).metric.labels = labels.zip labelValues :=
  congrArg (List.zip · labelValues) d.2

end Sample

end GpuTelemetry
