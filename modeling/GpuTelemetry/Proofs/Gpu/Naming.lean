import GpuTelemetry.Gpu.Collector

/-!
# Names of the GPU metrics

A descriptor that could be created has the joined name and the help it was asked for. So the six
descriptors of a namespace are named after it, each with the words of its own quantity.
-/

namespace GpuTelemetry

/-- A created descriptor has the joined name and the given help. -/
theorem Descriptor.of_create_eq_ok {metricNamespace subsystem name help : String}
    {labels : List String} {d : { d : Descriptor // d.labels = labels }}
    (h : Descriptor.create metricNamespace subsystem name help labels = .ok d) :
    d.1.name = joinName metricNamespace subsystem name ∧ d.1.help = help := by
  dsimp only [Descriptor.create] at h
  split at h
  · cases h
  · split at h
    · split at h
      · cases h
      · cases h
        exact ⟨rfl, rfl⟩
    · cases h

/-- A collector's descriptor has the joined name and the given help. -/
theorem LabelledBy.of_create_eq_ok {metricNamespace subsystem name help : String}
    {labels : List String} {d : LabelledBy labels}
    (h : LabelledBy.create metricNamespace subsystem name help labels = .ok d) :
    d.1.name = joinName metricNamespace subsystem name ∧ d.1.help = help := by
  unfold LabelledBy.create at h
  cases hd : Descriptor.create metricNamespace subsystem name help labels with
  | error fault => rw [hd] at h; cases h
  | ok d' =>
    rw [hd] at h
    cases h
    exact Descriptor.of_create_eq_ok hd

/-- What succeeds in two parts succeeds in each. -/
theorem Failure.of_bind_eq_ok {α β : Type} {x : Except Failure α} {next : α → Except Failure β}
    {b : β} (h : x >>= next = .ok b) : ∃ a, x = .ok a ∧ next a = .ok b := by
  cases x with
  | error failure => cases h
  | ok a => exact ⟨a, rfl, h⟩

namespace GpuDescriptors

/-- The descriptors of a namespace are those of its quantities. -/
theorem describe_of_create {metricNamespace : String} {descriptors : GpuDescriptors}
    (h : GpuDescriptors.create metricNamespace = .ok descriptors) (q : Quantity) :
    q.describe metricNamespace = .ok (descriptors.of q) := by
  obtain ⟨utilization, hu, h⟩ := Failure.of_bind_eq_ok h
  obtain ⟨temperature, ht, h⟩ := Failure.of_bind_eq_ok h
  obtain ⟨total, hmt, h⟩ := Failure.of_bind_eq_ok h
  obtain ⟨used, hmu, h⟩ := Failure.of_bind_eq_ok h
  obtain ⟨free, hmf, h⟩ := Failure.of_bind_eq_ok h
  obtain ⟨info, hi, h⟩ := Failure.of_bind_eq_ok h
  cases h
  cases q with
  | utilization => exact hu
  | temperature => exact ht
  | memoryTotal => exact hmt
  | memoryUsed => exact hmu
  | memoryFree => exact hmf
  | info => exact hi

/-- The descriptor of a quantity is named after the namespace and the quantity. -/
theorem name_of_create {metricNamespace : String} {descriptors : GpuDescriptors}
    (h : GpuDescriptors.create metricNamespace = .ok descriptors) (q : Quantity) :
    (descriptors.of q).1.name = joinName metricNamespace Quantity.subsystem q.metricName :=
  (LabelledBy.of_create_eq_ok (describe_of_create h q)).1

end GpuDescriptors

namespace GpuCollector

variable {L : Type}

/-- A created collector consists of the descriptors of its namespace and of what it was given. -/
theorem exists_of_create_eq_ok {library : L} {metricNamespace : String} {span : Option String}
    {collector : GpuCollector L} (h : create library metricNamespace span = .ok collector) :
    ∃ descriptors, GpuDescriptors.create metricNamespace = .ok descriptors ∧
      collector = ⟨library, descriptors, span⟩ := by
  unfold create at h
  cases hd : GpuDescriptors.create metricNamespace with
  | error failure => rw [hd] at h; cases h
  | ok descriptors =>
    rw [hd] at h
    cases h
    exact ⟨descriptors, rfl, rfl⟩

/-- A created collector holds the library and the span it was given, and the descriptors of its
namespace. -/
theorem of_create_eq_ok {library : L} {metricNamespace : String} {span : Option String}
    {collector : GpuCollector L} (h : create library metricNamespace span = .ok collector) :
    collector.library = library ∧ collector.span = span ∧
      GpuDescriptors.create metricNamespace = .ok collector.descriptors := by
  obtain ⟨descriptors, hd, rfl⟩ := exists_of_create_eq_ok h
  exact ⟨rfl, rfl, hd⟩

/-- The metrics of a created collector are named after its namespace. -/
theorem metricNames_of_create {library : L} {metricNamespace : String} {span : Option String}
    {collector : GpuCollector L} (h : create library metricNamespace span = .ok collector) :
    collector.metricNames =
      Quantity.all.map fun q => joinName metricNamespace Quantity.subsystem q.metricName := by
  have hd := (of_create_eq_ok h).2.2
  simp only [metricNames, GpuDescriptors.toList, List.map_map]
  exact List.map_congr_left fun q _ => GpuDescriptors.name_of_create hd q

end GpuCollector

end GpuTelemetry
