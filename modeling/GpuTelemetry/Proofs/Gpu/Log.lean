import GpuTelemetry.Proofs.Gpu.Update
import Std.Data.String.ToNat

/-!
# What the log tells of each device

The log of an update goes through the devices by ascending index. What it holds about an index says
how far the device was read: up to the first query without an answer, a missing name apart, or to
its end. Samples come from exactly those devices that were read to the end, and agree with what is
logged of them. Without devices nothing is logged, and without a count one error is.
-/

namespace GpuTelemetry

section Layout

variable {α β : Type} [DecidableEq β] {key : α → β} {tag : Nat → β} {f : Nat → List α}

/-- Of lists that are laid out index by index, each is found again by its tag. -/
theorem filter_flatMap_range (htag : tag.Injective) (hf : ∀ i, ∀ x ∈ f i, key x = tag i)
    {n i : Nat} (hi : i < n) :
    ((List.range n).flatMap f).filter (fun x => key x = tag i) = f i := by
  have hown : (f i).filter (fun x => key x = tag i) = f i :=
    List.filter_eq_self.mpr fun x hx => decide_eq_true (hf i x hx)
  have hother : ∀ j, j ≠ i → (f j).filter (fun x => key x = tag i) = [] := by
    intro j hj
    refine List.filter_eq_nil_iff.mpr fun x hx he => hj (htag ?_)
    rw [← hf j x hx, of_decide_eq_true he]
  induction n with
  | zero => exact absurd hi (Nat.not_lt_zero i)
  | succ n ih =>
    rw [List.range_succ, List.flatMap_append, List.flatMap_singleton, List.filter_append]
    by_cases hn : n = i
    · have hbefore : ((List.range n).flatMap f).filter (fun x => key x = tag i) = [] := by
        rw [List.filter_flatMap]
        refine List.flatMap_eq_nil_iff.mpr fun j hj => hother j ?_
        have hlt := List.mem_range.mp hj
        omega
      rw [hbefore, hn, hown, List.nil_append]
    · rw [ih (by omega), hother n hn, List.append_nil]

/-- So the whole is made of what is found by each tag. -/
theorem flatMap_range_filter (htag : tag.Injective) (hf : ∀ i, ∀ x ∈ f i, key x = tag i)
    (n : Nat) :
    (List.range n).flatMap f = (List.range n).flatMap fun i =>
      ((List.range n).flatMap f).filter fun x => key x = tag i := by
  refine congrArg List.flatten (List.map_congr_left fun i hi => ?_)
  rw [filter_flatMap_range htag hf (List.mem_range.mp hi)]

private theorem length_flatMap_eq_mul_countP {γ : Type} {g : Nat → List γ} {p : α → Bool} {k : Nat}
    (h : ∀ i, (g i).length = k * (f i).countP p) (indices : List Nat) :
    (indices.flatMap g).length = k * (indices.flatMap f).countP p := by
  induction indices with
  | nil => rfl
  | cons i rest ih =>
    rw [List.flatMap_cons, List.flatMap_cons, List.length_append, List.countP_append, h i, ih,
      Nat.mul_add]

end Layout

namespace Event

/-- The index of the device that an event is about, if it is about one. -/
def index? (event : Event) : Option FieldValue := event.occurrence.fields.lookup "gpu_index"

/-- An event that warns of a query to a device, with the text of the error. -/
structure Warns (event : Event) (message : String) (index : Nat) (error : QueryError) : Prop where
  /-- It is a warning. -/
  level : event.occurrence.level = .warn
  /-- It says which query failed. -/
  message : event.occurrence.message = message
  /-- It tells the device and the error. -/
  fields : event.occurrence.fields =
    [("gpu_index", .number index), ("error", .text error.message)]

/-- Whether an event says that a device was read. -/
def isReading (event : Event) : Bool :=
  event.occurrence.level = .debug ∧ event.occurrence.message = "read GPU"

private theorem Warns.index?_eq {event : Event} {message : String} {index : Nat}
    {error : QueryError} (h : event.Warns message index error) :
    event.index? = some (.number index) := by
  rw [index?, h.fields]
  rfl

private theorem Warns.isReading_eq_false {event : Event} {message : String} {index : Nat}
    {error : QueryError} (h : event.Warns message index error) : event.isReading = false := by
  rw [isReading, h.level]
  rfl

end Event

/-- The index that a sample is labelled with, if it is labelled with one. -/
def Sample.index? (s : Sample) : Option String := s.metric.labels.lookup "gpu_index"

namespace GpuCollector

/-- What is logged of the name of a device, and the name under which it is reported. -/
inductive Naming (index : Nat) : Except QueryError String → List Event → String → Prop where
  /-- Nothing is logged of a name that is told. -/
  | told (name : String) : Naming index (.ok name) [] name
  /-- A name that is not told is replaced. -/
  | unknown {error : QueryError} {event : Event}
      (h : event.Warns "failed to get GPU name" index error) :
      Naming index (.error error) [event] "unknown"

/-- The event about a device that was read, and its samples. -/
structure Reading (declared : List Descriptor) (index : Nat) (name : String)
    (utilization temperature : UInt32) (memory : MemoryUse) (event : Event)
    (samples : List Sample) : Prop where
  /-- The event says that the device was read. -/
  told : event.isReading = true
  /-- It tells the device, its name and two of its readings. -/
  fields : event.occurrence.fields =
    [("gpu_index", .number index), ("gpu_name", .text name),
      ("utilization", .number utilization.toNat), ("temperature", .number temperature.toNat)]
  /-- There is a sample of each declared metric. -/
  descriptors : samples.map Sample.descriptor = declared
  /-- All samples are labelled with the device and its name. -/
  labels : ∀ s ∈ samples, s.metric.labels = [("gpu_index", toString index), ("gpu_name", name)]
  /-- Their values are the readings. -/
  values : samples.map Sample.value = referenceValues utilization temperature memory

/-- The last event about a device that was handed out, and the samples that follow. -/
inductive Conclusion (declared : List Descriptor) (index : Nat) (name : String) :
    Device → Event → List Sample → Prop where
  /-- There is no utilisation. -/
  | withoutUtilization {device : Device} {error : QueryError} {event : Event}
      (hu : device.utilization = .error error)
      (h : event.Warns "failed to get GPU utilization" index error) :
      Conclusion declared index name device event []
  /-- There is a utilisation and no temperature. -/
  | withoutTemperature {device : Device} {utilization : UInt32} {error : QueryError}
      {event : Event} (hu : device.utilization = .ok utilization)
      (ht : device.temperature = .error error)
      (h : event.Warns "failed to get GPU temperature" index error) :
      Conclusion declared index name device event []
  /-- There are both, and no memory. -/
  | withoutMemory {device : Device} {utilization temperature : UInt32} {error : QueryError}
      {event : Event} (hu : device.utilization = .ok utilization)
      (ht : device.temperature = .ok temperature) (hm : device.memory = .error error)
      (h : event.Warns "failed to get GPU memory info" index error) :
      Conclusion declared index name device event []
  /-- Everything is there. -/
  | read {device : Device} {utilization temperature : UInt32} {memory : MemoryUse}
      {event : Event} {samples : List Sample} (hu : device.utilization = .ok utilization)
      (ht : device.temperature = .ok temperature) (hm : device.memory = .ok memory)
      (h : Reading declared index name utilization temperature memory event samples) :
      Conclusion declared index name device event samples

/-- The events about one index and its samples. -/
inductive Accounted (declared : List Descriptor) (index : Nat) :
    Except QueryError Device → List Event → List Sample → Prop where
  /-- The device is not handed out. -/
  | missing {error : QueryError} {event : Event}
      (h : event.Warns "failed to get handle for GPU device" index error) :
      Accounted declared index (.error error) [event] []
  /-- The device is handed out, and asked for its name first. -/
  | found {device : Device} {name : String} {naming : List Event} {last : Event}
      {samples : List Sample} (hn : Naming index device.name naming name)
      (hl : Conclusion declared index name device last samples) :
      Accounted declared index (.ok device) (naming ++ [last]) samples

section Naming

variable {index : Nat} {name : String} {answer : Except QueryError String} {events : List Event}

private theorem Naming.index?_of_mem (h : Naming index answer events name) :
    ∀ event ∈ events, event.index? = some (.number index) := by
  cases h with
  | told => exact fun _ he => absurd he List.not_mem_nil
  | unknown h => exact List.forall_mem_singleton.mpr h.index?_eq

private theorem Naming.countP_isReading (h : Naming index answer events name) :
    events.countP Event.isReading = 0 := by
  cases h with
  | told => rfl
  | unknown h => rw [List.countP_singleton, h.isReading_eq_false]; rfl

private theorem Naming.eq_nil (h : Naming index answer events name) (ha : answer.isOk = true) :
    events = [] := by
  cases h with
  | told => rfl
  | unknown => cases ha

end Naming

section Conclusion

variable {declared : List Descriptor} {index : Nat} {name : String} {device : Device}
  {last : Event} {samples : List Sample}

private theorem Conclusion.index?_eq (h : Conclusion declared index name device last samples) :
    last.index? = some (.number index) := by
  cases h with
  | withoutUtilization _ h => exact h.index?_eq
  | withoutTemperature _ _ h => exact h.index?_eq
  | withoutMemory _ _ _ h => exact h.index?_eq
  | read _ _ _ h =>
    rw [Event.index?, h.fields]
    rfl

private theorem Conclusion.sample_index?_of_mem
    (h : Conclusion declared index name device last samples) :
    ∀ s ∈ samples, s.index? = some (toString index) := by
  cases h with
  | read _ _ _ h =>
    intro s hs
    rw [Sample.index?, h.labels s hs]
    rfl
  | _ => exact fun _ hs => absurd hs List.not_mem_nil

/-- A device that was read has six samples, any other has none. -/
theorem Conclusion.length_samples (h : Conclusion declared index name device last samples) :
    samples.length = if last.isReading then 6 else 0 := by
  cases h with
  | withoutUtilization _ h => rw [h.isReading_eq_false]; rfl
  | withoutTemperature _ _ h => rw [h.isReading_eq_false]; rfl
  | withoutMemory _ _ _ h => rw [h.isReading_eq_false]; rfl
  | read _ _ _ h =>
    have hlength := congrArg List.length h.values
    rw [List.length_map] at hlength
    rw [h.told, hlength]
    rfl

/-- A device that answers is not warned of in the end. -/
theorem Conclusion.level_ne_warn (h : Conclusion declared index name device last samples)
    (hu : device.utilization.isOk = true) (ht : device.temperature.isOk = true)
    (hm : device.memory.isOk = true) : last.occurrence.level ≠ .warn := by
  cases h with
  | withoutUtilization he => rw [he] at hu; cases hu
  | withoutTemperature _ he => rw [he] at ht; cases ht
  | withoutMemory _ _ he => rw [he] at hm; cases hm
  | read _ _ _ h =>
    have hlevel := (of_decide_eq_true h.told).1
    rw [hlevel]
    decide

end Conclusion

namespace Accounted

variable {declared : List Descriptor} {index : Nat} {answer : Except QueryError Device}
  {events : List Event} {samples : List Sample}

/-- Everything that is logged about an index bears it. -/
theorem index?_of_mem (h : Accounted declared index answer events samples) :
    ∀ event ∈ events, event.index? = some (.number index) := by
  cases h with
  | missing h => exact List.forall_mem_singleton.mpr h.index?_eq
  | found hn hl =>
    exact List.forall_mem_append.mpr
      ⟨hn.index?_of_mem, List.forall_mem_singleton.mpr hl.index?_eq⟩

/-- Every sample of an index bears it. -/
theorem sample_index?_of_mem (h : Accounted declared index answer events samples) :
    ∀ s ∈ samples, s.index? = some (toString index) := by
  cases h with
  | missing => exact fun _ hs => absurd hs List.not_mem_nil
  | found _ hl => exact hl.sample_index?_of_mem

/-- There are six samples for each event that says that a device was read. -/
theorem length_samples (h : Accounted declared index answer events samples) :
    samples.length = 6 * events.countP Event.isReading := by
  cases h with
  | missing h => rw [List.countP_singleton, h.isReading_eq_false]; rfl
  | found hn hl =>
    rw [List.countP_append, hn.countP_isReading, List.countP_singleton, hl.length_samples]
    split <;> rfl

/-- There are samples exactly if the last event says that the device was read. -/
theorem samples_ne_nil_iff (h : Accounted declared index answer events samples) :
    samples ≠ [] ↔ ∃ last, events.getLast? = some last ∧ last.isReading = true := by
  cases h with
  | missing h => simp [h.isReading_eq_false]
  | @found _ _ _ last _ _ hl =>
    rw [← List.length_pos_iff, hl.length_samples]
    cases hread : last.isReading with
    | false => simp [hread]
    | true => simp [hread]

/-- Nothing is warned of if a device answers every query. -/
theorem level_ne_warn {device : Device} (h : Accounted declared index (.ok device) events samples)
    (hn : device.name.isOk = true) (hu : device.utilization.isOk = true)
    (ht : device.temperature.isOk = true) (hm : device.memory.isOk = true) :
    ∀ event ∈ events, event.occurrence.level ≠ .warn := by
  cases h with
  | found hname hl =>
    rw [hname.eq_nil hn, List.nil_append]
    exact List.forall_mem_singleton.mpr (hl.level_ne_warn hu ht hm)

end Accounted

section Account

variable {L : Type} (collector : GpuCollector L) (index : Nat)

private theorem warns_complaint (query : DeviceQuery) (error : QueryError) :
    (collector.complaint index query error).Warns query.complaint index error :=
  ⟨rfl, rfl, rfl⟩

private theorem reading_samples (name : String) (utilization temperature : UInt32)
    (memory : MemoryUse) :
    Reading collector.descriptors.toList index name utilization temperature memory
      ⟨.deviceRead index name utilization.toNat temperature.toNat, collector.span⟩
      (collector.descriptors.samples ⟨index, name, utilization, temperature, memory⟩) := by
  refine ⟨rfl, rfl, rfl, ?_, rfl⟩
  intro s hs
  obtain ⟨q, -, rfl⟩ := List.mem_map.mp hs
  exact Sample.labels_metric_ofLabelled (collector.descriptors.of q) _ [toString index, name] rfl

/-- What a device is concluded with. -/
theorem conclusion_verdict (device : Device) :
    Conclusion collector.descriptors.toList index (nameOf device) device
      (collector.verdict index device) (collector.block index (.ok device)) := by
  unfold verdict block
  dsimp only
  cases hu : device.utilization with
  | error error => exact .withoutUtilization hu (collector.warns_complaint index .utilization error)
  | ok utilization =>
    cases ht : device.temperature with
    | error error =>
      exact .withoutTemperature hu ht (collector.warns_complaint index .temperature error)
    | ok temperature =>
      cases hm : device.memory with
      | error error =>
        exact .withoutMemory hu ht hm (collector.warns_complaint index .memory error)
      | ok memory =>
        exact .read hu ht hm
          (collector.reading_samples index (nameOf device) utilization temperature memory)

/-- Every device is accounted for, whatever it answers. -/
theorem accounted (device : Except QueryError Device) :
    Accounted collector.descriptors.toList index device (collector.account index device)
      (collector.block index device) := by
  cases device with
  | error error => exact .missing (collector.warns_complaint index .handle error)
  | ok device =>
    have hl := collector.conclusion_verdict index device
    unfold account
    dsimp only
    cases hn : device.name with
    | ok name =>
      have hname : Naming index device.name [] name := by
        rw [hn]
        exact .told name
      rw [nameOf, hn] at hl
      exact .found hname hl
    | error error =>
      have hname : Naming index device.name [collector.complaint index .name error] "unknown" := by
        rw [hn]
        exact .unknown (collector.warns_complaint index .name error)
      rw [nameOf, hn] at hl
      exact .found hname hl

end Account

section Update

variable {L τ : Type} [DeviceLibrary L] (collector : GpuCollector L)

/-- The log of a survey, device by device. -/
theorem events_surveyCourse (remaining index : Nat) :
    Step.events (collector.surveyCourse remaining index) =
      (List.range' index remaining).flatMap fun i =>
        collector.account i (DeviceLibrary.device collector.library i) := by
  simp only [surveyCourse, Step.events_flatMap, deviceCourse, Step.events_append,
    Step.events_map_recorded, Step.events_map_offered, List.append_nil]

private theorem some_number_injective : (fun i => some (FieldValue.number i)).Injective := by
  intro i j h
  cases h
  rfl

private theorem some_toString_injective : (fun i : Nat => some (toString i)).Injective :=
  fun _ _ h => Nat.repr_injective (Option.some.inj h)

/-- What a survey logs about an index is the account of the device there. -/
theorem events_surveyCourse_filter {count i : Nat} (hi : i < count) :
    ((Step.events (collector.surveyCourse count 0)).filter fun event =>
        event.index? = some (.number i)) =
      collector.account i (DeviceLibrary.device collector.library i) := by
  rw [events_surveyCourse, ← List.range_eq_range']
  exact filter_flatMap_range some_number_injective
    (fun i => (collector.accounted i _).index?_of_mem) hi

/-- What a survey gives for an index is the block of the device there. -/
theorem samples_surveyCourse_filter {count i : Nat} (hi : i < count) :
    ((Step.samples (collector.surveyCourse count 0)).filter fun s =>
        s.index? = some (toString i)) =
      collector.block i (DeviceLibrary.device collector.library i) := by
  rw [samples_surveyCourse, ← List.range_eq_range']
  exact filter_flatMap_range some_toString_injective
    (fun i => (collector.accounted i _).sample_index?_of_mem) hi

/-- A survey logs about the indices in ascending order, and nothing else. -/
theorem events_surveyCourse_eq_flatMap (count : Nat) :
    Step.events (collector.surveyCourse count 0) = (List.range count).flatMap fun i =>
      (Step.events (collector.surveyCourse count 0)).filter fun event =>
        event.index? = some (.number i) := by
  rw [events_surveyCourse, ← List.range_eq_range']
  exact flatMap_range_filter some_number_injective
    (fun i => (collector.accounted i _).index?_of_mem) count

/-- It gives samples for the indices in ascending order, and no others. -/
theorem samples_surveyCourse_eq_flatMap (count : Nat) :
    Step.samples (collector.surveyCourse count 0) = (List.range count).flatMap fun i =>
      (Step.samples (collector.surveyCourse count 0)).filter fun s =>
        s.index? = some (toString i) := by
  rw [samples_surveyCourse, ← List.range_eq_range']
  exact flatMap_range_filter some_toString_injective
    (fun i => (collector.accounted i _).sample_index?_of_mem) count

omit [DeviceLibrary L] in
private theorem span_verdict (index : Nat) (device : Device) :
    (collector.verdict index device).span = collector.span := by
  unfold verdict
  split <;> rfl

omit [DeviceLibrary L] in
/-- Everything about a device is logged in the span of the collector. -/
theorem span_of_mem_account {index : Nat} {device : Except QueryError Device} :
    ∀ event ∈ collector.account index device, event.span = collector.span := by
  unfold account
  split
  · exact List.forall_mem_singleton.mpr rfl
  · rename_i device
    split
    · exact List.forall_mem_singleton.mpr (collector.span_verdict index device)
    · exact List.forall_mem_cons.mpr
        ⟨rfl, List.forall_mem_singleton.mpr (collector.span_verdict index device)⟩

private theorem updateCourse_of_error {error : QueryError}
    (h : (DeviceLibrary.enumerate collector.library).1 = .error error) :
    collector.updateCourse = [.recorded ⟨.countFailed error.message, collector.span⟩] := by
  rw [updateCourse, h]

private theorem updateCourse_of_ok {count : Nat}
    (h : (DeviceLibrary.enumerate collector.library).1 = .ok count) :
    collector.updateCourse = collector.counted.surveyCourse count 0 := by
  rw [updateCourse, h]

/-- Everything is logged in the span of the collector. -/
theorem span_of_mem_updateCourse :
    ∀ event ∈ Step.events collector.updateCourse, event.span = collector.span := by
  cases hc : (DeviceLibrary.enumerate collector.library).1 with
  | error error =>
    rw [collector.updateCourse_of_error hc]
    exact List.forall_mem_singleton.mpr rfl
  | ok count =>
    rw [collector.updateCourse_of_ok hc, events_surveyCourse]
    intro event he
    obtain ⟨i, -, he⟩ := List.mem_flatMap.mp he
    exact collector.counted.span_of_mem_account event he

/-- If nothing is refused, the log of an update accounts for each device by ascending index; those
logged as read give samples. -/
theorem log_accounts_for_devices [Sink τ] {sink : τ} (hs : Sink.Willing sink) :
    let update := Collector.update collector
    let log := (update.perform sink).log
    let emitted := Step.samples (update.trace sink)
    let counted := DeviceLibrary.enumerate collector.library
    let about (i : Nat) := log.filter fun event => event.index? = some (.number i)
    let given (i : Nat) := emitted.filter fun s => s.index? = some (toString i)
    (∀ error, counted.1 = .error error → ∃ event, log = [event] ∧
      event.occurrence.level = .error ∧ event.occurrence.message = "failed to get GPU count" ∧
      event.occurrence.fields = [("error", .text error.message)]) ∧
    (counted.1 = .ok 0 → log = []) ∧
    (∀ count, counted.1 = .ok count →
      log = (List.range count).flatMap about ∧
      emitted = (List.range count).flatMap given ∧
      emitted.length = 6 * log.countP Event.isReading ∧
      ∀ i < count,
        Accounted (Collector.descriptors collector) i (DeviceLibrary.device counted.2 i) (about i)
          (given i) ∧
        (given i ≠ [] ↔ ∃ last, (about i).getLast? = some last ∧ last.isReading = true) ∧
        ∀ device, DeviceLibrary.device counted.2 i = .ok device →
          device.name.isOk = true → device.utilization.isOk = true →
          device.temperature.isOk = true → device.memory.isOk = true →
          ∀ event ∈ about i, event.occurrence.level ≠ .warn) ∧
    (∀ event ∈ log, event.span = collector.span) := by
  have htrace : (Collector.update collector).trace sink = collector.updateCourse :=
    (Activity.trace_of_accepts _ (hs _)).trans collector.course_update
  have hlog : ((Collector.update collector).perform sink).log =
      Step.events collector.updateCourse := by
    rw [Activity.perform_log, htrace]
  dsimp only
  rw [hlog, htrace]
  refine ⟨?_, ?_, ?_, collector.span_of_mem_updateCourse⟩
  · intro error he
    rw [collector.updateCourse_of_error he]
    exact ⟨_, rfl, rfl, rfl, rfl⟩
  · intro hz
    rw [collector.updateCourse_of_ok hz]
    rfl
  · intro count hc
    rw [collector.updateCourse_of_ok hc]
    have hacc (i : Nat) :=
      collector.counted.accounted i (DeviceLibrary.device collector.counted.library i)
    refine ⟨collector.counted.events_surveyCourse_eq_flatMap count,
      collector.counted.samples_surveyCourse_eq_flatMap count, ?_, ?_⟩
    · rw [events_surveyCourse, samples_surveyCourse]
      exact length_flatMap_eq_mul_countP (fun i => (hacc i).length_samples) _
    · intro i hi
      rw [collector.counted.events_surveyCourse_filter hi,
        collector.counted.samples_surveyCourse_filter hi]
      refine ⟨hacc i, (hacc i).samples_ne_nil_iff, ?_⟩
      intro device hd hn hu ht hm
      have hdevice : DeviceLibrary.device collector.counted.library i = .ok device := hd
      have h := hacc i
      rw [hdevice] at h ⊢
      exact h.level_ne_warn hn hu ht hm

end Update

/-- Of the three reported devices the first is read under the stand-in name, the second lacks a
temperature and the third is not there. -/
theorem log_troubledReel :
    ∃ collector, create troubledReel defaultNamespace (some collectorName) = .ok collector ∧
      Sink.Willing Collected.empty ∧
      let update := Collector.update collector
      let log := (update.perform Collected.empty).log
      let emitted := Step.samples (update.trace Collected.empty)
      log.map (fun event => (event.occurrence.message, event.occurrence.fields)) =
        [("failed to get GPU name",
            [("gpu_index", .number 0),
              ("error", .text "operation not supported by this device")]),
          ("read GPU",
            [("gpu_index", .number 0), ("gpu_name", .text "unknown"),
              ("utilization", .number 50), ("temperature", .number 60)]),
          ("failed to get GPU temperature",
            [("gpu_index", .number 1),
              ("error", .text "GPU has fallen off the bus or is otherwise inaccessible")]),
          ("failed to get handle for GPU device",
            [("gpu_index", .number 2),
              ("error", .text "invalid argument: device index 2 out of range")])] ∧
      emitted.length = 6 ∧
      emitted.map (fun s => (s.labelValues, s.value.toRat?)) =
        [50, 60, 100, 40, 60, 1].map (fun value => (["0", "unknown"], some value)) ∧
      ∀ event ∈ log, event.span = some collectorName := by
  obtain ⟨collector, hb⟩ := exists_create_default troubledReel (some collectorName)
  have hw := Collected.willing .empty
  obtain ⟨descriptors, -, rfl⟩ := exists_of_create_eq_ok hb
  let collector : GpuCollector Reel := ⟨troubledReel, descriptors, some collectorName⟩
  obtain ⟨-, -, hcounted, hspan⟩ := collector.log_accounts_for_devices hw
  obtain ⟨-, -, hlength, -⟩ := hcounted 3 rfl
  exact ⟨collector, hb, hw, rfl, hlength, samples_troubledReel descriptors _, hspan⟩

end GpuCollector

end GpuTelemetry
