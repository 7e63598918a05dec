import GpuTelemetry.Device.Bench
import GpuTelemetry.Proofs.Gpu.Account
import GpuTelemetry.Proofs.Gpu.Naming
import GpuTelemetry.Proofs.Number.Rounding
import GpuTelemetry.Settings.Basic

/-!
# What an update gives

The reference for one device pairs the declared descriptors with the six values of its readings,
and builds each sample with the check of its label values. Against a sink that accepts everything
an update gives exactly the references of all counted devices, by ascending index; it fails
without a count and without devices, and then gives nothing.
-/

namespace GpuTelemetry.GpuCollector

variable {L τ : Type}

/-- The values of a device, in the order of declaration. -/
def referenceValues (utilization temperature : UInt32) (memory : MemoryUse) : List Binary64 :=
  [.ofNat utilization.toNat, .ofNat temperature.toNat, .ofNat memory.total.toNat,
    .ofNat memory.used.toNat, .ofNat memory.free.toNat, .one]

/-- The samples that a device should give, each built from its declared descriptor: none if a
reading is not to be had. -/
def referenceBlock (declared : List Descriptor) (index : Nat) :
    Except QueryError Device → List (Except Failure Sample)
  | .error _ => []
  | .ok device =>
    match device.utilization, device.temperature, device.memory with
    | .ok utilization, .ok temperature, .ok memory =>
      let labelValues := [toString index, nameOf device]
      List.zipWith (fun d value => Sample.create d value labelValues) declared
        (referenceValues utilization temperature memory)
    | _, _, _ => []

/-- A sample of a descriptor with known labels passes the check of its label values. -/
theorem create_eq_ofLabelled {labels : List String} (d : LabelledBy labels) (value : Binary64)
    (labelValues : List String) (h : labelValues.length = labels.length) :
    Sample.create d.1 value labelValues = .ok (.ofLabelled d value labelValues h) := by
  have hl : labelValues.length = d.1.labels.length := by rw [d.2, h]
  rw [Sample.create, dif_pos hl]
  rfl

/-- The samples of a device are those of the reference, and each of them can be built. -/
theorem map_ok_block (collector : GpuCollector L) (index : Nat)
    (device : Except QueryError Device) :
    (collector.block index device).map .ok =
      referenceBlock collector.descriptors.toList index device := by
  cases device with
  | error error => rfl
  | ok device =>
    obtain ⟨name, utilization, temperature, memory⟩ := device
    cases utilization with
    | error error => rfl
    | ok utilization =>
      cases temperature with
      | error error => rfl
      | ok temperature =>
        cases memory with
        | error error => rfl
        | ok memory =>
          have hl (device : Device) : [toString index, nameOf device].length =
              Quantity.labels.length := rfl
          simp only [block, referenceBlock, GpuDescriptors.toList, GpuDescriptors.samples,
            referenceValues, Quantity.all, List.map_cons, List.map_nil, List.zipWith_cons_cons,
            List.zipWith_nil_left, create_eq_ofLabelled _ _ _ (hl _)]
          rfl

section Library

variable [DeviceLibrary L]

/-- The samples of a survey, device by device. -/
theorem samples_surveyCourse (collector : GpuCollector L) (remaining index : Nat) :
    Step.samples (collector.surveyCourse remaining index) =
      (List.range' index remaining).flatMap fun i =>
        collector.block i (DeviceLibrary.device collector.library i) := by
  simp only [surveyCourse, Step.samples_flatMap, deviceCourse, Step.samples_append,
    Step.samples_map_recorded, Step.samples_map_offered, List.nil_append]

/-- If nothing is refused, an update gives nothing without a count or devices, and otherwise the
reference blocks of all indices. -/
theorem update_eq_reference [Sink τ] {library : L} {metricNamespace : String}
    {span : Option String} {collector : GpuCollector L}
    (hb : create library metricNamespace span = .ok collector) {sink : τ}
    (hs : Sink.Willing sink) :
    let update := Collector.update collector
    let performed := update.perform sink
    let emitted := Step.samples (update.trace sink)
    let declared := Collector.descriptors collector
    let counted := DeviceLibrary.enumerate library
    (∀ error, counted.1 = .error error →
      performed.result.1 = .error (.deviceCount error) ∧ emitted = []) ∧
    (counted.1 = .ok 0 → performed.result.1 = .error .noDevices ∧ emitted = []) ∧
    (∀ count, counted.1 = .ok count → 0 < count →
      performed.result.1 = .ok () ∧
      emitted.map .ok = (List.range count).flatMap fun i =>
        referenceBlock declared i (DeviceLibrary.device counted.2 i)) ∧
    performed.sink = Sink.after sink emitted ∧
    declared.length = 6 ∧
    declared.map Descriptor.name = collector.metricNames ∧
    collector.metricNames =
      Quantity.all.map fun q => joinName metricNamespace Quantity.subsystem q.metricName := by
  have ha := hs (Step.samples (Collector.update collector).course)
  have hresult := Activity.result_of_accepts _ ha
  have htrace := Activity.trace_of_accepts _ ha
  obtain ⟨rfl, -, -⟩ := of_create_eq_ok hb
  dsimp only
  rw [hresult, htrace, outcome_update, course_update]
  refine ⟨?_, ?_, ?_, ?_, rfl, rfl, metricNames_of_create hb⟩
  · intro error he
    simp only [updateResult, updateCourse, he, Step.samples_recorded, Step.samples_nil, and_self]
  · intro hz
    simp only [updateResult, updateCourse, hz, true_and]
    rfl
  · intro count hc hpos
    obtain ⟨n, rfl⟩ : ∃ n, count = n + 1 := ⟨count - 1, by omega⟩
    simp only [updateResult, updateCourse, hc, samples_surveyCourse, true_and]
    rw [List.map_flatMap, ← List.range_eq_range']
    congr 1
    funext i
    exact map_ok_block collector.counted i _
  · rw [Activity.perform_sink, htrace, course_update]

end Library

/-- A library that reports three devices: one without a name, one without a temperature, and one
that is not there. -/
def troubledReel : Reel :=
  .start [⟨⟨[⟨none, ⟨.error .notSupported, .ok 50, .ok 60, .ok ⟨100, 40, 60⟩⟩⟩,
    ⟨none, ⟨.ok "B", .ok 10, .error .gpuLost, .ok ⟨200, 0, 200⟩⟩⟩], none⟩, some 3⟩]

/-- The default namespace makes descriptors. -/
theorem exists_create_default (library : L) (span : Option String) :
    ∃ collector, create library defaultNamespace span = .ok collector := by
  have hok : (GpuDescriptors.create defaultNamespace).isOk = true := by decide +kernel
  unfold create
  cases hd : GpuDescriptors.create defaultNamespace with
  | ok descriptors => exact ⟨_, rfl⟩
  | error failure => rw [hd] at hok; cases hok

/-- The samples of its first device, under the stand-in name. -/
theorem samples_troubledReel (descriptors : GpuDescriptors) (span : Option String) :
    let update := Collector.update (GpuCollector.mk troubledReel descriptors span)
    (Step.samples (update.trace Collected.empty)).map
        (fun s => (s.labelValues, s.value.toRat?)) =
      [50, 60, 100, 40, 60, 1].map fun value => (["0", "unknown"], some value) := by
  intro update
  let values := [50, 60, 100, 40, 60, 1]
  have hle : ∀ n ∈ values, n ≤ 2 ^ 53 := by decide
  have hvalues : values.map (fun n => (["0", "unknown"], (Binary64.ofNat n).toRat?)) =
      values.map fun n => (["0", "unknown"], some (n : ℚ)) :=
    List.map_congr_left fun n hn => congrArg _ (Binary64.toRat?_ofNat_of_le (hle n hn))
  have hsamples : (Step.samples (update.trace Collected.empty)).map
      (fun s => (s.labelValues, s.value.toRat?)) =
        values.map fun n => (["0", "unknown"], (Binary64.ofNat n).toRat?) := by
    rw [trace_update_empty]
    rfl
  rw [hsamples, hvalues]
  simp [values]

/-- Of the three reported devices only the first gives samples, under the stand-in name. -/
theorem update_troubledReel :
    ∃ collector, create troubledReel defaultNamespace none = .ok collector ∧
      Sink.Willing Collected.empty ∧
      let update := Collector.update collector
      let emitted := Step.samples (update.trace Collected.empty)
      (update.perform Collected.empty).result.1 = .ok () ∧
      emitted.map .ok = referenceBlock (Collector.descriptors collector) 0
        (.ok ⟨.error .notSupported, .ok 50, .ok 60, .ok ⟨100, 40, 60⟩⟩) ∧
      emitted.map (fun s => (s.labelValues, s.value.toRat?)) =
        [50, 60, 100, 40, 60, 1].map fun value => (["0", "unknown"], some value) := by
  obtain ⟨collector, hb⟩ := exists_create_default troubledReel none
  have hw := Collected.willing .empty
  obtain ⟨-, -, hpositive, -⟩ := update_eq_reference hb hw
  obtain ⟨hresult, hemitted⟩ := hpositive 3 rfl (by decide)
  obtain ⟨descriptors, -, rfl⟩ := exists_of_create_eq_ok hb
  exact ⟨_, hb, hw, hresult, hemitted.trans (List.append_nil _),
    samples_troubledReel descriptors none⟩

end GpuTelemetry.GpuCollector
