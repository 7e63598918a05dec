import GpuTelemetry.Proofs.Activity.Alike
import GpuTelemetry.Proofs.Gpu.Account

/-!
# Updates over the same readings

An update depends on its library only through the count and the devices below it. Two collectors
with the same metrics and the same span whose libraries agree so far do the same, whatever kinds of
libraries these are.
-/

namespace GpuTelemetry.GpuCollector

variable {L L' : Type} [DeviceLibrary L] [DeviceLibrary L']

/-- A survey depends on the devices that it visits, on the metrics and on the span. -/
theorem survey_congr {collector : GpuCollector L} {collector' : GpuCollector L'}
    (hd : collector.descriptors = collector'.descriptors) (hs : collector.span = collector'.span)
    {remaining index : Nat}
    (hdevice : ∀ i, index ≤ i → i < index + remaining →
      DeviceLibrary.device collector.library i = DeviceLibrary.device collector'.library i) :
    collector.survey remaining index = collector'.survey remaining index := by
  have hvisit (device : Except QueryError Device) (i : Nat) :
      collector.visit i device = collector'.visit i device := by
    obtain ⟨library, descriptors, span⟩ := collector
    obtain ⟨library', descriptors', span'⟩ := collector'
    subst hd hs
    rfl
  induction remaining generalizing index with
  | zero => rfl
  | succ remaining ih =>
    have hfirst := hdevice index (Nat.le_refl index) (by omega)
    have hrest : collector.survey remaining (index + 1) =
        collector'.survey remaining (index + 1) :=
      ih fun i hi hlt => hdevice i (by omega) (by omega)
    rw [survey_succ, survey_succ, hfirst, hvisit, hrest]

/-- Collectors over the same count and the same devices below it have updates that are alike. -/
theorem alike_update_of_readings {collector : GpuCollector L} {collector' : GpuCollector L'}
    (hd : collector.descriptors = collector'.descriptors) (hs : collector.span = collector'.span)
    (hcount : (DeviceLibrary.enumerate collector.library).1 =
      (DeviceLibrary.enumerate collector'.library).1)
    (hdevice : ∀ count, (DeviceLibrary.enumerate collector'.library).1 = .ok count →
      ∀ i < count, DeviceLibrary.device collector.counted.library i =
        DeviceLibrary.device collector'.counted.library i) (view : Step → Step) :
    Activity.Alike view (fun updated updated' => updated.1 = updated'.1)
      (Collector.update collector) (Collector.update collector') := by
  rw [update_eq, update_eq, hcount]
  cases hc : (DeviceLibrary.enumerate collector'.library).1 with
  | error error =>
    refine .record ?_ (.done rfl)
    rw [hs]
  | ok count =>
    cases count with
    | zero => exact .done rfl
    | succ count =>
      dsimp only
      have hsurvey : collector.counted.survey (count + 1) 0 =
          collector'.counted.survey (count + 1) 0 := by
        apply survey_congr
        · exact hd
        · exact hs
        · exact fun i _ hlt => hdevice (count + 1) hc i (by omega)
      rw [hsurvey]
      apply Activity.Alike.bind (Activity.Alike.refl (fun _ => rfl) _)
      rintro result _ rfl
      exact .done rfl

/-- An update over one device records the account of that device. -/
theorem events_updateCourse_one {collector : GpuCollector L}
    (h : (DeviceLibrary.enumerate collector.library).1 = .ok 1) :
    Step.events collector.updateCourse =
      collector.counted.account 0 (DeviceLibrary.device collector.counted.library 0) := by
  simp only [updateCourse, h, surveyCourse, deviceCourse, List.range'_one, List.flatMap_singleton,
    Step.events_append, Step.events_map_recorded, Step.events_map_offered, List.append_nil]

omit [DeviceLibrary L] in
/-- The account of a device has a further event if the device does not tell its name. -/
theorem length_account_ok (collector : GpuCollector L) (index : Nat) (device : Device) :
    (collector.account index (.ok device)).length = if device.name.isOk then 1 else 2 := by
  cases hn : device.name with
  | ok name =>
    simp only [account, hn]
    rfl
  | error error =>
    simp only [account, hn]
    rfl

end GpuTelemetry.GpuCollector
