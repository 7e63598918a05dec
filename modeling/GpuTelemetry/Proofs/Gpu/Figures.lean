import GpuTelemetry.Device.Bench
import GpuTelemetry.Proofs.Exposition.Lines
import GpuTelemetry.Proofs.Gpu.Update
import GpuTelemetry.Proofs.Metric.Namespaces
import GpuTelemetry.Proofs.Metric.Partition
import GpuTelemetry.Proofs.Number.Digits

/-!
# Readings on a page

A sample states a natural: a percentage, a temperature, a number of bytes, or one for the device
itself. Percentages and temperatures are held as they are, and bytes are rounded to fifty-three
significant bits. The page of some readings has one line for each quantity of each reading, and
there every natural of at most fifty-three bits stands digit by digit.
-/

namespace GpuTelemetry

/-- Names that differ are what remains without repetitions. -/
private theorem eraseDups_of_nodup {names : List String} (h : names.Nodup) :
    names.eraseDups = names := by
  induction names with
  | nil => rfl
  | cons name rest ih =>
    obtain ⟨hfresh, hrest⟩ := List.nodup_cons.mp h
    have hkeep : (rest.filter fun other => !other == name) = rest := by
      rw [List.filter_eq_self]
      intro other hm
      have hne : other ≠ name := fun he => hfresh (he ▸ hm)
      rw [beq_eq_false_iff_ne.mpr hne]
      rfl
    rw [List.eraseDups_cons, hkeep, ih hrest]

/-- Names that came before are left out. -/
private theorem eraseDups_append_of_subset {names more : List String}
    (h : ∀ name ∈ more, name ∈ names) : (names ++ more).eraseDups = names.eraseDups := by
  have hnone : more.removeAll names = [] := by
    rw [List.removeAll, List.filter_eq_nil_iff]
    intro name hm
    simp [h name hm]
  rw [List.eraseDups_append, hnone]
  exact List.append_nil _

namespace Exposition

private theorem labelChar_of_isDigit {c : Char} (h : c.isDigit = true) : labelChar c = [c] := by
  unfold labelChar
  split
  · cases h
  · unfold helpChar
    split
    · cases h
    · cases h
    · rfl

/-- Nothing in the digits of a natural has to be escaped. -/
theorem escapeLabel_toString (n : ℕ) : escapeLabel (toString n) = toString n := by
  have hdigits : (Nat.toDigits 10 n).flatMap labelChar =
      (Nat.toDigits 10 n).flatMap fun c => [c] := by
    refine List.flatMap_congr fun c hc => ?_
    exact labelChar_of_isDigit (Nat.isDigit_of_mem_toDigits (by decide) (by decide) hc)
  rw [escapeLabel, Nat.toString_eq_ofList_toDigits, String.toList_ofList, hdigits,
    List.flatMap_singleton']

/-- Two labels in braces. -/
theorem labelText_pair (name value name' value' : String) :
    labelText [(name, value), (name', value')] =
      "\x7b" ++ name ++ "=\"" ++ escapeLabel value ++ "\"," ++ name' ++ "=\"" ++
        escapeLabel value' ++ "\"\x7d" := by
  have htext : labelText [(name, value), (name', value')] =
      "\x7b" ++ ",".intercalate [name ++ "=\"" ++ escapeLabel value ++ "\"",
        name' ++ "=\"" ++ escapeLabel value' ++ "\""] ++ "\x7d" := rfl
  have hcomma : "\"," = "\"" ++ "," := rfl
  have hbrace : "\"\x7d" = "\"" ++ "\x7d" := rfl
  rw [htext, String.intercalate_cons_cons, String.intercalate_singleton, hcomma, hbrace]
  simp only [String.append_assoc]

end Exposition

namespace Quantity

/-- The natural that is stated about a device. -/
def figure (reading : DeviceReading) : Quantity → ℕ
  | .utilization => reading.utilization.toNat
  | .temperature => reading.temperature.toNat
  | .memoryTotal => reading.memory.total.toNat
  | .memoryUsed => reading.memory.used.toNat
  | .memoryFree => reading.memory.free.toNat
  | .info => 1

variable (reading : DeviceReading)

private theorem value_eq_ofNat (q : Quantity) : q.value reading = .ofNat (q.figure reading) := by
  cases q <;> rfl

/-- Percentages and temperatures have at most thirty-two bits. -/
theorem figure_lt_of_percent {q : Quantity} (h : q = .utilization ∨ q = .temperature) :
    q.figure reading < 2 ^ 32 := by
  rcases h with rfl | rfl
  · exact reading.utilization.toNat_lt
  · exact reading.temperature.toNat_lt

/-- No natural has more than sixty-four bits. -/
theorem figure_lt (q : Quantity) : q.figure reading < 2 ^ 64 := by
  cases q with
  | utilization => exact (figure_lt_of_percent reading (.inl rfl)).trans (by decide)
  | temperature => exact (figure_lt_of_percent reading (.inr rfl)).trans (by decide)
  | memoryTotal => exact reading.memory.total.toNat_lt
  | memoryUsed => exact reading.memory.used.toNat_lt
  | memoryFree => exact reading.memory.free.toNat_lt
  | info => exact Nat.one_lt_two_pow (by decide)

/-- The text in which a quantity stands on a page. -/
def text (q : Quantity) : String := (q.value reading).render Exposition.valueStyle

/-- A natural of at most fifty-three bits stands there digit by digit. -/
theorem text_of_le {q : Quantity} (h : q.figure reading ≤ 2 ^ 53) :
    q.text reading = toString (q.figure reading) := by
  rw [text, value_eq_ofNat, Binary64.render_ofNat h rfl]
  exact String.append_empty

end Quantity

namespace GpuDescriptors

variable (descriptors : GpuDescriptors)

/-- The line about a quantity of a device. -/
def line (reading : DeviceReading) (q : Quantity) : String :=
  (descriptors.of q).1.name ++ "\x7bgpu_index=\"" ++ toString reading.index ++ "\",gpu_name=\"" ++
    Exposition.escapeLabel reading.name ++ "\"\x7d " ++ q.text reading ++ "\n"

/-- The lines about a quantity. -/
def linesOf (readings : List DeviceReading) (q : Quantity) : String :=
  "# HELP " ++ (descriptors.of q).1.name ++ " " ++ q.help ++ "\n" ++
    "# TYPE " ++ (descriptors.of q).1.name ++ " gauge\n" ++
    String.join (readings.map fun reading => descriptors.line reading q)

/-- A reading has a value for each label of its quantities. -/
theorem length_labelValues (reading : DeviceReading) :
    [toString reading.index, reading.name].length = Quantity.labels.length := rfl

/-- The sample of a quantity. -/
def sample (reading : DeviceReading) (q : Quantity) : Sample :=
  .ofLabelled (descriptors.of q) (q.value reading) [toString reading.index, reading.name]
    (length_labelValues reading)

/-- The family of a quantity. -/
def family (readings : List DeviceReading) (q : Quantity) : Family :=
  ⟨(descriptors.of q).1.name, (descriptors.of q).1.help, .gauge,
    readings.map fun reading => (descriptors.sample reading q).metric⟩

private theorem samples_eq_map (reading : DeviceReading) :
    descriptors.samples reading = Quantity.all.map (descriptors.sample reading) := rfl

variable {descriptors} {metricNamespace : String} (h : create metricNamespace = .ok descriptors)

include h

private theorem help_eq (q : Quantity) : (descriptors.of q).1.help = q.help :=
  (LabelledBy.of_create_eq_ok (describe_of_create h q)).2

/-- Different quantities have different names. -/
theorem name_eq_iff (q q' : Quantity) :
    (descriptors.of q).1.name = (descriptors.of q').1.name ↔ q = q' := by
  rw [name_eq_fullName h, name_eq_fullName h]
  constructor
  · intro he
    have hw := (Wording.eq_of_fullName_eq (Wording.ofQuantity_mem q) (Wording.ofQuantity_mem q')
      he).2
    revert hw
    cases q <;> cases q' <;> decide
  · rintro rfl
    rfl

/-- Of the samples of a reading one has the name of a quantity. -/
theorem filter_samples (reading : DeviceReading) (q : Quantity) :
    ((descriptors.samples reading).filter fun s => s.name = (descriptors.of q).1.name) =
      [descriptors.sample reading q] := by
  have hone : Quantity.all.filter (fun q' => q' = q) = [q] := by
    cases q <;> rfl
  have hpred : ((fun s : Sample => decide (s.name = (descriptors.of q).1.name)) ∘
      descriptors.sample reading) = fun q' => decide (q' = q) := by
    funext q'
    exact decide_eq_decide.mpr (name_eq_iff h q' q)
  rw [samples_eq_map, List.filter_map, hpred, hone]
  rfl

/-- Of the samples of some readings those of a quantity have its name. -/
theorem filter_flatMap_samples (readings : List DeviceReading) (q : Quantity) :
    ((readings.flatMap descriptors.samples).filter fun s =>
      s.name = (descriptors.of q).1.name) =
      readings.map fun reading => descriptors.sample reading q := by
  rw [List.filter_flatMap]
  simp only [filter_samples h]
  exact List.flatMap_pure_eq_map _ _

/-- The names of some samples come in the order of the quantities. -/
theorem eraseDups_names {readings : List DeviceReading} (hr : readings ≠ []) :
    ((readings.flatMap descriptors.samples).map Sample.name).eraseDups =
      Quantity.all.map fun q => (descriptors.of q).1.name := by
  have hnodup : (Quantity.all.map fun q => (descriptors.of q).1.name).Nodup := by
    refine List.Nodup.map_on (fun q _ q' _ he => (name_eq_iff h q q').mp he) ?_
    decide
  have hnames (reading : DeviceReading) : (descriptors.samples reading).map Sample.name =
      Quantity.all.map fun q => (descriptors.of q).1.name := by
    rw [samples_eq_map, List.map_map]
    rfl
  cases readings with
  | nil => exact absurd rfl hr
  | cons first rest =>
    have hrest : ∀ name ∈ (rest.flatMap descriptors.samples).map Sample.name,
        name ∈ Quantity.all.map fun q => (descriptors.of q).1.name := by
      rw [List.map_flatMap]
      intro name hm
      obtain ⟨reading, -, hm⟩ := List.mem_flatMap.mp hm
      exact hnames reading ▸ hm
    rw [List.flatMap_cons, List.map_append, hnames, eraseDups_append_of_subset hrest,
      eraseDups_of_nodup hnodup]

/-- The family of a quantity collects the samples of its name. -/
theorem collects_family {readings : List DeviceReading} (hr : readings ≠ []) (q : Quantity) :
    (descriptors.family readings q).Collects (readings.flatMap descriptors.samples) := by
  have hfilter : ((readings.flatMap descriptors.samples).filter fun s =>
      s.name = (descriptors.family readings q).name) =
      readings.map fun reading => descriptors.sample reading q :=
    filter_flatMap_samples h readings q
  cases readings with
  | nil => exact absurd rfl hr
  | cons first rest =>
    refine ⟨?_, List.cons_ne_nil _ _, ⟨descriptors.sample first q, ?_, rfl⟩, rfl⟩
    · rw [hfilter, List.map_map]
      rfl
    · rw [← List.head?_filter, hfilter]
      rfl

/-- The samples of some readings make one family for each quantity. -/
theorem group_flatMap_samples {readings : List DeviceReading} (hr : readings ≠ []) :
    Family.group (readings.flatMap descriptors.samples) =
      Quantity.all.map (descriptors.family readings) := by
  apply Family.group_eq_of_collects
  · rw [eraseDups_names h hr, List.map_map]
    rfl
  · intro f hf
    obtain ⟨q, -, rfl⟩ := List.mem_map.mp hf
    exact collects_family h hr q

omit h in
/-- A sample is written in the line of its quantity. -/
theorem metricLine_sample (reading : DeviceReading) (q : Quantity) :
    Exposition.metricLine (descriptors.of q).1.name
      (.ofMetric (descriptors.sample reading q).metric) = descriptors.line reading q := by
  have hline : Exposition.metricLine (descriptors.of q).1.name
      (.ofMetric (descriptors.sample reading q).metric) = (descriptors.of q).1.name ++
        Exposition.labelText (descriptors.sample reading q).metric.labels ++ " " ++
        q.text reading ++ "" ++ "\n" := rfl
  have hlabels : (descriptors.sample reading q).metric.labels =
      [("gpu_index", toString reading.index), ("gpu_name", reading.name)] :=
    Sample.labels_metric_ofLabelled (descriptors.of q) (q.value reading)
      [toString reading.index, reading.name] rfl
  have hopen : "\x7bgpu_index=\"" = "\x7b" ++ "gpu_index" ++ "=\"" := rfl
  have hbetween : "\",gpu_name=\"" = "\"," ++ "gpu_name" ++ "=\"" := rfl
  have hclose : "\"\x7d " = "\"\x7d" ++ " " := rfl
  rw [hline, hlabels, Exposition.labelText_pair, Exposition.escapeLabel_toString, line, hopen,
    hbetween, hclose]
  simp only [String.append_assoc, String.append_empty]

/-- The family of a quantity is written in its lines. -/
theorem textOf_family (readings : List DeviceReading) (q : Quantity) :
    Exposition.textOf (descriptors.family readings q) = descriptors.linesOf readings q := by
  have hhelp : q.help ≠ "" := by cases q <;> decide
  have hescape : Exposition.escapeHelp q.help = q.help := by
    cases q <;> rfl
  have hlines : ((descriptors.family readings q).metrics.map Exposition.MetricMessage.ofMetric).map
      (Exposition.metricLine (descriptors.of q).1.name) =
      readings.map fun reading => descriptors.line reading q := by
    simp only [family, List.map_map]
    exact List.map_congr_left fun reading _ => metricLine_sample reading q
  have hgauge : " gauge\n" = " " ++ "gauge" ++ "\n" := rfl
  have htext : Exposition.textOf (descriptors.family readings q) =
      Exposition.helpLine (descriptors.of q).1.name (descriptors.of q).1.help ++ "# TYPE " ++
        (descriptors.of q).1.name ++ " " ++ "gauge" ++ "\n" ++
        String.join (((descriptors.family readings q).metrics.map .ofMetric).map
          (Exposition.metricLine (descriptors.of q).1.name)) := rfl
  rw [htext, hlines, help_eq h, Exposition.helpLine, if_neg hhelp, hescape]
  unfold linesOf
  rw [hgauge]
  simp only [String.append_assoc]

/-- The page of some readings has the lines of all quantities. -/
theorem writeSamples_flatMap_samples {readings : List DeviceReading} (hr : readings ≠ []) :
    Exposition.writeSamples (readings.flatMap descriptors.samples) =
      .ok (String.join (Quantity.all.map (descriptors.linesOf readings))) := by
  have hnamed : ∀ f ∈ Family.group (readings.flatMap descriptors.samples),
      f.name ≠ "" ∧ f.metrics ≠ [] := by
    intro f hf
    have hw := Family.wellFormed_of_mem_group _ f hf
    exact ⟨hw.name_ne_empty, hw.metrics_nonempty⟩
  have htexts : Quantity.all.map (Exposition.textOf ∘ descriptors.family readings) =
      Quantity.all.map (descriptors.linesOf readings) :=
    List.map_congr_left fun q _ => textOf_family h readings q
  rw [Exposition.writeSamples, Exposition.writeFamilies_of_named hnamed,
    group_flatMap_samples h hr, List.map_map, htexts]

end GpuDescriptors

namespace GpuCollector

variable {L : Type}

/-- What is read of a device, if it gives all its readings. -/
def reading? (index : ℕ) : Except QueryError Device → Option DeviceReading
  | .error _ => none
  | .ok device =>
    match device.utilization, device.temperature, device.memory with
    | .ok utilization, .ok temperature, .ok memory =>
      some ⟨index, nameOf device, utilization, temperature, memory⟩
    | _, _, _ => none

/-- The samples of a device are those of what is read of it. -/
theorem block_eq_flatMap (collector : GpuCollector L) (index : ℕ)
    (device : Except QueryError Device) :
    collector.block index device =
      (reading? index device).toList.flatMap collector.descriptors.samples := by
  cases device with
  | error error => rfl
  | ok device =>
    obtain ⟨name, utilization, temperature, memory⟩ := device
    cases utilization <;> cases temperature <;> cases memory <;> rfl

variable [DeviceLibrary L]

/-- What an update reads. -/
def readings (collector : GpuCollector L) : List DeviceReading :=
  match (DeviceLibrary.enumerate collector.library).1 with
  | .error _ => []
  | .ok count => (List.range count).filterMap fun i =>
      reading? i (DeviceLibrary.device collector.counted.library i)

/-- An update of which nothing is refused gives the samples of what it reads. -/
theorem samples_update (collector : GpuCollector L) :
    Step.samples ((Collector.update collector).trace Collected.empty) =
      collector.readings.flatMap collector.descriptors.samples := by
  rw [trace_update_empty, updateCourse, readings]
  cases (DeviceLibrary.enumerate collector.library).1 with
  | error error => rfl
  | ok count =>
    dsimp only
    rw [samples_surveyCourse, ← List.range_eq_range', List.filterMap_eq_flatMap_toList,
      List.flatMap_assoc]
    exact List.flatMap_congr fun i _ => block_eq_flatMap collector.counted i _

end GpuCollector

namespace GpuDescriptors

open Binary64

/-- The numbers that the samples of a reading hold. -/
theorem map_toRat?_samples (descriptors : GpuDescriptors) (reading : DeviceReading) :
    (descriptors.samples reading).map (fun s => s.value.toRat?) =
      [some (reading.utilization.toNat : ℚ), some (reading.temperature.toNat : ℚ),
        some (rounded reading.memory.total.toNat : ℚ), some (rounded reading.memory.used.toNat : ℚ),
        some (rounded reading.memory.free.toNat : ℚ), some 1] := by
  have hvalue (q : Quantity) :
      (descriptors.sample reading q).value.toRat? = some (rounded (q.figure reading) : ℚ) := by
    have hofNat : (descriptors.sample reading q).value = .ofNat (q.figure reading) :=
      q.value_eq_ofNat reading
    rw [hofNat, toRat?_ofNat (q.figure_lt reading)]
  have hpercent {q : Quantity} (hq : q = .utilization ∨ q = .temperature) :
      rounded (q.figure reading) = q.figure reading :=
    rounded_of_le ((Quantity.figure_lt_of_percent reading hq).le.trans (by decide))
  have hone : rounded 1 = 1 := rounded_of_le (by decide)
  rw [samples_eq_map, List.map_map]
  simp only [Quantity.all, List.map_cons, List.map_nil, Function.comp_apply, hvalue,
    hpercent (.inl rfl), hpercent (.inr rfl)]
  simp only [Quantity.figure, hone, Nat.cast_one]

/-- Samples hold percentages and temperatures exactly and bytes rounded to nearest; their page
tells up to fifty-three bits digit by digit. -/
theorem figures_reach_page {L : Type} [DeviceLibrary L] {metricNamespace : String}
    {descriptors : GpuDescriptors} (h : create metricNamespace = .ok descriptors) :
    (∀ reading : DeviceReading,
      (descriptors.samples reading).map Sample.descriptor = descriptors.toList ∧
      (descriptors.samples reading).map (fun s => s.value.toRat?) =
        [some (reading.utilization.toNat : ℚ), some (reading.temperature.toNat : ℚ),
          some (rounded reading.memory.total.toNat : ℚ),
          some (rounded reading.memory.used.toNat : ℚ),
          some (rounded reading.memory.free.toNat : ℚ), some 1]) ∧
    (∀ n, RoundsTo n (rounded n)) ∧ Monotone rounded ∧ (∀ n ≤ 2 ^ 53, rounded n = n) ∧
    (∀ collector : GpuCollector L, collector.descriptors = descriptors →
      Step.samples ((Collector.update collector).trace Collected.empty) =
        collector.readings.flatMap descriptors.samples) ∧
    (∀ readings : List DeviceReading, readings ≠ [] →
      Exposition.writeSamples (readings.flatMap descriptors.samples) =
        .ok (String.join (Quantity.all.map (descriptors.linesOf readings)))) ∧
    ∀ (reading : DeviceReading) (q : Quantity),
      q = .utilization ∨ q = .temperature ∨ q.figure reading ≤ 2 ^ 53 →
      q.text reading = toString (q.figure reading) ∧
        ∀ c ∈ (q.text reading).toList, c.isDigit = true := by
  refine ⟨fun reading => ⟨rfl, map_toRat?_samples descriptors reading⟩, roundsTo_rounded,
    rounded_mono, fun n => rounded_of_le, ?_, fun readings => writeSamples_flatMap_samples h, ?_⟩
  · rintro collector rfl
    exact collector.samples_update
  · intro reading q hq
    have hle : q.figure reading ≤ 2 ^ 53 := by
      rcases hq with hq | hq | hle
      · exact (Quantity.figure_lt_of_percent reading (.inl hq)).le.trans (by decide)
      · exact (Quantity.figure_lt_of_percent reading (.inr hq)).le.trans (by decide)
      · exact hle
    have htext := Quantity.text_of_le reading hle
    refine ⟨htext, fun c hc => ?_⟩
    rw [htext, Nat.toString_eq_ofList_toDigits, String.toList_ofList] at hc
    exact Nat.isDigit_of_mem_toDigits (by decide) (by decide) hc

/-- A reading at the limits: all percent and bytes, of which `2 ^ 53` are free and one more is
used. -/
def limitReading : DeviceReading :=
  ⟨0, "A", 4294967295, 0, ⟨18446744073709551615, 9007199254740993, 9007199254740992⟩⟩

/-- All bytes are rounded up to a power of two, and the tie goes down to the even number. -/
theorem figures_reach_page_limits :
    ∃ descriptors, create defaultNamespace = .ok descriptors ∧
      (descriptors.samples limitReading).map (fun s => s.value.toRat?) =
        [some 4294967295, some 0, some 18446744073709551616, some 9007199254740992,
          some 9007199254740992, some 1] ∧
      Quantity.text limitReading .utilization = "4294967295" ∧
      Quantity.text limitReading .memoryFree = "9007199254740992" := by
  obtain ⟨descriptors, h⟩ := exists_create_of_usable
    (show UsableNamespace defaultNamespace from Or.inr (by decide))
  obtain ⟨hsamples, -, -, -, -, -, htext⟩ := @figures_reach_page Frame _ _ _ h
  refine ⟨descriptors, h, ?_, ?_, ?_⟩
  · have htotal : rounded limitReading.memory.total.toNat = 18446744073709551616 := by
      decide +kernel
    have hused : rounded limitReading.memory.used.toNat = 9007199254740992 := by decide +kernel
    have hfree : rounded limitReading.memory.free.toNat = 9007199254740992 := by decide +kernel
    rw [(hsamples limitReading).2, htotal, hused, hfree]
    rfl
  · exact (htext limitReading .utilization (.inl rfl)).1
  · exact (htext limitReading .memoryFree (.inr (.inr (by decide)))).1

end GpuDescriptors

end GpuTelemetry
