import GpuTelemetry.Proofs.Gpu.Naming
import Mathlib.Data.List.Nodup

/-!
# The labels of a sample

A label value can be had in two ways: through the position of its name, and as one of the pairs that
are served. The first looks for a name and then goes to a place among the values; the second puts
names and values side by side. Both agree, because a sample has as many values as its descriptor
has labels and no label repeats: no place is out of range, no pair is lost, and each name belongs to
one pair only.
-/

namespace GpuTelemetry

/-- Among names that differ, a name is found exactly where it stands. -/
theorem findIdx?_eq_some_iff_of_nodup {names : List String} (h : names.Nodup) (key : String)
    (i : Nat) : names.findIdx? (· == key) = some i ↔ names[i]? = some key := by
  rw [List.findIdx?_eq_some_iff_getElem, List.getElem?_eq_some_iff]
  constructor
  · rintro ⟨hi, hk, -⟩
    exact ⟨hi, beq_iff_eq.mp hk⟩
  · rintro ⟨hi, hk⟩
    refine ⟨hi, beq_iff_eq.mpr hk, fun j hj he => ?_⟩
    have hsame : names[j] = names[i] := (beq_iff_eq.mp he).trans hk.symm
    have hij := h.getElem_inj_iff.mp hsame
    omega

namespace Sample

section Pairs

variable (s : Sample)

/-- There is one pair for each label, in the order of the descriptor. -/
theorem map_fst_labels_metric : s.metric.labels.map Prod.fst = s.descriptor.labels :=
  List.map_fst_zip (Nat.le_of_eq s.length_labelValues.symm)

/-- Each pair has its own value, and no value is left over. -/
theorem map_snd_labels_metric : s.metric.labels.map Prod.snd = s.labelValues :=
  List.map_snd_zip (Nat.le_of_eq s.length_labelValues)

/-- The place of a label is the place of a value. -/
theorem lt_length_of_findIdx? {key : String} {i : Nat}
    (h : s.descriptor.labels.findIdx? (· == key) = some i) : i < s.labelValues.length := by
  obtain ⟨hi, -, -⟩ := List.findIdx?_eq_some_iff_getElem.mp h
  rw [s.length_labelValues]
  exact hi

/-- Looking up a label by position finds the value of its pair. -/
theorem label?_eq_some_iff (key value : String) :
    s.label? key = some value ↔ (key, value) ∈ s.metric.labels := by
  have hplace (i : Nat) := findIdx?_eq_some_iff_of_nodup s.descriptor.labels_nodup key i
  rw [label?, metric, Option.bind_eq_some_iff, List.mem_iff_getElem?]
  constructor
  · rintro ⟨i, hi, hv⟩
    exact ⟨i, List.getElem?_zip_eq_some.mpr ⟨(hplace i).mp hi, hv⟩⟩
  · rintro ⟨i, hi⟩
    obtain ⟨hk, hv⟩ := List.getElem?_zip_eq_some.mp hi
    exact ⟨i, (hplace i).mpr hk, hv⟩

/-- Looking up a label fails only if the descriptor has no such label. -/
theorem label?_eq_none_iff (key : String) : s.label? key = none ↔ key ∉ s.descriptor.labels := by
  constructor
  · intro h hk
    rw [← s.map_fst_labels_metric] at hk
    obtain ⟨⟨_, value⟩, hp, rfl⟩ := List.mem_map.mp hk
    rw [(s.label?_eq_some_iff _ value).mpr hp] at h
    cases h
  · intro hk
    rw [Option.eq_none_iff_forall_ne_some]
    intro value h
    have hp := (s.label?_eq_some_iff key value).mp h
    exact hk (s.map_fst_labels_metric ▸ List.mem_map_of_mem hp)

end Pairs

section Create

variable {d : Descriptor} {value : Binary64} {labelValues : List String}

/-- A sample holds what it was built from. -/
theorem of_create_eq_ok {s : Sample} (h : create d value labelValues = .ok s) :
    s.descriptor = d ∧ s.value = value ∧ s.labelValues = labelValues := by
  unfold create at h
  split at h
  · cases h
    exact ⟨rfl, rfl, rfl⟩
  · cases h

/-- With a value for each label there is a sample. -/
theorem create_of_length_eq (h : labelValues.length = d.labels.length) :
    ∃ s, create d value labelValues = .ok s :=
  ⟨_, dif_pos h⟩

/-- With any other number of values both numbers are reported. -/
theorem create_of_length_ne (h : labelValues.length ≠ d.labels.length) :
    create d value labelValues =
      .error (.labelCardinality d.name d.labels.length labelValues.length) :=
  dif_neg h

end Create

/-- A descriptor takes as many label values as it has labels, and looking up a label by its
position agrees with the pairs served. -/
theorem lookup_agrees_of_create {metricNamespace subsystem name help : String}
    {labels : List String} {d : LabelledBy labels}
    (h : LabelledBy.create metricNamespace subsystem name help labels = .ok d) (value : Binary64)
    (labelValues : List String) :
    ((create d.1 value labelValues).isOk = true ↔ labelValues.length = labels.length) ∧
    (labelValues.length ≠ labels.length →
      create d.1 value labelValues = .error (.labelCardinality
        (joinName metricNamespace subsystem name) labels.length labelValues.length)) ∧
    ∀ s, create d.1 value labelValues = .ok s →
      s.metric.labels.length = labels.length ∧
      s.metric.labels.map Prod.fst = labels ∧
      s.metric.labels.map Prod.snd = labelValues ∧
      s.metric.value = value ∧
      (∀ key v, s.label? key = some v ↔ (key, v) ∈ s.metric.labels) ∧
      (∀ key, s.label? key = none ↔ key ∉ labels) ∧
      ∀ key i, labels.findIdx? (· == key) = some i → i < labelValues.length := by
  obtain ⟨hname, -⟩ := LabelledBy.of_create_eq_ok h
  obtain ⟨d, rfl⟩ := d
  refine ⟨?_, ?_, ?_⟩
  · constructor
    · intro hok
      by_contra hl
      rw [create_of_length_ne hl] at hok
      cases hok
    · intro hl
      obtain ⟨s, hs⟩ : ∃ s, create d value labelValues = .ok s := create_of_length_eq hl
      rw [hs]
      rfl
  · intro hl
    rw [create_of_length_ne hl, hname]
  · intro s hs
    obtain ⟨rfl, rfl, rfl⟩ := of_create_eq_ok hs
    have hkeys := s.map_fst_labels_metric
    have hlength : s.metric.labels.length = s.descriptor.labels.length := by
      rw [← hkeys, List.length_map]
    exact ⟨hlength, hkeys, s.map_snd_labels_metric, rfl, s.label?_eq_some_iff,
      s.label?_eq_none_iff, fun _ _ => s.lt_length_of_findIdx?⟩

/-- Two labels, of which one begins like the other; a third value is refused. -/
theorem lookup_agrees_cableLabels :
    ∃ d, LabelledBy.create "node" "gpu" "cable" "Which devices are joined." ["to", "tow"] = .ok d ∧
      create d.1 .one ["0", "1", "2"] = .error (.labelCardinality "node_gpu_cable" 2 3) ∧
      ∃ s, create d.1 .one ["0", "1"] = .ok s ∧ s.metric.labels = [("to", "0"), ("tow", "1")] ∧
        s.label? "tow" = some "1" ∧ s.label? "t" = none := by
  have hok : (LabelledBy.create "node" "gpu" "cable" "Which devices are joined."
      ["to", "tow"]).isOk = true := by decide +kernel
  cases hd : LabelledBy.create "node" "gpu" "cable" "Which devices are joined." ["to", "tow"] with
  | error failure => rw [hd] at hok; cases hok
  | ok d =>
    obtain ⟨-, hmore, -⟩ := lookup_agrees_of_create hd .one ["0", "1", "2"]
    obtain ⟨hiff, -, hserved⟩ := lookup_agrees_of_create hd .one ["0", "1"]
    cases hs : create d.1 .one ["0", "1"] with
    | error failure =>
      have hcreated := hiff.mpr rfl
      rw [hs] at hcreated
      cases hcreated
    | ok s =>
      obtain ⟨-, hkeys, hvalues, -, hsome, hnone, -⟩ := hserved s hs
      have hpairs : s.metric.labels = [("to", "0"), ("tow", "1")] := List.zip_of_prod hkeys hvalues
      refine ⟨d, rfl, hmore (by decide), s, hs, hpairs, ?_, (hnone "t").mpr (by decide)⟩
      rw [hsome, hpairs]
      exact List.mem_cons_of_mem _ List.mem_cons_self

end Sample

end GpuTelemetry
