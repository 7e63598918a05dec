import GpuTelemetry.Proofs.Metric.Wording
import Mathlib.Data.List.Nodup

/-!
# Namespaces

Whether a namespace can be used is decided by the full names that it makes, not by itself. The
outcome can be read off the namespace all the same: its characters are ASCII letters, digits,
underscores and colons, and it does not begin with a digit. No two built-in metrics have one full
name, in whatever namespaces they are.
-/

namespace GpuTelemetry

/-- An ASCII digit. -/
def IsPlainDigit (c : Char) : Prop := '0' ≤ c ∧ c ≤ '9'

/-- An ASCII letter or digit, an underscore or a colon. -/
def IsPlainChar (c : Char) : Prop :=
  ('a' ≤ c ∧ c ≤ 'z') ∨ ('A' ≤ c ∧ c ≤ 'Z') ∨ IsPlainDigit c ∨ c = '_' ∨ c = ':'

/-- A namespace of plain characters that does not begin with a digit; it may be empty. -/
structure IsPlain (metricNamespace : String) : Prop where
  /-- Every character is plain. -/
  chars : ∀ c ∈ metricNamespace.toList, IsPlainChar c
  /-- The first character, if there is one, is no digit. -/
  first : ∀ c ∈ metricNamespace.toList.head?, ¬ IsPlainDigit c

private theorem isDigit_iff (c : Char) : c.isDigit = true ↔ IsPlainDigit c := by
  have hdigit : c.isDigit = (decide ('0' ≤ c) && decide (c ≤ '9')) := rfl
  rw [hdigit, Bool.and_eq_true, decide_eq_true_iff, decide_eq_true_iff]
  exact Iff.rfl

private theorem isAlpha_iff (c : Char) :
    c.isAlpha = true ↔ ('a' ≤ c ∧ c ≤ 'z') ∨ ('A' ≤ c ∧ c ≤ 'Z') := by
  have hupper : c.isUpper = decide ('A' ≤ c ∧ c ≤ 'Z') := rfl
  have hlower : c.isLower = (decide ('a' ≤ c) && decide (c ≤ 'z')) := rfl
  have halpha : c.isAlpha = (c.isUpper || c.isLower) := rfl
  rw [halpha, hupper, hlower, Bool.or_eq_true, Bool.and_eq_true, decide_eq_true_iff,
    decide_eq_true_iff, decide_eq_true_iff]
  exact Or.comm

/-- Metric names begin with letters, underscores and colons. -/
theorem isNameStart_iff (c : Char) :
    isNameStart c = true ↔
      (('a' ≤ c ∧ c ≤ 'z') ∨ ('A' ≤ c ∧ c ≤ 'Z')) ∨ c = '_' ∨ c = ':' := by
  simp only [isNameStart, isLabelStart, Bool.or_eq_true, beq_iff_eq, isAlpha_iff, or_assoc]

/-- The characters of metric names are the plain ones. -/
theorem isNameChar_iff (c : Char) : isNameChar c = true ↔ IsPlainChar c := by
  rw [isNameChar, Bool.or_eq_true, isNameStart_iff, isDigit_iff, IsPlainChar]
  tauto

/-- A digit begins no metric name. -/
theorem isNameStart_eq_false_of_isPlainDigit {c : Char} (h : IsPlainDigit c) :
    isNameStart c = false := by
  rw [Bool.eq_false_iff, ne_eq, isNameStart_iff]
  obtain ⟨hlow, hhigh⟩ := h
  rintro ((⟨ha, -⟩ | ⟨ha, -⟩) | rfl | rfl)
  · exact absurd (Char.le_trans ha hhigh) (by decide)
  · exact absurd (Char.le_trans ha hhigh) (by decide)
  · exact absurd hhigh (by decide)
  · exact absurd hhigh (by decide)

/-- Metric names begin with the plain characters that are no digits. -/
theorem isNameStart_iff_isPlainChar (c : Char) :
    isNameStart c = true ↔ IsPlainChar c ∧ ¬ IsPlainDigit c := by
  rw [← isNameChar_iff, isNameChar, Bool.or_eq_true, isDigit_iff]
  constructor
  · intro hs
    refine ⟨Or.inl hs, fun hd => ?_⟩
    rw [isNameStart_eq_false_of_isPlainDigit hd] at hs
    cases hs
  · rintro ⟨hs | hd, hn⟩
    · exact hs
    · exact absurd hd hn

/-- The namespaces that can be used are the plain ones. -/
theorem usableNamespace_iff (metricNamespace : String) :
    UsableNamespace metricNamespace ↔ IsPlain metricNamespace := by
  have hempty : metricNamespace = "" ↔ metricNamespace.toList = [] :=
    String.toList_eq_nil_iff.symm
  rw [UsableNamespace, hempty, isMetricName]
  cases hchars : metricNamespace.toList with
  | nil =>
    refine ⟨fun _ => ⟨?_, ?_⟩, fun _ => Or.inl rfl⟩
    · rw [hchars]
      exact fun _ hc => absurd hc List.not_mem_nil
    · rw [hchars]
      exact fun _ hc => absurd hc (Option.not_mem_none _)
  | cons c rest =>
    have hrest : (rest.all fun d => isNameStart d || d.isDigit) = true ↔
        ∀ d ∈ rest, IsPlainChar d := by
      rw [List.all_eq_true]
      exact forall₂_congr fun d _ => isNameChar_iff d
    rw [isWord, Bool.and_eq_true, hrest, isNameStart_iff_isPlainChar]
    constructor
    · rintro (hnil | ⟨⟨hc, hfirst⟩, hall⟩)
      · cases hnil
      · refine ⟨?_, ?_⟩
        · rw [hchars]
          exact List.forall_mem_cons.mpr ⟨hc, hall⟩
        · rw [hchars]
          rintro d ⟨⟩
          exact hfirst
    · rintro ⟨hall, hfirst⟩
      rw [hchars] at hall hfirst
      obtain ⟨hc, hrestPlain⟩ := List.forall_mem_cons.mp hall
      exact Or.inr ⟨⟨hc, hfirst c rfl⟩, hrestPlain⟩

/-- What stands in front of a name tells the namespace. -/
theorem namespacePrefix_injective : Function.Injective namespacePrefix := by
  intro a b h
  unfold namespacePrefix at h
  by_cases ha : a = ""
  · by_cases hb : b = ""
    · rw [ha, hb]
    · rw [if_pos ha, if_neg hb] at h
      exact absurd (String.append_eq_empty_iff.mp h.symm).2 (by decide)
  · by_cases hb : b = ""
    · rw [if_neg ha, if_pos hb] at h
      exact absurd (String.append_eq_empty_iff.mp h).2 (by decide)
    · rw [if_neg ha, if_neg hb] at h
      exact (String.append_left_inj "_").mp h

namespace Wording

/-- The full name that words make in a namespace. -/
def fullName (metricNamespace : String) (w : Wording) : String :=
  namespacePrefix metricNamespace ++ w.stem

/-- A full name tells the namespace and the words. -/
theorem eq_of_fullName_eq {metricNamespace metricNamespace' : String} {w w' : Wording}
    (hw : w ∈ all) (hw' : w' ∈ all)
    (h : w.fullName metricNamespace = w'.fullName metricNamespace') :
    metricNamespace = metricNamespace' ∧ w = w' := by
  obtain ⟨he, hfront⟩ := eq_of_append_stem_eq hw hw' h
  exact ⟨namespacePrefix_injective hfront, he⟩

/-- A descriptor that the words make has their full name. -/
theorem Sound.name_of_describe {w : Wording} (h : w.Sound) {metricNamespace : String}
    {d : LabelledBy w.labels} (hd : w.describe metricNamespace = .ok d) :
    d.1.name = w.fullName metricNamespace := by
  rw [(LabelledBy.of_create_eq_ok hd).1, joinName_eq metricNamespace h.subsystem_ne h.name_ne]
  rfl

/-- In one namespace different words make different names. -/
theorem nodup_fullName {words : List Wording} (hsub : ∀ w ∈ words, w ∈ all)
    (hn : words.Nodup) (metricNamespace : String) :
    (words.map (fullName metricNamespace)).Nodup := by
  refine hn.map_on fun w hw w' hw' he => ?_
  exact (eq_of_fullName_eq (hsub w hw) (hsub w' hw') he).2

end Wording

section Gpu

variable {metricNamespace : String}

/-- In a namespace that can be used there are all six descriptors. -/
theorem GpuDescriptors.exists_create_of_usable (h : UsableNamespace metricNamespace) :
    ∃ descriptors, create metricNamespace = .ok descriptors := by
  have hall (q : Quantity) : ∃ d, q.describe metricNamespace = .ok d :=
    (Wording.sound_of_mem (Wording.ofQuantity_mem q)).describe_of_usable h
  obtain ⟨utilization, hu⟩ := hall .utilization
  obtain ⟨temperature, ht⟩ := hall .temperature
  obtain ⟨total, hmt⟩ := hall .memoryTotal
  obtain ⟨used, hmu⟩ := hall .memoryUsed
  obtain ⟨free, hmf⟩ := hall .memoryFree
  obtain ⟨info, hi⟩ := hall .info
  unfold create
  rw [hu, ht, hmt, hmu, hmf, hi]
  exact ⟨_, rfl⟩

/-- In any other namespace the first descriptor is reported. -/
theorem GpuDescriptors.create_of_not_usable (h : ¬ UsableNamespace metricNamespace) :
    create metricNamespace = .error (.invalidDescriptor (Descriptor.Fault.badName
      (joinName metricNamespace Quantity.subsystem Quantity.utilization.metricName)).message) := by
  have hfirst : Quantity.utilization.describe metricNamespace = _ :=
    (Wording.sound_of_mem (Wording.ofQuantity_mem .utilization)).describe_of_not_usable h
  unfold create
  rw [hfirst]
  rfl

/-- The descriptor of a quantity has the full name of its words. -/
theorem GpuDescriptors.name_eq_fullName {descriptors : GpuDescriptors}
    (h : create metricNamespace = .ok descriptors) (q : Quantity) :
    (descriptors.of q).1.name = (Wording.ofQuantity q).fullName metricNamespace :=
  (Wording.sound_of_mem (Wording.ofQuantity_mem q)).name_of_describe (describe_of_create h q)

variable {L : Type} (library : L) (span : Option String)

/-- In a namespace that can be used there is a collector. -/
theorem GpuCollector.exists_create_of_usable (h : UsableNamespace metricNamespace) :
    ∃ collector, create library metricNamespace span = .ok collector := by
  obtain ⟨descriptors, hd⟩ := GpuDescriptors.exists_create_of_usable h
  rw [create, hd]
  exact ⟨_, rfl⟩

/-- In any other namespace there is none. -/
theorem GpuCollector.create_of_not_usable (h : ¬ UsableNamespace metricNamespace) :
    create library metricNamespace span = .error (.invalidDescriptor (Descriptor.Fault.badName
      (joinName metricNamespace Quantity.subsystem Quantity.utilization.metricName)).message) := by
  rw [create, GpuDescriptors.create_of_not_usable h]
  rfl

/-- The metrics of a collector have the full names of the quantities. -/
theorem GpuCollector.metricNames_eq_fullNames {library : L} {span : Option String}
    {collector : GpuCollector L} (h : create library metricNamespace span = .ok collector) :
    collector.metricNames =
      (Quantity.all.map Wording.ofQuantity).map (Wording.fullName metricNamespace) := by
  have hd := (of_create_eq_ok h).2.2
  simp only [metricNames, GpuDescriptors.toList, List.map_map]
  exact List.map_congr_left fun q _ => GpuDescriptors.name_eq_fullName hd q

end Gpu

end GpuTelemetry
