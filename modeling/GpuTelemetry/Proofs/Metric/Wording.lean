import GpuTelemetry.Proofs.Gpu.Naming
import GpuTelemetry.Proofs.Metric.Grammar
import GpuTelemetry.Roster.Basic
import Mathlib.Data.List.Infix

/-!
# The words of the built-in metrics

Eight metrics are built in: six about devices and two about scrapes. Each puts its own words behind
the namespace, so that its full name ends in them. A namespace can be used with all eight or with
none of them. No words end in the words of another metric, so that a full name tells the words and
with them the help and the labels, whatever the namespaces are.
-/

namespace GpuTelemetry

/-- What a namespace puts in front of a metric name. -/
def namespacePrefix (metricNamespace : String) : String :=
  if metricNamespace = "" then "" else metricNamespace ++ "_"

/-- Behind the namespace come the subsystem and the name. -/
theorem joinName_eq (metricNamespace : String) {subsystem name : String} (hs : subsystem ≠ "")
    (hn : name ≠ "") :
    joinName metricNamespace subsystem name =
      namespacePrefix metricNamespace ++ (subsystem ++ "_" ++ name) := by
  rw [joinName, if_neg hn, namespacePrefix]
  by_cases hm : metricNamespace = ""
  · simp [hm, hs, hn]
  · simp [hm, hs, hn, String.append_assoc]

/-- A namespace that makes metric names. -/
def UsableNamespace (metricNamespace : String) : Prop :=
  metricNamespace = "" ∨ isMetricName metricNamespace = true

/-- Characters that may stand in a word keep a word one, and only such characters do. -/
theorem isWord_append {start : Char → Bool} {word : List Char} (h : word ≠ []) (more : List Char) :
    isWord start (word ++ more) =
      (isWord start word && more.all fun c => start c || c.isDigit) := by
  cases word with
  | nil => exact absurd rfl h
  | cons c rest => rw [List.cons_append, isWord, isWord, List.all_append, Bool.and_assoc]

/-- A namespace makes a metric name out of another one if it can be used at all. -/
theorem isMetricName_namespacePrefix_append {name : String} (h : isMetricName name = true)
    (metricNamespace : String) :
    isMetricName (namespacePrefix metricNamespace ++ name) = true ↔
      UsableNamespace metricNamespace := by
  unfold namespacePrefix UsableNamespace
  by_cases hm : metricNamespace = ""
  · simp [hm, h]
  · have hne : metricNamespace.toList ≠ [] := by
      intro he
      exact hm (String.toList_eq_nil_iff.mp he)
    have hname := List.all_eq_true.mpr fun c hc => of_mem_of_isWord h hc
    have hbar : isNameStart '_' = true := by decide
    rw [if_neg hm, isMetricName, String.toList_append, String.toList_append, List.append_assoc,
      isWord_append hne, List.all_append, hname, isMetricName]
    simp [hm, hbar]

/-- The words of a metric. -/
structure Wording where
  /-- The part of the name that comes right behind the namespace. -/
  subsystem : String
  /-- The last part of the name. -/
  name : String
  /-- The help. -/
  help : String
  /-- The labels. -/
  labels : List String
  deriving DecidableEq

namespace Wording

/-- The words of a quantity. -/
def ofQuantity (q : Quantity) : Wording :=
  ⟨Quantity.subsystem, q.metricName, q.help, Quantity.labels⟩

/-- The words of how long a collector took. -/
def duration : Wording :=
  ⟨"scrape", "collector_duration_seconds", "Duration of a collector scrape.", ["collector"]⟩

/-- The words of whether a collector succeeded. -/
def success : Wording :=
  ⟨"scrape", "collector_success", "Whether a collector succeeded.", ["collector"]⟩

/-- The words of the built-in metrics. -/
def all : List Wording := duration :: success :: Quantity.all.map ofQuantity

/-- The wording of durations is a built-in one. -/
theorem duration_mem : duration ∈ all := List.mem_cons_self

/-- The wording of success is a built-in one. -/
theorem success_mem : success ∈ all := List.mem_cons_of_mem _ List.mem_cons_self

/-- The wording of every quantity is a built-in one. -/
theorem ofQuantity_mem (q : Quantity) : ofQuantity q ∈ all := by
  cases q <;> decide

/-- The part of the full name that does not depend on the namespace. -/
def stem (w : Wording) : String := w.subsystem ++ "_" ++ w.name

/-- A descriptor in some words. -/
structure Describes (w : Wording) (d : Descriptor) : Prop where
  /-- The name ends in the words. -/
  name : ∃ metricNamespace, d.name = namespacePrefix metricNamespace ++ w.stem
  /-- The help is theirs. -/
  help : d.help = w.help
  /-- The labels are theirs. -/
  labels : d.labels = w.labels

/-- The descriptor that the words make in a namespace. -/
def describe (metricNamespace : String) (w : Wording) : Except Failure (LabelledBy w.labels) :=
  LabelledBy.create metricNamespace w.subsystem w.name w.help w.labels

/-- Words of which nothing but the namespace can keep a descriptor from being made. -/
structure Sound (w : Wording) : Prop where
  /-- The metric has a subsystem. -/
  subsystem_ne : w.subsystem ≠ ""
  /-- The metric has a name. -/
  name_ne : w.name ≠ ""
  /-- There is a help. -/
  help_ne : w.help ≠ ""
  /-- Without a namespace the words are a metric name. -/
  stem_valid : isMetricName w.stem = true
  /-- Nothing is wrong with the labels. -/
  labels_faultless : Descriptor.labelFault? [] w.labels = none

/-- Every built-in wording is sound. -/
theorem sound_of_mem {w : Wording} (h : w ∈ all) : w.Sound := by
  have hall : ∀ w ∈ all, w.subsystem ≠ "" ∧ w.name ≠ "" ∧ w.help ≠ "" ∧
      isMetricName w.stem = true ∧ Descriptor.labelFault? [] w.labels = none := by
    decide +kernel
  obtain ⟨hs, hn, hh, hv, hl⟩ := hall w h
  exact ⟨hs, hn, hh, hv, hl⟩

/-- The wording of durations is sound. -/
theorem sound_duration : duration.Sound := sound_of_mem duration_mem

/-- The wording of success is sound. -/
theorem sound_success : success.Sound := sound_of_mem success_mem

section Sound

variable {w : Wording} {metricNamespace : String}

/-- The full name follows the grammar just if the namespace can be used. -/
theorem Sound.isMetricName_iff (h : w.Sound) :
    isMetricName (joinName metricNamespace w.subsystem w.name) = true ↔
      UsableNamespace metricNamespace := by
  rw [joinName_eq metricNamespace h.subsystem_ne h.name_ne]
  exact isMetricName_namespacePrefix_append h.stem_valid metricNamespace

/-- In a namespace that can be used the words make a descriptor. -/
theorem Sound.describe_of_usable (h : w.Sound) (hn : UsableNamespace metricNamespace) :
    ∃ d, w.describe metricNamespace = .ok d := by
  have hname := h.isMetricName_iff.mpr hn
  unfold describe LabelledBy.create Descriptor.create
  simp only [dif_neg h.help_ne, dif_pos hname]
  split
  · rename_i fault hf
    rw [h.labels_faultless] at hf
    cases hf
  · exact ⟨_, rfl⟩

/-- In any other namespace the full name is at fault. -/
theorem Sound.describe_of_not_usable (h : w.Sound) (hn : ¬ UsableNamespace metricNamespace) :
    w.describe metricNamespace = .error (.invalidDescriptor
      (Descriptor.Fault.badName (joinName metricNamespace w.subsystem w.name)).message) := by
  have hname := mt h.isMetricName_iff.mp hn
  unfold describe LabelledBy.create Descriptor.create
  simp only [dif_neg h.help_ne, dif_neg hname]
  rfl

/-- A descriptor that the words make is in these words. -/
theorem Sound.describes (h : w.Sound) {d : LabelledBy w.labels}
    (hd : w.describe metricNamespace = .ok d) : w.Describes d.1 := by
  obtain ⟨hname, hhelp⟩ := LabelledBy.of_create_eq_ok hd
  rw [joinName_eq metricNamespace h.subsystem_ne h.name_ne] at hname
  exact ⟨⟨metricNamespace, hname⟩, hhelp, d.2⟩

end Sound

/-- No words end in the words of another metric. -/
theorem eq_of_stem_suffix {w w' : Wording} (hw : w ∈ all) (hw' : w' ∈ all)
    (h : w.stem.toList <:+ w'.stem.toList) : w = w' := by
  have hall : ∀ w ∈ all, ∀ w' ∈ all, w.stem.toList <:+ w'.stem.toList → w = w' := by
    decide +kernel
  exact hall w hw w' hw' h

/-- A full name tells the words and what stands in front of them. -/
theorem eq_of_append_stem_eq {w w' : Wording} (hw : w ∈ all) (hw' : w' ∈ all)
    {front front' : String} (h : front ++ w.stem = front' ++ w'.stem) :
    w = w' ∧ front = front' := by
  have hs : w.stem.toList <:+ (front ++ w.stem).toList := by
    rw [String.toList_append]
    exact List.suffix_append _ _
  have hs' : w'.stem.toList <:+ (front ++ w.stem).toList := by
    rw [h, String.toList_append]
    exact List.suffix_append _ _
  have he : w = w' := by
    rcases List.suffix_or_suffix_of_suffix hs hs' with hsuffix | hsuffix
    · exact eq_of_stem_suffix hw hw' hsuffix
    · exact (eq_of_stem_suffix hw' hw hsuffix).symm
  subst he
  exact ⟨rfl, (String.append_left_inj w.stem).mp h⟩

/-- A full name tells the words, whatever the namespace. -/
theorem eq_of_describes {w w' : Wording} (hw : w ∈ all) (hw' : w' ∈ all) {d d' : Descriptor}
    (hd : w.Describes d) (hd' : w'.Describes d') (he : d.name = d'.name) : w = w' := by
  obtain ⟨metricNamespace, hn⟩ := hd.name
  obtain ⟨metricNamespace', hn'⟩ := hd'.name
  exact (eq_of_append_stem_eq hw hw' (hn.symm.trans (he.trans hn'))).1

end Wording

/-- A descriptor of a built-in metric. -/
def Descriptor.BuiltIn (d : Descriptor) : Prop := ∃ w ∈ Wording.all, w.Describes d

/-- Built-in metrics of one name have one help and the same labels. -/
theorem Descriptor.BuiltIn.agree {d d' : Descriptor} (h : d.BuiltIn) (h' : d'.BuiltIn)
    (he : d.name = d'.name) : d.help = d'.help ∧ d.labels = d'.labels := by
  obtain ⟨w, hw, hd⟩ := h
  obtain ⟨w', hw', hd'⟩ := h'
  obtain rfl := Wording.eq_of_describes hw hw' hd hd' he
  exact ⟨hd.help.trans hd'.help.symm, hd.labels.trans hd'.labels.symm⟩

/-- The descriptor of a quantity is that of a built-in metric. -/
theorem GpuDescriptors.builtIn_of_create {metricNamespace : String} {descriptors : GpuDescriptors}
    (h : GpuDescriptors.create metricNamespace = .ok descriptors) (q : Quantity) :
    (descriptors.of q).1.BuiltIn :=
  have hmem := Wording.ofQuantity_mem q
  ⟨.ofQuantity q, hmem, (Wording.sound_of_mem hmem).describes (describe_of_create h q)⟩

end GpuTelemetry
