import GpuTelemetry.Proofs.Metric.Grouping

/-!
# What the grammar gives a family

Names consist of a few characters, none of which has a meaning of its own on a page. Grouping
keeps what a descriptor guarantees: every family has a valid name, a help and at least one metric,
and all its labels are valid.
-/

namespace GpuTelemetry

/-- A character that may stand in a metric name. -/
def isNameChar (c : Char) : Bool := isNameStart c || c.isDigit

/-- A character that may stand in a label name may stand in a metric name. -/
theorem isNameChar_of_isLabelStart {c : Char} (h : isLabelStart c = true) :
    isNameChar c = true := by
  rw [isNameChar, isNameStart, h]
  rfl

/-- A word has a first character. -/
theorem exists_cons_of_isWord {start : Char → Bool} {word : List Char}
    (h : isWord start word = true) : ∃ c rest, word = c :: rest ∧ start c = true := by
  cases word with
  | nil => cases h
  | cons c rest =>
    rw [isWord, Bool.and_eq_true] at h
    exact ⟨c, rest, rfl, h.1⟩

/-- Every character of a word may begin one or is a digit. -/
theorem of_mem_of_isWord {start : Char → Bool} {word : List Char} (h : isWord start word = true)
    {c : Char} (hc : c ∈ word) : (start c || c.isDigit) = true := by
  cases word with
  | nil => cases h
  | cons d rest =>
    rw [isWord, Bool.and_eq_true, List.all_eq_true] at h
    rcases List.mem_cons.mp hc with rfl | hc
    · rw [h.1, Bool.true_or]
    · exact h.2 c hc

/-- Every character of a metric name may stand in one. -/
theorem isNameChar_of_mem {name : String} (h : isMetricName name = true) {c : Char}
    (hc : c ∈ name.toList) : isNameChar c = true :=
  of_mem_of_isWord h hc

/-- Every character of a label name may stand in a metric name. -/
theorem isNameChar_of_mem_label {name : String} (h : isLabelName name = true) {c : Char}
    (hc : c ∈ name.toList) : isNameChar c = true := by
  have hs := of_mem_of_isWord h hc
  rcases Bool.or_eq_true _ _ ▸ hs with hs | hd
  · exact isNameChar_of_isLabelStart hs
  · rw [isNameChar, hd, Bool.or_true]

/-- A character with a meaning of its own does not stand in a word. -/
theorem not_mem_of_isNameChar_eq_false {word : List Char} (h : ∀ c ∈ word, isNameChar c = true)
    {c : Char} (hc : isNameChar c = false) : c ∉ word := by
  intro hm
  rw [h c hm] at hc
  cases hc

/-- A family as descriptors guarantee it. -/
structure Family.WellFormed (f : Family) : Prop where
  /-- The name follows the grammar. -/
  name_valid : isMetricName f.name = true
  /-- There is a help. -/
  help_nonempty : f.help ≠ ""
  /-- There is a metric. -/
  metrics_nonempty : f.metrics ≠ []
  /-- Every label follows the grammar. -/
  labels_valid : ∀ m ∈ f.metrics, ∀ label ∈ m.labels, isLabelName label.1 = true

namespace Family

/-- A name that follows the grammar is not empty. -/
theorem WellFormed.name_ne_empty {f : Family} (h : f.WellFormed) : f.name ≠ "" := by
  intro he
  have hv := h.name_valid
  rw [he] at hv
  cases hv

/-- The family of a single sample is well-formed. -/
theorem wellFormed_ofSample (s : Sample) : (ofSample s).WellFormed := by
  refine ⟨s.descriptor.name_valid, s.descriptor.help_nonempty, List.cons_ne_nil _ _, ?_⟩
  intro m hm label hl
  rw [List.mem_singleton.mp hm] at hl
  exact s.descriptor.labels_valid label.1 (List.of_mem_zip hl).1

/-- Metrics of one name are well-formed together if they are well-formed apart. -/
theorem WellFormed.append {head f : Family} (hh : head.WellFormed) (hf : f.WellFormed) :
    ({ head with metrics := head.metrics ++ f.metrics } : Family).WellFormed := by
  refine ⟨hh.name_valid, hh.help_nonempty, ?_, ?_⟩
  · exact List.append_ne_nil_of_left_ne_nil hh.metrics_nonempty _
  · intro m hm
    rcases List.mem_append.mp hm with hm | hm
    · exact hh.labels_valid m hm
    · exact hf.labels_valid m hm

/-- Every family of samples is well-formed. -/
theorem wellFormed_of_mem_group (samples : List Sample) :
    ∀ f ∈ group samples, f.WellFormed :=
  forall_mem_group (fun s _ => wellFormed_ofSample s) fun _ _ hh hf _ => hh.append hf

end Family

end GpuTelemetry
