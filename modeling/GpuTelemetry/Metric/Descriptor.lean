import GpuTelemetry.Text.Digest
import GpuTelemetry.Text.Quoted

/-!
# Metric descriptors

A descriptor names a metric, explains it and lists its label names. It exists only if the name
and the labels follow the exposition grammar, the help is not empty and no label repeats; the
constructor says which of these fails first. Two digests identify it: one of its name alone, one
of its help and labels.
-/

namespace GpuTelemetry

/-- A character that may begin a label name. -/
def isLabelStart (c : Char) : Bool := c.isAlpha || c == '_'

/-- A character that may begin a metric name. -/
def isNameStart (c : Char) : Bool := isLabelStart c || c == ':'

/-- Whether a character that satisfies `start` comes first and only such characters and digits
follow. -/
def isWord (start : Char → Bool) : List Char → Bool
  | [] => false
  | c :: rest => start c && rest.all fun d => start d || d.isDigit

/-- Whether a text is a metric name; only ASCII letters count. -/
def isMetricName (name : String) : Bool := isWord isNameStart name.toList

/-- Whether a text is a label name; only ASCII letters count. -/
def isLabelName (name : String) : Bool := isWord isLabelStart name.toList

/-- The full name of a metric: the parts that are not empty, joined by underscores, or nothing if
the metric itself has no name. -/
def joinName (metricNamespace subsystem name : String) : String :=
  if name = "" then ""
  else "_".intercalate ([metricNamespace, subsystem, name].filter (· ≠ ""))

/-- A named metric with its help and its label names. -/
structure Descriptor where
  /-- The full name. -/
  name : String
  /-- What the metric means. -/
  help : String
  /-- The names of the labels whose values each sample gives, in order. -/
  labels : List String
  /-- The name follows the grammar. -/
  name_valid : isMetricName name = true
  /-- There is a help. -/
  help_nonempty : help ≠ ""
  /-- Every label follows the grammar. -/
  labels_valid : ∀ label ∈ labels, isLabelName label = true
  /-- No label occurs twice. -/
  labels_nodup : labels.Nodup
  deriving DecidableEq, Repr

namespace Descriptor

/-- Why there is no such descriptor. -/
inductive Fault where
  /-- The help is empty. -/
  | emptyHelp
  /-- The full name breaks the grammar. -/
  | badName (name : String)
  /-- A label breaks the grammar. -/
  | badLabel (label : String)
  /-- A label occurs twice. -/
  | repeatedLabel (label : String)
  deriving DecidableEq, Repr

/-- The wording of a fault. -/
def Fault.message : Fault → String
  | .emptyHelp => "Error: empty help string"
  | .badName name => "Error: '" ++ name ++ "' is not a valid metric name"
  | .badLabel label => "Error: '" ++ label ++ "' is not a valid label name"
  | .repeatedLabel label => "Error: duplicate variable label name " ++ label

/-- The first fault of the labels behind those already `seen`. -/
def labelFault? (seen : List String) : List String → Option Fault
  | [] => none
  | label :: rest =>
    if isLabelName label then
      if label ∈ seen then some (.repeatedLabel label) else labelFault? (label :: seen) rest
    else some (.badLabel label)

/-- Labels without a fault follow the grammar, repeat nothing and avoid those already seen. -/
theorem labels_of_labelFault?_eq_none {seen labels : List String}
    (h : labelFault? seen labels = none) :
    (∀ label ∈ labels, isLabelName label = true) ∧ labels.Nodup ∧
      ∀ label ∈ labels, label ∉ seen := by
  induction labels generalizing seen with
  | nil => simp
  | cons label rest ih =>
    unfold labelFault? at h
    split at h
    · rename_i valid
      split at h
      · simp at h
      · rename_i fresh
        obtain ⟨restValid, restNodup, restFresh⟩ := ih h
        refine ⟨?_, List.nodup_cons.mpr ⟨?_, restNodup⟩, ?_⟩
        · exact List.forall_mem_cons.mpr ⟨valid, restValid⟩
        · exact fun mem => restFresh label mem (by simp)
        · refine List.forall_mem_cons.mpr ⟨fresh, fun other mem seenOther => ?_⟩
          exact restFresh other mem (List.mem_cons_of_mem _ seenOther)
    · simp at h

/-- The descriptor with the given labels, or the first thing wrong: the help, the full name, then
label by label. -/
def create (metricNamespace subsystem name help : String) (labels : List String) :
    Except Fault { d : Descriptor // d.labels = labels } :=
  let fullName := joinName metricNamespace subsystem name
  if help_nonempty : help = "" then .error .emptyHelp
  else if name_valid : isMetricName fullName = true then
    match labelsFaultless : labelFault? [] labels with
    | some fault => .error fault
    | none =>
      have sound := labels_of_labelFault?_eq_none labelsFaultless
      .ok ⟨⟨fullName, help, labels, name_valid, help_nonempty, sound.1, sound.2.1⟩, rfl⟩
  else .error (.badName fullName)

/-- The digest by which a registry knows the metric; it depends on the name alone. -/
def id (d : Descriptor) : UInt64 := Digest.ofTexts [d.name]

/-- The digest of the help and, in ascending order, of the labels. -/
def shape (d : Descriptor) : UInt64 :=
  Digest.ofTexts (d.help :: (d.labels.map ("$" ++ ·)).mergeSort)

/-- The descriptor written out with its digests, for messages. -/
def describe (d : Descriptor) : String :=
  "Desc \x7b fq_name: " ++ Text.quoted d.name ++ ", help: " ++ Text.quoted d.help ++
    ", const_label_pairs: [], variable_labels: " ++ Text.quotedList d.labels ++
    ", id: " ++ toString d.id ++ ", dim_hash: " ++ toString d.shape ++ " \x7d"

end Descriptor

end GpuTelemetry
