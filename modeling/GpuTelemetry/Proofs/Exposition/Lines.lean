import GpuTelemetry.Exposition.Message
import GpuTelemetry.Proofs.Metric.Grammar

/-!
# The lines of a page

A page is a sequence of lines: for each family its help, its type and its metrics. Help texts and
label values are escaped, and neither names nor numbers contain a line end, so nothing inside a
line ends it. Well-formed families can always be written.
-/

namespace GpuTelemetry

/-- A positional number contains no line end. -/
private theorem newline_not_mem_positional (d : Decimal) : '\n' ∉ (d.positional "").toList := by
  have hd : '\n' ∉ d.digitChars := by
    intro h
    have hn := Nat.isDigit_of_mem_toDigits (by decide) (by decide) h
    cases hn
  have hz (n : Nat) : '\n' ∉ List.replicate n '0' := by
    intro h
    cases List.eq_of_mem_replicate h
  unfold Decimal.positional
  dsimp only
  split
  · rw [String.toList_append, String.toList_ofList, List.mem_append, List.mem_append]
    rintro ((h | h) | h)
    · exact hd h
    · exact hz _ h
    · cases h
  · split
    · rw [String.toList_ofList, List.mem_append, List.mem_cons]
      rintro (h | h | h)
      · exact hd (List.mem_of_mem_take h)
      · cases h
      · exact hd (List.mem_of_mem_drop h)
    · rw [String.toList_ofList, List.mem_append, List.mem_cons, List.mem_cons]
      rintro ((h | h | h) | h)
      · cases h
      · cases h
      · exact hz _ h
      · exact hd h

/-- A written value contains no line end. -/
theorem Binary64.newline_not_mem_render (x : Binary64) :
    '\n' ∉ (x.render Exposition.valueStyle).toList := by
  unfold Binary64.render
  split
  · decide
  · split <;> decide
  · rename_i negative size _
    have ht : '\n' ∉ (if size.significand = 0 then "0" ++ Exposition.valueStyle.integral
        else (Decimal.shortest Exposition.valueStyle.tie size).render
          Exposition.valueStyle).toList := by
      split
      · decide
      · exact newline_not_mem_positional _
    dsimp only
    split
    · rw [String.toList_append, List.mem_append]
      rintro (h | h)
      · revert h
        decide
      · exact ht h
    · exact ht

namespace Exposition

private theorem newline_not_mem_helpChar (c : Char) : '\n' ∉ helpChar c := by
  unfold helpChar
  split
  · decide
  · decide
  · rename_i hn
    exact fun h => hn (List.mem_singleton.mp h).symm

private theorem newline_not_mem_labelChar (c : Char) : '\n' ∉ labelChar c := by
  unfold labelChar
  split
  · decide
  · exact newline_not_mem_helpChar c

/-- A label with its value between quotes. -/
def pairText (label : String × String) : List Char :=
  label.1.toList ++ '=' :: '"' :: (label.2.toList.flatMap labelChar ++ ['"'])

private theorem toList_pair (label : String × String) :
    (label.1 ++ "=\"" ++ escapeLabel label.2 ++ "\"").toList = pairText label := by
  have he : (escapeLabel label.2).toList = label.2.toList.flatMap labelChar :=
    String.toList_ofList
  rw [String.toList_append, String.toList_append, String.toList_append, he, List.append_assoc,
    List.append_assoc]
  rfl

/-- Labels in braces are pairs between commas. -/
theorem toList_labelText_cons (label : String × String) (rest : List (String × String)) :
    (labelText (label :: rest)).toList =
      '\x7b' :: ([','].intercalate ((label :: rest).map pairText) ++ ['\x7d']) := by
  have hp : (label :: rest).map pairText = ((label :: rest).map fun label =>
      label.1 ++ "=\"" ++ escapeLabel label.2 ++ "\"").map String.toList := by
    rw [List.map_map]
    exact List.map_congr_left fun other _ => (toList_pair other).symm
  rw [hp]
  unfold labelText
  rw [String.toList_append, String.toList_append, String.toList_intercalate]
  rfl

/-- The text of a metric line. -/
def metricText (name : String) (m : Metric) : List Char :=
  name.toList ++ ((labelText m.labels).toList ++ ' ' :: (m.value.render valueStyle).toList)

/-- The text of a help line. -/
def helpText (f : Family) : List Char :=
  '#' :: ' ' :: 'H' :: 'E' :: 'L' :: 'P' :: ' ' ::
    (f.name.toList ++ ' ' :: f.help.toList.flatMap helpChar)

/-- The text of a type line. -/
def typeText (f : Family) : List Char :=
  '#' :: ' ' :: 'T' :: 'Y' :: 'P' :: 'E' :: ' ' ::
    (f.name.toList ++ ' ' :: (kindWord f.kind).toList)

/-- The lines of a family that has a help. -/
def familyLines (f : Family) : List (List Char) :=
  helpText f :: typeText f :: f.metrics.map (metricText f.name)

/-- The text that lines make, each with its end. -/
def joinLines (lines : List (List Char)) : List Char := lines.flatMap fun line => line ++ ['\n']

private theorem joinLines_cons (line : List Char) (rest : List (List Char)) :
    joinLines (line :: rest) = line ++ '\n' :: joinLines rest := by
  rw [joinLines, List.flatMap_cons, List.append_assoc]
  rfl

/-- Splitting a text at the line ends gives its lines, and nothing behind the last line end. -/
theorem splitOn_joinLines {lines : List (List Char)} (h : ∀ line ∈ lines, '\n' ∉ line) :
    (joinLines lines).splitOn '\n' = lines ++ [[]] := by
  induction lines with
  | nil => rfl
  | cons line rest ih =>
    obtain ⟨hl, hr⟩ := List.forall_mem_cons.mp h
    rw [joinLines_cons, List.splitOn_append_cons_self_of_not_mem hl, ih hr]
    rfl

private theorem toList_metricLine (name : String) (m : Metric) :
    (metricLine name (.ofMetric m)).toList = metricText name m ++ ['\n'] := by
  simp only [metricLine, MetricMessage.ofMetric, metricText, String.toList_append,
    String.reduceToList, List.append_assoc, List.cons_append, List.nil_append]

private theorem toList_metricLines (name : String) (metrics : List Metric) :
    (String.join ((metrics.map MetricMessage.ofMetric).map (metricLine name))).toList =
      joinLines (metrics.map (metricText name)) := by
  rw [String.toList_join, joinLines, List.map_map, List.flatMap_map, List.flatMap_map]
  congr 1
  funext m
  exact toList_metricLine name m

private theorem toList_helpLine {f : Family} (h : f.help ≠ "") :
    (helpLine f.name f.help).toList = helpText f ++ ['\n'] := by
  have he : (escapeHelp f.help).toList = f.help.toList.flatMap helpChar := String.toList_ofList
  rw [helpLine, if_neg h]
  simp only [helpText, String.toList_append, he, String.reduceToList, List.append_assoc,
    List.cons_append, List.nil_append]

/-- The text of a family consists of its lines. -/
theorem toList_familyText {f : Family} (h : f.help ≠ "") :
    (familyText f.name f.help f.kind (f.metrics.map .ofMetric)).toList =
      joinLines (familyLines f) := by
  rw [familyText, String.toList_append, toList_metricLines, familyLines, joinLines_cons,
    joinLines_cons]
  simp only [String.toList_append, toList_helpLine h, typeText, String.reduceToList,
    List.append_assoc, List.cons_append, List.nil_append]

private theorem newline_not_mem_intercalate {texts : List (List Char)}
    (h : ∀ text ∈ texts, '\n' ∉ text) : '\n' ∉ [','].intercalate texts := by
  induction texts with
  | nil => exact List.not_mem_nil
  | cons text rest ih =>
    obtain ⟨ht, hr⟩ := List.forall_mem_cons.mp h
    cases rest with
    | nil => rwa [List.intercalate_singleton]
    | cons next others =>
      rw [List.intercalate_cons_cons, List.mem_append, List.mem_append, not_or, not_or]
      exact ⟨⟨ht, by decide⟩, ih hr⟩

private theorem newline_not_mem_pairText {label : String × String}
    (h : isLabelName label.1 = true) : '\n' ∉ pairText label := by
  have hn : '\n' ∉ label.1.toList :=
    not_mem_of_isNameChar_eq_false (fun _ => isNameChar_of_mem_label h) (by decide)
  have hv : '\n' ∉ label.2.toList.flatMap labelChar := by
    rw [List.mem_flatMap]
    rintro ⟨c, -, hc⟩
    exact newline_not_mem_labelChar c hc
  simp only [pairText, List.mem_append, List.mem_cons, not_or]
  exact ⟨hn, by decide, by decide, hv, by decide, List.not_mem_nil⟩

private theorem newline_not_mem_labelText {labels : List (String × String)}
    (h : ∀ label ∈ labels, isLabelName label.1 = true) : '\n' ∉ (labelText labels).toList := by
  cases labels with
  | nil => exact List.not_mem_nil
  | cons label rest =>
    rw [toList_labelText_cons, List.mem_cons, List.mem_append, not_or, not_or]
    refine ⟨by decide, newline_not_mem_intercalate fun text ht => ?_, by decide⟩
    obtain ⟨other, ho, rfl⟩ := List.mem_map.mp ht
    exact newline_not_mem_pairText (h other ho)

/-- Nothing inside a line of a family ends it. -/
theorem newline_not_mem_familyLines {f : Family} (h : f.WellFormed) :
    ∀ line ∈ familyLines f, '\n' ∉ line := by
  have hn : '\n' ∉ f.name.toList :=
    not_mem_of_isNameChar_eq_false (fun _ => isNameChar_of_mem h.name_valid) (by decide)
  have hh : '\n' ∉ f.help.toList.flatMap helpChar := by
    rw [List.mem_flatMap]
    rintro ⟨c, -, hc⟩
    exact newline_not_mem_helpChar c hc
  have hk : '\n' ∉ (kindWord f.kind).toList := by
    cases f.kind <;> decide
  refine List.forall_mem_cons.mpr ⟨?_, List.forall_mem_cons.mpr ⟨?_, ?_⟩⟩
  · simp only [helpText, List.mem_cons, List.mem_append, not_or]
    simp [hn, hh]
  · simp only [typeText, List.mem_cons, List.mem_append, not_or]
    simp [hn, hk]
  · intro line hl
    obtain ⟨m, hm, rfl⟩ := List.mem_map.mp hl
    have ht := newline_not_mem_labelText (h.labels_valid m hm)
    simp only [metricText, List.mem_cons, List.mem_append, not_or]
    exact ⟨hn, ht, by decide, m.value.newline_not_mem_render⟩

/-- The text of a family. -/
def textOf (f : Family) : String :=
  familyText f.name f.help f.kind (f.metrics.map .ofMetric)

private theorem writeFamily_ofFamily {f : Family} (hn : f.name ≠ "") (hm : f.metrics ≠ []) :
    writeFamily (.ofFamily f) = .ok (textOf f) := by
  have he : (FamilyMessage.ofFamily f).metrics.isEmpty = false := by
    cases hf : f.metrics with
    | nil => exact absurd hf hm
    | cons m rest => rw [FamilyMessage.ofFamily, hf]; rfl
  rw [writeFamily, he, if_neg Bool.false_ne_true]
  exact if_neg hn

/-- Families with a name and a metric each are written one by one. -/
theorem mapM_writeFamily {families : List Family}
    (h : ∀ f ∈ families, f.name ≠ "" ∧ f.metrics ≠ []) :
    (families.map FamilyMessage.ofFamily).mapM writeFamily = .ok (families.map textOf) := by
  induction families with
  | nil => rfl
  | cons f rest ih =>
    obtain ⟨⟨hn, hm⟩, hr⟩ := List.forall_mem_cons.mp h
    rw [List.map_cons, List.mapM_cons, writeFamily_ofFamily hn hm, ih hr]
    rfl

/-- Families with a name and a metric each can be written. -/
theorem writeFamilies_of_named {families : List Family}
    (h : ∀ f ∈ families, f.name ≠ "" ∧ f.metrics ≠ []) :
    writeFamilies families = .ok (String.join (families.map textOf)) := by
  rw [writeFamilies, writePage, mapM_writeFamily h]

/-- Well-formed families can be written, and their page consists of their lines. -/
theorem writeFamilies_of_wellFormed {families : List Family} (h : ∀ f ∈ families, f.WellFormed) :
    writeFamilies families = .ok (String.ofList (joinLines (families.flatMap familyLines))) := by
  have hnamed : ∀ f ∈ families, f.name ≠ "" ∧ f.metrics ≠ [] := fun f hf =>
    ⟨(h f hf).name_ne_empty, (h f hf).metrics_nonempty⟩
  have ht : (String.join (families.map textOf)).toList =
      joinLines (families.flatMap familyLines) := by
    rw [String.toList_join, List.flatMap_map, joinLines, List.flatMap_assoc]
    refine congrArg List.flatten (List.map_congr_left fun f hf => ?_)
    exact toList_familyText (h f hf).help_nonempty
  rw [writeFamilies_of_named hnamed, ← ht, String.ofList_toList]

end Exposition

end GpuTelemetry
