import GpuTelemetry.Proofs.Exposition.Lines

/-!
# Reading a page back

A scraper takes a page line by line: a help line begins a family, any other line that is no comment
is a metric of that family. Undoing the escapes it recovers from the page of some samples exactly
the families served, with their helps, labels and values as written. So no text in a help or a
label can pass for a line, hide one or split one, and a page determines what was served.
-/

namespace GpuTelemetry.Exposition

/-- A metric as a scraper reads it. -/
structure MetricReading where
  /-- The name in its line. -/
  name : String
  /-- Label names with their values. -/
  labels : List (String × String)
  /-- The value as it is written. -/
  value : String
  deriving DecidableEq, Repr

/-- A family as a scraper reads it. -/
structure FamilyReading where
  /-- The name in its help line. -/
  name : String
  /-- The help. -/
  help : String
  /-- The metrics up to the next help line. -/
  metrics : List MetricReading
  deriving DecidableEq, Repr

/-- What there is to read of a metric. -/
def MetricReading.ofMetric (name : String) (m : Metric) : MetricReading :=
  ⟨name, m.labels, m.value.render valueStyle⟩

/-- What there is to read of a family. -/
def FamilyReading.ofFamily (f : Family) : FamilyReading :=
  ⟨f.name, f.help, f.metrics.map (.ofMetric f.name)⟩

/-- The character that a backslash in front of another stands for. -/
def unescape (c : Char) : Char := if c = 'n' then '\n' else c

/-- A help with its escapes undone. -/
def readHelp : List Char → List Char
  | [] => []
  | '\\' :: c :: rest => unescape c :: readHelp rest
  | c :: rest => c :: readHelp rest

/-- A text up to the closing quote, with its escapes undone, and what is behind the quote. -/
def readQuoted : List Char → Option (List Char × List Char)
  | [] => none
  | '"' :: rest => some ([], rest)
  | '\\' :: c :: rest => (readQuoted rest).map fun r => (unescape c :: r.1, r.2)
  | c :: rest => (readQuoted rest).map fun r => (c :: r.1, r.2)

/-- A label with its value, and what is behind it. -/
def readPair (cs : List Char) : Option ((String × String) × List Char) :=
  match cs.dropWhile isNameChar with
  | '=' :: '"' :: quoted =>
    (readQuoted quoted).map fun r =>
      ((String.ofList (cs.takeWhile isNameChar), String.ofList r.1), r.2)
  | _ => none

/-- What is behind a quoted text is shorter. -/
theorem length_of_readQuoted {cs : List Char} {r : List Char × List Char}
    (h : readQuoted cs = some r) : r.2.length < cs.length := by
  fun_induction readQuoted cs generalizing r with
  | case1 => cases h
  | case2 =>
    cases h
    exact Nat.lt_succ_self _
  | case3 c rest ih =>
    obtain ⟨r', hr, rfl⟩ := Option.map_eq_some_iff.mp h
    have hl := ih hr
    simp only [List.length_cons]
    omega
  | case4 c rest _ _ ih =>
    obtain ⟨r', hr, rfl⟩ := Option.map_eq_some_iff.mp h
    have hl := ih hr
    simp only [List.length_cons]
    omega

/-- What is behind a label is shorter. -/
theorem length_of_readPair {cs : List Char} {r : (String × String) × List Char}
    (h : readPair cs = some r) : r.2.length < cs.length := by
  unfold readPair at h
  split at h
  · rename_i quoted hd
    obtain ⟨r', hr, rfl⟩ := Option.map_eq_some_iff.mp h
    have hl := length_of_readQuoted hr
    have hs := (List.dropWhile_suffix isNameChar (l := cs)).length_le
    rw [hd, List.length_cons, List.length_cons] at hs
    exact Nat.lt_of_lt_of_le hl (by omega)
  · cases h

/-- Labels up to the closing brace, and what is behind it. -/
def readLabels (cs : List Char) : Option (List (String × String) × List Char) :=
  match _ : readPair cs with
  | some (label, ',' :: rest) => (readLabels rest).map fun r => (label :: r.1, r.2)
  | some (label, '\x7d' :: rest) => some ([label], rest)
  | _ => none
termination_by cs.length
decreasing_by
  rename_i h
  have hl := length_of_readPair h
  rw [List.length_cons] at hl
  omega

/-- A metric line. -/
def readMetric (line : List Char) : Option MetricReading :=
  let name := String.ofList (line.takeWhile isNameChar)
  match line.dropWhile isNameChar with
  | ' ' :: value => some ⟨name, [], String.ofList value⟩
  | '\x7b' :: rest =>
    match readLabels rest with
    | some (labels, ' ' :: value) => some ⟨name, labels, String.ofList value⟩
    | _ => none
  | _ => none

/-- What a line says. -/
inductive Line where
  /-- Nothing that counts. -/
  | comment
  /-- That a family begins. -/
  | help (name help : String)
  /-- That there is a metric. -/
  | metric (m : MetricReading)
  deriving DecidableEq, Repr

/-- One line of a page. -/
def readLine : List Char → Option Line
  | [] => some .comment
  | '#' :: ' ' :: 'H' :: 'E' :: 'L' :: 'P' :: ' ' :: rest =>
    match rest.dropWhile isNameChar with
    | ' ' :: help =>
      some (.help (String.ofList (rest.takeWhile isNameChar)) (String.ofList (readHelp help)))
    | _ => none
  | '#' :: _ => some .comment
  | line => (readMetric line).map .metric

/-- The lines of a page: the metrics in front of the first help line, and the families. -/
def readLines : List (List Char) → Option (List MetricReading × List FamilyReading)
  | [] => some ([], [])
  | line :: rest => do
    let (metrics, families) ← readLines rest
    match ← readLine line with
    | .comment => return (metrics, families)
    | .help name help => return ([], ⟨name, help, metrics⟩ :: families)
    | .metric m => return (m :: metrics, families)

/-- The families of a page; a metric in front of all families belongs to none. -/
def readPage (page : String) : Option (List FamilyReading) :=
  match readLines (page.toList.splitOn '\n') with
  | some ([], families) => some families
  | _ => none

private theorem readHelp_helpChar (c : Char) (rest : List Char) :
    readHelp (helpChar c ++ rest) = c :: readHelp rest := by
  unfold helpChar
  split
  · rfl
  · rfl
  · rename_i hb _
    rw [List.singleton_append, readHelp]
    exact fun _ _ he _ => hb he

/-- Reading undoes the escapes of a help. -/
theorem readHelp_flatMap_helpChar (s : List Char) : readHelp (s.flatMap helpChar) = s := by
  induction s with
  | nil => rfl
  | cons c rest ih => rw [List.flatMap_cons, readHelp_helpChar, ih]

private theorem readQuoted_labelChar (c : Char) (rest : List Char) :
    readQuoted (labelChar c ++ rest) = (readQuoted rest).map fun r => (c :: r.1, r.2) := by
  unfold labelChar
  split
  · rfl
  · rename_i hq
    unfold helpChar
    split
    · rfl
    · rfl
    · rename_i hb _
      rw [List.singleton_append, readQuoted]
      · exact hq
      · exact fun _ _ he _ => hb he

/-- Reading stops at the quote behind an escaped value and undoes its escapes. -/
theorem readQuoted_flatMap_labelChar (s rest : List Char) :
    readQuoted (s.flatMap labelChar ++ '"' :: rest) = some (s, rest) := by
  induction s with
  | nil => rfl
  | cons c tail ih =>
    rw [List.flatMap_cons, List.append_assoc, readQuoted_labelChar, ih]
    rfl

/-- A word ends in front of a character that may not stand in one. -/
theorem takeWhile_dropWhile_word {word : List Char} {c : Char}
    (h : ∀ d ∈ word, isNameChar d = true) (hc : isNameChar c = false) (rest : List Char) :
    (word ++ c :: rest).takeWhile isNameChar = word ∧
      (word ++ c :: rest).dropWhile isNameChar = c :: rest := by
  have hn : ¬ isNameChar c = true := by rw [hc]; exact Bool.false_ne_true
  constructor
  · rw [List.takeWhile_append_of_pos h, List.takeWhile_cons_of_neg hn, List.append_nil]
  · rw [List.dropWhile_append_of_pos h, List.dropWhile_cons_of_neg hn]

private theorem readPair_pairText {label : String × String} (h : isLabelName label.1 = true)
    (rest : List Char) : readPair (pairText label ++ rest) = some (label, rest) := by
  have hs : pairText label ++ rest =
      label.1.toList ++ '=' :: '"' :: (label.2.toList.flatMap labelChar ++ '"' :: rest) := by
    simp only [pairText, List.append_assoc, List.cons_append, List.nil_append]
  obtain ⟨ht, hd⟩ := takeWhile_dropWhile_word (fun _ => isNameChar_of_mem_label h)
    (show isNameChar '=' = false by decide)
    ('"' :: (label.2.toList.flatMap labelChar ++ '"' :: rest))
  rw [hs, readPair, ht, hd]
  simp only [readQuoted_flatMap_labelChar, Option.map_some, String.ofList_toList]

private theorem readLabels_of_comma {cs rest : List Char} {label : String × String}
    (h : readPair cs = some (label, ',' :: rest)) :
    readLabels cs = (readLabels rest).map fun r => (label :: r.1, r.2) := by
  rw [readLabels]
  split
  · rename_i he
    rw [h] at he
    cases he
    rfl
  · rename_i he
    rw [h] at he
    cases he
  · rename_i hn _
    exact absurd h (hn label rest)

private theorem readLabels_of_brace {cs rest : List Char} {label : String × String}
    (h : readPair cs = some (label, '\x7d' :: rest)) :
    readLabels cs = some ([label], rest) := by
  rw [readLabels]
  split
  · rename_i he
    rw [h] at he
    cases he
  · rename_i he
    rw [h] at he
    cases he
    rfl
  · rename_i _ hn
    exact absurd h (hn label rest)

/-- Reading stops at the brace behind labels and recovers them. -/
theorem readLabels_intercalate (label : String × String) (labels : List (String × String))
    (h : ∀ l ∈ label :: labels, isLabelName l.1 = true) (rest : List Char) :
    readLabels ([','].intercalate ((label :: labels).map pairText) ++ '\x7d' :: rest) =
      some (label :: labels, rest) := by
  induction labels generalizing label with
  | nil =>
    rw [List.map_singleton, List.intercalate_singleton]
    exact readLabels_of_brace (readPair_pairText (h label List.mem_cons_self) _)
  | cons next others ih =>
    obtain ⟨hl, hr⟩ := List.forall_mem_cons.mp h
    have hp := readPair_pairText hl
      (',' :: ([','].intercalate ((next :: others).map pairText) ++ '\x7d' :: rest))
    rw [List.map_cons, List.map_cons, List.intercalate_cons_cons, ← List.map_cons,
      List.append_assoc, List.append_assoc, List.singleton_append, readLabels_of_comma hp,
      ih next hr]
    rfl

/-- A metric line gives the metric it was written for. -/
theorem readMetric_metricText {name : String} (hn : isMetricName name = true) {m : Metric}
    (hl : ∀ label ∈ m.labels, isLabelName label.1 = true) :
    readMetric (metricText name m) = some (.ofMetric name m) := by
  have hw : ∀ c ∈ name.toList, isNameChar c = true := fun _ => isNameChar_of_mem hn
  cases hm : m.labels with
  | nil =>
    obtain ⟨ht, hd⟩ := takeWhile_dropWhile_word hw (show isNameChar ' ' = false by decide)
      (m.value.render valueStyle).toList
    have hs : metricText name m = name.toList ++ ' ' :: (m.value.render valueStyle).toList := by
      rw [metricText, hm]
      rfl
    rw [readMetric, hs, ht, hd, String.ofList_toList]
    simp only [String.ofList_toList, MetricReading.ofMetric, hm]
  | cons label rest =>
    rw [hm] at hl
    obtain ⟨ht, hd⟩ := takeWhile_dropWhile_word hw (show isNameChar '\x7b' = false by decide)
      ([','].intercalate ((label :: rest).map pairText) ++
        '\x7d' :: ' ' :: (m.value.render valueStyle).toList)
    have hs : metricText name m = name.toList ++
        '\x7b' :: ([','].intercalate ((label :: rest).map pairText) ++
          '\x7d' :: ' ' :: (m.value.render valueStyle).toList) := by
      rw [metricText, hm, toList_labelText_cons, List.cons_append, List.append_assoc]
      rfl
    rw [readMetric, hs, ht, hd]
    simp only [readLabels_intercalate label rest hl, String.ofList_toList, MetricReading.ofMetric,
      hm]

/-- A metric line is read as its metric. -/
theorem readLine_metricText {name : String} (hn : isMetricName name = true) {m : Metric}
    (hl : ∀ label ∈ m.labels, isLabelName label.1 = true) :
    readLine (metricText name m) = some (.metric (.ofMetric name m)) := by
  have hr := readMetric_metricText hn hl
  obtain ⟨c, rest, hw, hc⟩ := exists_cons_of_isWord hn
  have hne : c ≠ '#' := by
    rintro rfl
    cases hc
  unfold readLine
  split
  · rename_i he
    rw [metricText, hw] at he
    cases he
  · rename_i he
    rw [metricText, hw] at he
    exact absurd (List.cons.inj he).1 hne
  · rename_i he
    rw [metricText, hw] at he
    exact absurd (List.cons.inj he).1 hne
  · rw [hr]
    rfl

/-- A help line is read as the name and the help. -/
theorem readLine_helpText {f : Family} (hn : isMetricName f.name = true) :
    readLine (helpText f) = some (.help f.name f.help) := by
  obtain ⟨ht, hd⟩ := takeWhile_dropWhile_word (fun _ => isNameChar_of_mem hn)
    (show isNameChar ' ' = false by decide) (f.help.toList.flatMap helpChar)
  rw [helpText, readLine, hd, ht]
  simp only [String.ofList_toList, readHelp_flatMap_helpChar]

/-- A type line passes for a comment. -/
theorem readLine_typeText (f : Family) : readLine (typeText f) = some .comment := rfl

/-- Metric lines come in front of the metrics that were read behind them. -/
theorem readLines_metricTexts {name : String} (hn : isMetricName name = true)
    {metrics : List Metric}
    (hl : ∀ m ∈ metrics, ∀ label ∈ m.labels, isLabelName label.1 = true)
    {lines : List (List Char)} {families : List FamilyReading}
    (h : readLines lines = some ([], families)) :
    readLines (metrics.map (metricText name) ++ lines) =
      some (metrics.map (.ofMetric name), families) := by
  induction metrics with
  | nil => exact h
  | cons m rest ih =>
    obtain ⟨hm, hr⟩ := List.forall_mem_cons.mp hl
    rw [List.map_cons, List.cons_append, readLines, ih hr, readLine_metricText hn hm]
    rfl

/-- The lines of a family give this family, in front of those that were read behind them. -/
theorem readLines_familyLines {f : Family} (hf : f.WellFormed) {lines : List (List Char)}
    {families : List FamilyReading} (h : readLines lines = some ([], families)) :
    readLines (familyLines f ++ lines) = some ([], .ofFamily f :: families) := by
  have hm := readLines_metricTexts hf.name_valid hf.labels_valid h
  rw [familyLines, List.cons_append, List.cons_append, readLines, readLines, hm,
    readLine_typeText, readLine_helpText hf.name_valid]
  rfl

/-- The lines of families give these families. -/
theorem readLines_flatMap_familyLines {families : List Family}
    (h : ∀ f ∈ families, f.WellFormed) :
    readLines (families.flatMap familyLines ++ [[]]) =
      some ([], families.map .ofFamily) := by
  induction families with
  | nil => rfl
  | cons f rest ih =>
    obtain ⟨hf, hr⟩ := List.forall_mem_cons.mp h
    rw [List.flatMap_cons, List.append_assoc, readLines_familyLines hf (ih hr)]
    rfl

/-- What was written of well-formed families is read back. -/
theorem readPage_joinLines {families : List Family} (h : ∀ f ∈ families, f.WellFormed) :
    readPage (String.ofList (joinLines (families.flatMap familyLines))) =
      some (families.map .ofFamily) := by
  have hn : ∀ line ∈ families.flatMap familyLines, '\n' ∉ line := by
    intro line hl
    obtain ⟨f, hf, hm⟩ := List.mem_flatMap.mp hl
    exact newline_not_mem_familyLines (h f hf) line hm
  rw [readPage, String.toList_ofList, splitOn_joinLines hn, readLines_flatMap_familyLines h]

/-- Every list of samples has a page, from which a scraper reads exactly their families; so it
determines what is served. -/
theorem readPage_writeSamples :
    (∀ samples, ∃ page, writeSamples samples = .ok page ∧
      readPage page = some ((Family.group samples).map .ofFamily)) ∧
    ∀ samples others, writeSamples samples = writeSamples others →
      (Family.group samples).map FamilyReading.ofFamily =
        (Family.group others).map FamilyReading.ofFamily := by
  have hread : ∀ samples, ∃ page, writeSamples samples = .ok page ∧
      readPage page = some ((Family.group samples).map .ofFamily) := by
    intro samples
    have hw := Family.wellFormed_of_mem_group samples
    exact ⟨_, writeFamilies_of_wellFormed hw, readPage_joinLines hw⟩
  refine ⟨hread, fun samples others he => ?_⟩
  obtain ⟨page, hp, hr⟩ := hread samples
  obtain ⟨page', hp', hr'⟩ := hread others
  rw [he, hp'] at hp
  cases hp
  exact Option.some.inj (hr.symm.trans hr')

end GpuTelemetry.Exposition
