import GpuTelemetry.Proofs.Json.Strings
import GpuTelemetry.Proofs.Settings.Overrides
import GpuTelemetry.Settings.Reader
import GpuTelemetry.Settings.Writer
import Mathlib.Data.List.Pairwise

/-!
# Settings documents read back

A written object is a row of entries, each a name and a value, with commas between them. Reading
takes one entry at a time and leaves the rest as it is, whatever the names. So a document gives the
namespace that is written in it and, for each collector, the last decision about it; a field that
is left out has its default, and written settings read back as themselves.
-/

namespace GpuTelemetry.Settings

open Json

/-- What stands in front of an entry: a comma, except before the first one. -/
def separator (first : Bool) : List Char := if first then [] else [',']

/-- The entries of an object: names with values that are written already. -/
def entriesText (first : Bool) : List (String × List Char) → List Char
  | [] => []
  | entry :: rest =>
    separator first ++ (writeString entry.1 ++ (':' :: (entry.2 ++ entriesText false rest)))

private theorem entriesText_cons (first : Bool) (entry : String × List Char)
    (rest : List (String × List Char)) :
    entriesText first (entry :: rest) =
      separator first ++ (writeString entry.1 ++ (':' :: (entry.2 ++ entriesText false rest))) :=
  rfl

/-- An entry takes at least one character. -/
theorem length_le_length_entriesText (first : Bool) (entries : List (String × List Char)) :
    entries.length ≤ (entriesText first entries).length := by
  induction entries generalizing first with
  | nil => exact Nat.zero_le _
  | cons entry rest ih =>
    have hrest := ih false
    simp only [entriesText_cons, List.length_append, List.length_cons]
    omega

/-- A decision as it is written. -/
def decisionText (enabled : Bool) : List Char := (if enabled then "true" else "false").toList

/-- A member of the `collectors` object as an entry. -/
def memberEntry (member : String × Bool) : String × List Char :=
  (member.1, decisionText member.2)

/-- The members of the `collectors` object are its entries. -/
theorem writeMembers_eq_entriesText (members : List (String × Bool)) :
    writeMembers members = entriesText true (members.map memberEntry) := by
  induction members with
  | nil => rfl
  | cons member rest ih =>
    cases rest with
    | nil => simp [writeMembers, writeMember, entriesText, memberEntry, decisionText, separator]
    | cons next rest =>
      rw [writeMembers, ih]
      · simp [writeMember, entriesText, memberEntry, decisionText, separator]
      · simp

section Steps

variable (first : Bool) (rest : List Char)

/-- Behind its separator the key of an entry is found. -/
theorem nextKey_entry : nextKey first (separator first ++ '"' :: rest) = .ok (.item, rest) := by
  cases first <;> rfl

private theorem colon_colon : colon (':' :: rest) = .ok rest := rfl

/-- A written string is read back. -/
theorem readString_writeString (s : String) :
    readString (writeString s ++ rest) = .ok (s, rest) := by
  obtain ⟨body, hs, hb⟩ := exists_body_writeString s rest
  rw [hs]
  exact hb

/-- A written decision is read back. -/
theorem readBool_decisionText (enabled : Bool) :
    readBool (decisionText enabled ++ rest) = .ok (enabled, rest) := by
  cases enabled <;> rfl

end Steps

/-- Reading comes to the key of the first entry, and behind it to its value and the others. -/
theorem nextKey_entriesText (first : Bool) (entry : String × List Char)
    (others : List (String × List Char)) (rest : List Char) :
    ∃ body, nextKey first (entriesText first (entry :: others) ++ rest) = .ok (.item, body) ∧
      stringBody [] body =
        .ok (entry.1, ':' :: (entry.2 ++ (entriesText false others ++ rest))) := by
  obtain ⟨body, hs, hb⟩ := exists_body_writeString entry.1
    (':' :: (entry.2 ++ (entriesText false others ++ rest)))
  refine ⟨body, ?_, hb⟩
  rw [entriesText_cons]
  simp only [List.append_assoc, List.cons_append]
  rw [hs, nextKey_entry]

/-- The members of the `collectors` object are taken over in order. -/
theorem readMembers_entriesText {members : List (String × Bool)} {n : Nat}
    (h : members.length < n) (first : Bool) (overrides : Overrides) (rest : List Char) :
    readMembers n first overrides
        (entriesText first (members.map memberEntry) ++ '\x7d' :: rest) =
      .ok (members.foldl (fun taken member => taken.insert member.1 member.2) overrides, rest) := by
  induction members generalizing n first overrides with
  | nil =>
    obtain ⟨k, rfl⟩ : ∃ k, n = k + 1 := ⟨n - 1, by omega⟩
    rfl
  | cons member others ih =>
    obtain ⟨k, rfl⟩ : ∃ k, n = k + 1 := ⟨n - 1, by omega⟩
    have hk : others.length < k := by
      rw [List.length_cons] at h
      omega
    have hothers := ih hk false (overrides.insert member.1 member.2)
    obtain ⟨body, hkey, hb⟩ := nextKey_entriesText first (memberEntry member)
      (others.map memberEntry) ('\x7d' :: rest)
    rw [List.map_cons, readMembers, hkey]
    simp only [bind, Except.bind, hb, memberEntry, colon_colon, readBool_decisionText]
    exact hothers

/-- The `collectors` object is read back as what its members come to. -/
theorem readOverrides_writeMembers (members : List (String × Bool)) (rest : List Char) :
    readOverrides ('\x7b' :: (writeMembers members ++ '\x7d' :: rest)) =
      .ok (.ofList members, rest) := by
  rw [writeMembers_eq_entriesText]
  refine readMembers_entriesText ?_ true .empty rest
  have hlength := length_le_length_entriesText true (members.map memberEntry)
  simp only [List.length_append, List.length_cons, List.length_map] at hlength ⊢
  omega

/-- A field of the document with its value. -/
inductive Field where
  /-- The namespace. -/
  | metricNamespace (value : String)
  /-- The decisions, in the order in which they are written. -/
  | collectors (members : List (String × Bool))

/-- A field as an entry. -/
def Field.entry : Field → String × List Char
  | .metricNamespace value => ("namespace", writeString value)
  | .collectors members => ("collectors", '\x7b' :: (writeMembers members ++ ['\x7d']))

/-- A draft with a field taken over. -/
def Draft.take (draft : Draft) : Field → Draft
  | .metricNamespace value => { draft with metricNamespace := some value }
  | .collectors members => { draft with overrides := some (.ofList members) }

/-- The draft does not have the field yet. -/
def Draft.Lacks (draft : Draft) : Field → Prop
  | .metricNamespace _ => draft.metricNamespace = none
  | .collectors _ => draft.overrides = none

/-- A field is not lost to one of another name. -/
theorem Draft.Lacks.take {draft : Draft} {field other : Field} (h : draft.Lacks other)
    (hne : field.entry.1 ≠ other.entry.1) : (draft.take field).Lacks other := by
  cases field <;> cases other <;> first | exact h | exact absurd rfl hne

/-- Fields of different names may be taken over in either order. -/
theorem Draft.take_comm (draft : Draft) {a b : Field} (h : a.entry.1 ≠ b.entry.1) :
    (draft.take a).take b = (draft.take b).take a := by
  cases a <;> cases b <;> first | rfl | exact absurd rfl h

/-- The value of a field is read back into a draft that lacks it. -/
theorem readField_entry {draft : Draft} {field : Field} (h : draft.Lacks field)
    (rest : List Char) :
    readField field.entry.1 draft (':' :: (field.entry.2 ++ rest)) =
      .ok (draft.take field, rest) := by
  cases field with
  | metricNamespace value =>
    have hnone : ¬ draft.metricNamespace.isSome = true := by
      rw [show draft.metricNamespace = none from h]
      exact Bool.false_ne_true
    have hread := readString_writeString rest value
    simp only [Field.entry, readField, if_true, if_neg hnone, bind, Except.bind, colon_colon, hread,
      Draft.take]
  | collectors members =>
    have hnone : ¬ draft.overrides.isSome = true := by
      rw [show draft.overrides = none from h]
      exact Bool.false_ne_true
    have hname : ¬ "collectors" = "namespace" := by decide
    have hread := readOverrides_writeMembers members rest
    simp only [Field.entry, readField, if_neg hname, if_true, if_neg hnone, bind, Except.bind,
      colon_colon, List.cons_append, List.append_assoc, List.nil_append, hread, Draft.take]

/-- Fields of different names are taken over in order. -/
theorem readFields_entriesText {fields : List Field} {n : Nat} (hn : fields.length < n)
    (hd : fields.Pairwise fun a b => a.entry.1 ≠ b.entry.1) {draft : Draft}
    (hl : ∀ field ∈ fields, draft.Lacks field) (first : Bool) (rest : List Char) :
    readFields n first draft (entriesText first (fields.map Field.entry) ++ '\x7d' :: rest) =
      .ok (fields.foldl Draft.take draft, rest) := by
  induction fields generalizing n first draft with
  | nil =>
    obtain ⟨k, rfl⟩ : ∃ k, n = k + 1 := ⟨n - 1, by omega⟩
    rfl
  | cons field others ih =>
    obtain ⟨k, rfl⟩ : ∃ k, n = k + 1 := ⟨n - 1, by omega⟩
    obtain ⟨hfield, hothers⟩ := List.pairwise_cons.mp hd
    obtain ⟨hlacks, hlack⟩ := List.forall_mem_cons.mp hl
    have hk : others.length < k := by
      rw [List.length_cons] at hn
      omega
    have hrest := ih hk hothers (fun o ho => (hlack o ho).take (hfield o ho)) false
    have htail := readField_entry hlacks
      (entriesText false (others.map Field.entry) ++ '\x7d' :: rest)
    obtain ⟨body, hkey, hb⟩ := nextKey_entriesText first field.entry
      (others.map Field.entry) ('\x7d' :: rest)
    rw [List.map_cons, readFields, hkey]
    simp only [bind, Except.bind, hb, htail]
    exact hrest

/-- The document with some fields, without blanks. -/
def fieldsDocument (fields : List Field) : List Char :=
  '\x7b' :: (entriesText true (fields.map Field.entry) ++ ['\x7d'])

/-- A document with fields of different names is read as the draft that takes them over. -/
theorem parse_fieldsDocument {fields : List Field}
    (hd : fields.Pairwise fun a b => a.entry.1 ≠ b.entry.1) :
    parse (String.ofList (fieldsDocument fields)) =
      .ok (fields.foldl Draft.take .empty).settings := by
  have hlacks : ∀ field ∈ fields, Draft.empty.Lacks field := by
    intro field _
    cases field <;> rfl
  have hlength := length_le_length_entriesText true (fields.map Field.entry)
  rw [List.length_map] at hlength
  have hn : fields.length <
      (entriesText true (fields.map Field.entry) ++ ['\x7d']).length + 1 := by
    rw [List.length_append]
    omega
  have hdraft : readDraft (fieldsDocument fields) =
      .ok (fields.foldl Draft.take .empty, []) :=
    readFields_entriesText hn hd hlacks true []
  have hdocument : readDocument (fieldsDocument fields) =
      .ok (fields.foldl Draft.take .empty).settings := by
    rw [readDocument, hdraft]
    rfl
  rw [parse, String.toList_ofList, hdocument]
  rfl

/-- The fields of a document, each of which may be left out. -/
def givenFields (namespace? : Option String) (members? : Option (List (String × Bool))) :
    List Field :=
  (namespace?.map Field.metricNamespace).toList ++ (members?.map Field.collectors).toList

/-- The document with both fields has them in this order. -/
theorem document_eq (metricNamespace : String) (members : List (String × Bool)) :
    document metricNamespace members =
      fieldsDocument (givenFields (some metricNamespace) (some members)) := by
  have hn : "\x7b\"namespace\":".toList = '\x7b' :: (writeString "namespace" ++ [':']) := by rfl
  have hc : ",\"collectors\":\x7b".toList =
      ',' :: (writeString "collectors" ++ [':', '\x7b']) := by rfl
  unfold document
  rw [hn, hc]
  simp only [fieldsDocument, givenFields, Option.map_some, Option.toList_some, List.map_cons,
    List.map_nil, Field.entry, entriesText, separator, List.cons_append,
    List.append_assoc, List.nil_append, if_true, Bool.false_eq_true, if_false]

/-- The fields have different names, and in either order they come to the same settings. -/
theorem settings_of_perm {namespace? : Option String}
    {members? : Option (List (String × Bool))} {fields : List Field}
    (h : fields.Perm (givenFields namespace? members?)) :
    (fields.Pairwise fun a b => a.entry.1 ≠ b.entry.1) ∧
    (fields.foldl Draft.take .empty).settings =
      ⟨namespace?.getD defaultNamespace, .ofList (members?.getD [])⟩ := by
  have hd : (givenFields namespace? members?).Pairwise fun a b => a.entry.1 ≠ b.entry.1 := by
    cases namespace? <;> cases members? <;> simp [givenFields, Field.entry]
  have hsymm : Std.Symm fun a b : Field => a.entry.1 ≠ b.entry.1 := ⟨fun _ _ hne => hne.symm⟩
  have hpairwise := (h.pairwise_iff fun {a b} hne => hsymm.symm a b hne).mpr hd
  refine ⟨hpairwise, ?_⟩
  have htaken : fields.foldl Draft.take .empty =
      (givenFields namespace? members?).foldl Draft.take .empty := by
    refine h.foldl_eq' ?_ Draft.empty
    intro a ha b hb draft
    by_cases he : a = b
    · rw [he]
    · exact draft.take_comm (hpairwise.forall ha hb he)
  rw [htaken]
  cases namespace? <;> cases members? <;> rfl

/-- Fields in any choice and order are read as their namespace and the last decision about each
collector, and written settings are read back. -/
theorem parse_written :
    (∀ (namespace? : Option String) (members? : Option (List (String × Bool)))
        (fields : List Field), fields.Perm (givenFields namespace? members?) →
      ∃ settings, parse (String.ofList (fieldsDocument fields)) = .ok settings ∧
        settings.metricNamespace = namespace?.getD "node" ∧
        (settings.overrides.entries.Pairwise fun a b => a.1 < b.1) ∧
        (∀ name enabled, (name, enabled) ∈ settings.overrides.entries ↔
          Overrides.LastGiven (members?.getD []) name enabled) ∧
        ∀ name byDefault,
          (name ∈ (members?.getD []).map Prod.fst →
            Overrides.LastGiven (members?.getD []) name (settings.isEnabled name byDefault)) ∧
          (name ∉ (members?.getD []).map Prod.fst →
            settings.isEnabled name byDefault = byDefault)) ∧
    (∀ metricNamespace members, document metricNamespace members =
      fieldsDocument (givenFields (some metricNamespace) (some members))) ∧
    ∀ settings : Settings, parse settings.write = .ok settings := by
  refine ⟨?_, document_eq, ?_⟩
  · intro namespace? members? fields hfields
    obtain ⟨hd, hs⟩ := settings_of_perm hfields
    refine ⟨_, (parse_fieldsDocument hd).trans (congrArg Except.ok hs), rfl,
      Overrides.ascending _, ?_, ?_⟩
    · intro name enabled
      rw [Overrides.mem_entries_iff, Overrides.find?_ofList_iff]
    · intro name byDefault
      constructor
      · intro hname
        obtain ⟨enabled, hlast⟩ := Overrides.exists_lastGiven hname
        rw [isEnabled, (Overrides.find?_ofList_iff _ name enabled).mpr hlast]
        exact hlast
      · intro hname
        rw [isEnabled, Overrides.find?_ofList_eq_none hname]
        rfl
  · intro settings
    obtain ⟨metricNamespace, overrides⟩ := settings
    obtain ⟨hd, hs⟩ := settings_of_perm
      (List.Perm.refl (givenFields (some metricNamespace) (some overrides.entries)))
    rw [write, document_eq, parse_fieldsDocument hd, hs]
    simp only [Option.getD_some, Overrides.ofList_entries]

/-- In a document with two decisions about one collector, and the namespace behind them, the
second decision holds. -/
theorem parse_written_twice_decided :
    let members := [("gpu", true), ("gpu", false)]
    let fields := [Field.collectors members, Field.metricNamespace "\"é\n"]
    fields.Perm (givenFields (some "\"é\n") (some members)) ∧
    ∃ settings, parse (String.ofList (fieldsDocument fields)) = .ok settings ∧
      settings.metricNamespace = "\"é\n" ∧ settings.isEnabled "gpu" true = false := by
  have hperm : [Field.collectors [("gpu", true), ("gpu", false)],
      Field.metricNamespace "\"é\n"].Perm
        (givenFields (some "\"é\n") (some [("gpu", true), ("gpu", false)])) :=
    List.Perm.swap _ _ []
  obtain ⟨settings, hparse, hnamespace, -, -, hdecided⟩ := parse_written.1 _ _ _ hperm
  refine ⟨hperm, settings, hparse, hnamespace, ?_⟩
  have hlast := (hdecided "gpu" true).1 (by simp)
  have hdecision :=
    (Overrides.lastGiven_append_singleton [("gpu", true)] ("gpu", false) "gpu" _).mp hlast
  exact hdecision.symm

end GpuTelemetry.Settings
