import GpuTelemetry.Settings.Basic
import GpuTelemetry.Json.Skip

/-!
# Reading settings

A settings document is a JSON object with the fields `namespace` and `collectors`, or a list of
their values in that order. Both may be missing; other fields are skipped; a field must not be
given twice, but within `collectors` the last decision for a name holds.
-/

namespace GpuTelemetry.Settings

open Json

/-- The fault of a value that is not of the wanted kind. Scalars are read to their end first,
lists and objects not. -/
def mismatch (wanted : String) (text : List Char) : Halt :=
  let found (shape : Shape) (rest : List Char) : Halt := .here (.unexpected shape wanted) rest
  let afterWord (shape : Shape) : Except Halt (List Char) → Halt
    | .ok rest => found shape rest
    | .error halt => halt
  let afterNumeral : Scan Shape → Halt
    | .ok (shape, rest) => found shape rest
    | .error halt => halt
  match text with
  | 'n' :: rest => afterWord .null (word "ull".toList rest)
  | 't' :: rest => afterWord (.boolean true) (word "rue".toList rest)
  | 'f' :: rest => afterWord (.boolean false) (word "alse".toList rest)
  | '-' :: rest => afterNumeral (numeral true rest)
  | '"' :: rest =>
    match stringBody [] rest with
    | .ok (value, rest) => found (.string value) rest
    | .error halt => halt
  | '[' :: _ => found .list text
  | '\x7b' :: _ => found .object text
  | [] => .ahead .missingValue []
  | c :: rest =>
    if c.isDigit then afterNumeral (numeral false (c :: rest))
    else .ahead .missingValue (c :: rest)

/-- Reads a string. -/
def readString (text : List Char) : Scan String :=
  match skipBlank text with
  | [] => .error (.ahead .endInValue [])
  | '"' :: rest => stringBody [] rest
  | rest => .error (mismatch "a string" rest)

/-- Reads a truth value. -/
def readBool (text : List Char) : Scan Bool :=
  match skipBlank text with
  | [] => .error (.ahead .endInValue [])
  | 't' :: rest => (word "rue".toList rest).map fun rest => (true, rest)
  | 'f' :: rest => (word "alse".toList rest).map fun rest => (false, rest)
  | rest => .error (mismatch "a boolean" rest)

/-- Reads the remaining members of the `collectors` object, at most `members` of them. -/
def readMembers : (members : Nat) → (first : Bool) → Overrides → List Char →
    Except Halt (Overrides × List Char)
  | 0, _, _, text => .error (.here .endInObject text)
  | members + 1, first, overrides, text => do
    match ← nextKey first text with
    | (.close, rest) => .ok (overrides, rest)
    | (.item, rest) =>
      let (name, rest) ← stringBody [] rest
      let rest ← colon rest
      let (enabled, rest) ← readBool rest
      readMembers members false (overrides.insert name enabled) rest

/-- Reads the `collectors` object. A member takes at least one character, so that there are fewer
members than characters. -/
def readOverrides (text : List Char) : Scan Overrides :=
  match skipBlank text with
  | [] => .error (.ahead .endInValue [])
  | '\x7b' :: rest => readMembers (rest.length + 1) true .empty rest
  | rest => .error (mismatch "a map" rest)

/-- The fields that have been read. -/
structure Draft where
  /-- The namespace, once it is given. -/
  metricNamespace : Option String
  /-- The overrides, once they are given. -/
  overrides : Option Overrides

/-- A document without fields. -/
def Draft.empty : Draft := ⟨none, none⟩

/-- The settings that a document stands for. -/
def Draft.settings (draft : Draft) : Settings :=
  ⟨draft.metricNamespace.getD defaultNamespace, draft.overrides.getD .empty⟩

/-- The fault of a field given a second time, noticed behind its key, or behind the object if it
ends right there. -/
def repeated (name : String) (text : List Char) : Halt :=
  match skipBlank text with
  | '\x7d' :: rest => .here (.repeatedField name) rest
  | rest => .here (.repeatedField name) rest

/-- Reads the value of one field into a draft. -/
def readField (name : String) (draft : Draft) (text : List Char) :
    Except Halt (Draft × List Char) :=
  if name = "namespace" then
    if draft.metricNamespace.isSome then .error (repeated name text)
    else do
      let rest ← colon text
      let (value, rest) ← readString rest
      .ok ({ draft with metricNamespace := some value }, rest)
  else if name = "collectors" then
    if draft.overrides.isSome then .error (repeated name text)
    else do
      let rest ← colon text
      let (value, rest) ← readOverrides rest
      .ok ({ draft with overrides := some value }, rest)
  else do
    let rest ← colon text
    let rest ← skipValue rest
    .ok (draft, rest)

/-- Reads the remaining fields of the document, at most `fields` of them. -/
def readFields : (fields : Nat) → (first : Bool) → Draft → List Char →
    Except Halt (Draft × List Char)
  | 0, _, _, text => .error (.here .endInObject text)
  | fields + 1, first, draft, text => do
    match ← nextKey first text with
    | (.close, rest) => .ok (draft, rest)
    | (.item, rest) =>
      let (name, rest) ← stringBody [] rest
      let (draft, rest) ← readField name draft rest
      readFields fields false draft rest

/-- Reads the document as a list of field values, behind its opening bracket. -/
def readPositions (text : List Char) : Except Halt (Draft × List Char) := do
  match ← nextElement true text with
  | (.close, rest) => .ok (.empty, rest)
  | (.item, rest) =>
    let (name, rest) ← readString rest
    match ← nextElement false rest with
    | (.close, rest) => .ok (⟨some name, none⟩, rest)
    | (.item, rest) =>
      let (overrides, rest) ← readOverrides rest
      let rest ← endList rest
      .ok (⟨some name, some overrides⟩, rest)

/-- Reads the document in either form. -/
def readDraft (text : List Char) : Scan Draft :=
  match skipBlank text with
  | [] => .error (.ahead .endInValue [])
  | '[' :: rest => readPositions rest
  | '\x7b' :: rest => readFields (rest.length + 1) true .empty rest
  | rest => .error (mismatch "struct ExporterConfig" rest)

/-- Reads a document that may be followed by blanks only. -/
def readDocument (text : List Char) : Except Halt Settings := do
  let (draft, rest) ← readDraft text
  match skipBlank rest with
  | [] => .ok draft.settings
  | rest => .error (.ahead .trailingCharacters rest)

/-- Reads a settings document. -/
def parse (document : String) : Except Fault Settings :=
  (readDocument document.toList).mapError fun halt => halt.locate document.toList

end GpuTelemetry.Settings
