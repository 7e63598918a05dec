import GpuTelemetry.Json.Fault

/-!
# String bodies

The characters between the quotes of a JSON string. Reading and writing are inverse: a written
body, its closing quote and any further text read back as the text that was written and the
further text. A body that is only skipped is checked less: surrogates need not pair up.
-/

namespace GpuTelemetry.Json

/-- The value of a hexadecimal digit. -/
def hexValue? (c : Char) : Option Nat :=
  if '0' ≤ c ∧ c ≤ '9' then some (c.toNat - '0'.toNat)
  else if 'a' ≤ c ∧ c ≤ 'f' then some (c.toNat - 'a'.toNat + 10)
  else if 'A' ≤ c ∧ c ≤ 'F' then some (c.toNat - 'A'.toNat + 10)
  else none

/-- The character that a single letter behind a backslash stands for. -/
def simpleEscape? (c : Char) : Option Char :=
  match c with
  | '"' => some '"'
  | '\\' => some '\\'
  | '/' => some '/'
  | 'b' => some '\x08'
  | 'f' => some '\x0c'
  | 'n' => some '\n'
  | 'r' => some '\r'
  | 't' => some '\t'
  | _ => none

/-- Whether a code unit is the first half of a surrogate pair. -/
def isHighSurrogate (unit : Nat) : Bool := decide (0xD800 ≤ unit) && decide (unit ≤ 0xDBFF)

/-- Whether a code unit is the second half of a surrogate pair. -/
def isLowSurrogate (unit : Nat) : Bool := decide (0xDC00 ≤ unit) && decide (unit ≤ 0xDFFF)

/-- A result with a rest that is shorter than the text it was read from. -/
abbrev Shorter (α : Type) (text : List Char) :=
  Except Halt { step : α × List Char // step.2.length < text.length }

/-- Reads four hexadecimal digits. All four bytes count as read even if one is no digit, and the
whole text if there are fewer. -/
def fourDigits (text : List Char) : Shorter Nat text :=
  match text with
  | a :: b :: c :: d :: rest =>
    match hexValue? a, hexValue? b, hexValue? c, hexValue? d with
    | some a, some b, some c, some d =>
      .ok ⟨(((a * 16 + b) * 16 + c) * 16 + d, rest), by simp; omega⟩
    | _, _, _, _ => .error ⟨.invalidEscape, byteCount text - 4⟩
  | _ =>
    if byteCount text < 4 then .error (.here .endInString [])
    else .error ⟨.invalidEscape, byteCount text - 4⟩

/-- Reads the second half of a pair behind its first half. -/
def secondHalf (high : Nat) (text : List Char) : Shorter Char text :=
  match text with
  | [] => .error (.here .endInString [])
  | '\\' :: [] => .error (.here .endInString [])
  | '\\' :: 'u' :: rest =>
    match fourDigits rest with
    | .error halt => .error halt
    | .ok ⟨(low, rest'), shorter⟩ =>
      if isLowSurrogate low then
        .ok ⟨(Char.ofNat ((high - 0xD800) * 0x400 + (low - 0xDC00) + 0x10000), rest'),
          by simp at shorter ⊢; omega⟩
      else .error (.here .loneSurrogate rest')
  | '\\' :: rest => .error (.ahead .unfinishedSurrogate rest)
  | rest => .error (.ahead .unfinishedSurrogate rest)

/-- Reads an escape behind its backslash. -/
def escape (text : List Char) : Shorter Char text :=
  match text with
  | [] => .error (.here .endInString [])
  | 'u' :: rest =>
    match fourDigits rest with
    | .error halt => .error halt
    | .ok ⟨(unit, rest'), shorter⟩ =>
      if isLowSurrogate unit then .error (.here .loneSurrogate rest')
      else if isHighSurrogate unit then
        match secondHalf unit rest' with
        | .error halt => .error halt
        | .ok ⟨(c, rest''), shorter'⟩ => .ok ⟨(c, rest''), by simp at shorter shorter' ⊢; omega⟩
      else .ok ⟨(Char.ofNat unit, rest'), by simp at shorter ⊢; omega⟩
  | c :: rest =>
    match simpleEscape? c with
    | some c => .ok ⟨(c, rest), by simp⟩
    | none => .error (.ahead .invalidEscape (c :: rest))

/-- Reads a string body up to its closing quote, behind the characters `taken`, the last of them
first. A control character counts as read. -/
def stringBody (taken : List Char) (text : List Char) : Scan String :=
  match text with
  | [] => .error (.here .endInString [])
  | '"' :: rest => .ok (String.ofList taken.reverse, rest)
  | '\\' :: rest =>
    match escape rest with
    | .error halt => .error halt
    | .ok ⟨(c, rest'), _⟩ => stringBody (c :: taken) rest'
  | c :: rest =>
    if c.toNat < 0x20 then .error (.here .controlCharacter rest)
    else stringBody (c :: taken) rest
termination_by text.length
decreasing_by all_goals simp_all; try omega

/-- Skips an escape behind its backslash. -/
def skipEscape (text : List Char) : Shorter Unit text :=
  match text with
  | [] => .error (.here .endInString [])
  | 'u' :: rest =>
    match fourDigits rest with
    | .error halt => .error halt
    | .ok ⟨(_, rest'), shorter⟩ => .ok ⟨((), rest'), by simp at shorter ⊢; omega⟩
  | c :: rest =>
    if (simpleEscape? c).isSome then .ok ⟨((), rest), by simp⟩
    else .error (.ahead .invalidEscape (c :: rest))

/-- Skips a string body up to and with its closing quote. A control character does not count as
read. -/
def skipStringBody (text : List Char) : Except Halt (List Char) :=
  match text with
  | [] => .error (.here .endInString [])
  | '"' :: rest => .ok rest
  | '\\' :: rest =>
    match skipEscape rest with
    | .error halt => .error halt
    | .ok ⟨((), rest'), _⟩ => skipStringBody rest'
  | c :: rest =>
    if c.toNat < 0x20 then .error (.here .controlCharacter (c :: rest)) else skipStringBody rest
termination_by text.length
decreasing_by all_goals simp_all; try omega

/-- One character of a written body: quotes, backslashes and controls are escaped. -/
def writtenChar (c : Char) : List Char :=
  match c with
  | '"' => ['\\', '"']
  | '\\' => ['\\', '\\']
  | '\x08' => ['\\', 'b']
  | '\x0c' => ['\\', 'f']
  | '\n' => ['\\', 'n']
  | '\r' => ['\\', 'r']
  | '\t' => ['\\', 't']
  | c =>
    if c.toNat < 0x20 then
      '\\' :: 'u' :: '0' :: '0' :: Nat.digitChar (c.toNat / 16) :: [Nat.digitChar (c.toNat % 16)]
    else [c]

/-- A text as a JSON string. -/
def writeString (s : String) : List Char := '"' :: s.toList.flatMap writtenChar ++ ['"']

end GpuTelemetry.Json
