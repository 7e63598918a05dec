import GpuTelemetry.Decimal.Style
import GpuTelemetry.Text.Quoted

/-!
# Faults of JSON documents

A reader stops at the first fault. Where it stops is counted in bytes not yet read, so that
readers need not carry a position; the line and column follow from the whole document. Some
faults are seen by looking at the next byte and are placed behind it, the others where reading
stands.
-/

namespace GpuTelemetry.Json

/-- Numbers in fault messages: positional if the leading digit lies between the fifth decimal and
the sixteenth place before the point. -/
def floatingStyle : NumberStyle := ⟨.even, ".0", some (-5, 15)⟩

/-- A value as far as a reader that wanted another kind of value looks at it. -/
inductive Shape where
  /-- The null value. -/
  | null
  /-- A truth value. -/
  | boolean (value : Bool)
  /-- A number that fits 64 bits, signed if it is negative. -/
  | integer (value : Int)
  /-- Any other number. -/
  | floating (value : Binary64)
  /-- A string. -/
  | string (value : String)
  /-- A list, whose elements are not looked at. -/
  | list
  /-- An object, whose members are not looked at. -/
  | object
  deriving DecidableEq, Repr

/-- The wording of a shape. -/
def Shape.describe : Shape → String
  | .null => "null"
  | .boolean value => "boolean `" ++ (if value then "true" else "false") ++ "`"
  | .integer value => "integer `" ++ toString value ++ "`"
  | .floating value => "floating point `" ++ value.render floatingStyle ++ "`"
  | .string value => "string " ++ Text.quoted value
  | .list => "sequence"
  | .object => "map"

/-- What is wrong with a document. -/
inductive Cause where
  /-- The document ends inside a list. -/
  | endInList
  /-- The document ends inside an object. -/
  | endInObject
  /-- The document ends inside a string. -/
  | endInString
  /-- The document ends where a value should start or go on. -/
  | endInValue
  /-- A key is not followed by a colon. -/
  | missingColon
  /-- A list element is followed by neither a comma nor the end of the list. -/
  | missingListSeparator
  /-- An object member is followed by neither a comma nor the end of the object. -/
  | missingObjectSeparator
  /-- One of the three words is misspelt. -/
  | misspeltWord
  /-- A byte that begins no value. -/
  | missingValue
  /-- A backslash sequence that does not exist. -/
  | invalidEscape
  /-- A number that breaks the grammar. -/
  | invalidNumber
  /-- A number beyond the greatest floating-point number. -/
  | numberOutOfRange
  /-- A control character inside a string. -/
  | controlCharacter
  /-- Half of a surrogate pair. -/
  | loneSurrogate
  /-- A high surrogate that no second escape follows. -/
  | unfinishedSurrogate
  /-- An object key that is not a string. -/
  | keyNotString
  /-- A comma with nothing behind it. -/
  | trailingComma
  /-- Something behind the end of the document or of a complete list. -/
  | trailingCharacters
  /-- A value of the wrong kind. -/
  | unexpected (found : Shape) (wanted : String)
  /-- A field that was given before. -/
  | repeatedField (name : String)
  deriving DecidableEq, Repr

/-- The wording of a cause. -/
def Cause.message : Cause → String
  | .endInList => "EOF while parsing a list"
  | .endInObject => "EOF while parsing an object"
  | .endInString => "EOF while parsing a string"
  | .endInValue => "EOF while parsing a value"
  | .missingColon => "expected `:`"
  | .missingListSeparator => "expected `,` or `]`"
  | .missingObjectSeparator => "expected `,` or `\x7d`"
  | .misspeltWord => "expected ident"
  | .missingValue => "expected value"
  | .invalidEscape => "invalid escape"
  | .invalidNumber => "invalid number"
  | .numberOutOfRange => "number out of range"
  | .controlCharacter => "control character (\\u0000-\\u001F) found while parsing a string"
  | .loneSurrogate => "lone leading surrogate in hex escape"
  | .unfinishedSurrogate => "unexpected end of hex escape"
  | .keyNotString => "key must be a string"
  | .trailingComma => "trailing comma"
  | .trailingCharacters => "trailing characters"
  | .unexpected found wanted => "invalid type: " ++ found.describe ++ ", expected " ++ wanted
  | .repeatedField name => "duplicate field `" ++ name ++ "`"

/-- How many bytes the characters take in UTF-8. -/
def byteCount : List Char → Nat
  | [] => 0
  | c :: rest => c.utf8Size + byteCount rest

/-- A cause and the place where it was met, as the number of bytes behind that place. -/
structure Halt where
  /-- What is wrong. -/
  cause : Cause
  /-- How many bytes of the document lie behind the place. -/
  unread : Nat
  deriving DecidableEq, Repr

/-- A fault where reading stands. -/
def Halt.here (cause : Cause) (rest : List Char) : Halt := ⟨cause, byteCount rest⟩

/-- A fault in the next byte, placed behind it, or at the end if there is none. -/
def Halt.ahead (cause : Cause) (rest : List Char) : Halt := ⟨cause, byteCount rest - 1⟩

/-- What a step of reading gives: a result and the text behind it, or the place where it fails. -/
abbrev Scan (α : Type) := Except Halt (α × List Char)

/-- A cause with its line and column: lines from one, columns in bytes behind the last line end. -/
structure Fault where
  /-- What is wrong. -/
  cause : Cause
  /-- The line, from one on. -/
  line : Nat
  /-- The number of bytes between the start of the line and the place. -/
  column : Nat
  deriving DecidableEq, Repr

/-- The wording of a fault. -/
def Fault.message (fault : Fault) : String :=
  fault.cause.message ++ " at line " ++ toString fault.line ++ " column " ++ toString fault.column

/-- Walks `budget` bytes on from a line and a column. -/
def walk (line column budget : Nat) : List Char → Nat × Nat
  | [] => (line, column)
  | c :: rest =>
    if budget = 0 then (line, column)
    else if c = '\n' then walk (line + 1) 0 (budget - 1) rest
    else walk line (column + min c.utf8Size budget) (budget - c.utf8Size) rest

/-- The fault of a document in which reading halted. -/
def Halt.locate (halt : Halt) (document : List Char) : Fault :=
  let place := walk 1 0 (byteCount document - halt.unread) document
  ⟨halt.cause, place.1, place.2⟩

end GpuTelemetry.Json
