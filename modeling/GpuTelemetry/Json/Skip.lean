import GpuTelemetry.Json.Scan
import GpuTelemetry.Json.StringBody
import GpuTelemetry.Json.Numeral

/-!
# Skipped values

Values under keys that nobody reads are skipped: their grammar is checked, their content is not.
The open brackets are held on a stack, so that the depth of a value costs no recursion.
-/

namespace GpuTelemetry.Json

/-- An open bracket. -/
inductive Bracket where
  /-- Of a list. -/
  | list
  /-- Of an object. -/
  | object
  deriving DecidableEq, Repr

/-- The end of the document inside an open bracket. -/
def Bracket.unfinished : Bracket → Cause
  | .list => .endInList
  | .object => .endInObject

/-- Something behind a complete element that neither continues nor ends the bracket. -/
def Bracket.unseparated : Bracket → Cause
  | .list => .missingListSeparator
  | .object => .missingObjectSeparator

/-- The character that ends the bracket. -/
def Bracket.close : Bracket → Char
  | .list => ']'
  | .object => '\x7d'

/-- What is skipped next. -/
inductive Skipping where
  /-- A value, inside brackets that are open from the innermost on. -/
  | value (open_ : List Bracket)
  /-- What follows an element of the innermost bracket, or its first element if `fresh`. -/
  | inside (fresh : Bool) (innermost : Bracket) (outer : List Bracket)
  deriving DecidableEq, Repr

/-- Skips the key of an object member and its colon. -/
def skipKey (text : List Char) : Except Halt (List Char) :=
  match skipBlank text with
  | [] => .error (.ahead .endInObject [])
  | '"' :: rest => (skipStringBody rest).bind colon
  | rest => .error (.ahead .keyNotString rest)

/-- Goes on to the next element of a bracket. -/
def enterElement (bracket : Bracket) (outer : List Bracket) (text : List Char) :
    Except Halt (Option Skipping × List Char) :=
  match bracket with
  | .list => .ok (some (.value (.list :: outer)), text)
  | .object => (skipKey text).map fun rest => (some (.value (.object :: outer)), rest)

/-- What is skipped after a complete value. -/
def afterValue : List Bracket → Option Skipping
  | [] => none
  | innermost :: outer => some (.inside false innermost outer)

/-- Takes one value, bracket or separator; without a further state the value is complete. -/
def skipStep (state : Skipping) (text : List Char) :
    Except Halt (Option Skipping × List Char) :=
  match state with
  | .value brackets =>
    let scalar (skipped : Except Halt (List Char)) :=
      skipped.map fun rest => (afterValue brackets, rest)
    match skipBlank text with
    | [] => .error (.ahead .endInValue [])
    | 'n' :: rest => scalar (word "ull".toList rest)
    | 't' :: rest => scalar (word "rue".toList rest)
    | 'f' :: rest => scalar (word "alse".toList rest)
    | '-' :: rest => scalar (skipNumeral rest)
    | '"' :: rest => scalar (skipStringBody rest)
    | '[' :: rest => .ok (some (.inside true .list brackets), rest)
    | '\x7b' :: rest => .ok (some (.inside true .object brackets), rest)
    | c :: rest =>
      if c.isDigit then scalar (skipNumeral (c :: rest))
      else .error (.ahead .missingValue (c :: rest))
  | .inside fresh innermost outer =>
    match skipBlank text with
    | [] => .error (.ahead innermost.unfinished [])
    | c :: rest =>
      if c = innermost.close then .ok (afterValue outer, rest)
      else if fresh then enterElement innermost outer (c :: rest)
      else if c = ',' then enterElement innermost outer rest
      else .error (.ahead innermost.unseparated (c :: rest))

/-- Takes at most `steps` steps. -/
def skipSteps : (steps : Nat) → Skipping → List Char → Except Halt (List Char)
  | 0, _, text => .error (.here .missingValue text)
  | steps + 1, state, text =>
    match skipStep state text with
    | .error halt => .error halt
    | .ok (none, rest) => .ok rest
    | .ok (some state, rest) => skipSteps steps state rest

/-- Skips one value. Every second step uses up a character, which makes twice the length and one
more steps enough. -/
def skipValue (text : List Char) : Except Halt (List Char) :=
  skipSteps (2 * text.length + 2) (.value []) text

end GpuTelemetry.Json
