import GpuTelemetry.Json.Fault

/-!
# Small steps of JSON readers

Blanks, words and colons, and what may stand before the next element of a list or the next member
of an object. Readers that keep a value share these steps; the element or member itself is read
by the caller.
-/

namespace GpuTelemetry.Json

/-- Space, tab and the two line ends. -/
def isBlank (c : Char) : Bool := c == ' ' || c == '\t' || c == '\n' || c == '\r'

/-- The text behind its leading blanks. -/
def skipBlank (text : List Char) : List Char := text.dropWhile isBlank

/-- Reads the remaining letters of a word. -/
def word : (letters : List Char) → List Char → Except Halt (List Char)
  | [], text => .ok text
  | _ :: _, [] => .error (.here .endInValue [])
  | letter :: letters, c :: rest =>
    if c = letter then word letters rest else .error (.ahead .misspeltWord (c :: rest))

/-- Reads the colon behind a key. -/
def colon (text : List Char) : Except Halt (List Char) :=
  match skipBlank text with
  | ':' :: rest => .ok rest
  | [] => .error (.ahead .endInObject [])
  | rest => .error (.ahead .missingColon rest)

/-- What follows inside a list or an object. -/
inductive Next where
  /-- The end, already behind. -/
  | close
  /-- A further element, or a member whose key lies behind its opening quote. -/
  | item
  deriving DecidableEq, Repr

/-- Reads up to the next element of a list; `first` says that none has been read yet. -/
def nextElement (first : Bool) (text : List Char) : Scan Next :=
  match skipBlank text with
  | [] => .error (.ahead .endInList [])
  | ']' :: rest => .ok (.close, rest)
  | c :: rest =>
    if first then .ok (.item, c :: rest)
    else if c = ',' then
      match skipBlank rest with
      | [] => .error (.ahead .endInValue [])
      | ']' :: rest => .error (.ahead .trailingComma (']' :: rest))
      | rest => .ok (.item, rest)
    else .error (.ahead .missingListSeparator (c :: rest))

/-- Reads up to the next key of an object; `first` says that none has been read yet. -/
def nextKey (first : Bool) (text : List Char) : Scan Next :=
  match skipBlank text with
  | [] => .error (.ahead .endInObject [])
  | '\x7d' :: rest => .ok (.close, rest)
  | c :: rest =>
    if first then
      if c = '"' then .ok (.item, rest) else .error (.ahead .keyNotString (c :: rest))
    else if c = ',' then
      match skipBlank rest with
      | [] => .error (.ahead .endInValue [])
      | '"' :: rest => .ok (.item, rest)
      | '\x7d' :: rest => .error (.ahead .trailingComma ('\x7d' :: rest))
      | rest => .error (.ahead .keyNotString rest)
    else .error (.ahead .missingObjectSeparator (c :: rest))

/-- Reads the end of a list that has all the elements it may have. -/
def endList (text : List Char) : Except Halt (List Char) :=
  match skipBlank text with
  | [] => .error (.ahead .endInList [])
  | ']' :: rest => .ok rest
  | ',' :: rest =>
    match skipBlank rest with
    | ']' :: rest => .error (.ahead .trailingComma (']' :: rest))
    | rest => .error (.ahead .trailingCharacters rest)
  | rest => .error (.ahead .trailingCharacters rest)

end GpuTelemetry.Json
