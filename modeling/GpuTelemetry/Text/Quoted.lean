import GpuTelemetry.Text.Printable

/-!
# Quoted text

A text quoted for a message: in double quotes, with quotes, backslashes and the common controls
behind a backslash, and every other character that would not show written by its number.
-/

namespace GpuTelemetry.Text

/-- A character by its number in hexadecimal. -/
def numbered (c : Char) : List Char :=
  '\\' :: 'u' :: '\x7b' :: Nat.toDigits 16 c.toNat ++ ['\x7d']

/-- One character inside quotes. -/
def quotedChar (c : Char) : List Char :=
  match c with
  | '\x00' => ['\\', '0']
  | '\t' => ['\\', 't']
  | '\r' => ['\\', 'r']
  | '\n' => ['\\', 'n']
  | '\\' => ['\\', '\\']
  | '"' => ['\\', '"']
  | c => if isExtender c || isUnprintable c then numbered c else [c]

/-- The text between double quotes. -/
def quoted (s : String) : String :=
  String.ofList ('"' :: s.toList.flatMap quotedChar ++ ['"'])

/-- A bracketed list of quoted texts. -/
def quotedList (texts : List String) : String :=
  "[" ++ ", ".intercalate (texts.map quoted) ++ "]"

end GpuTelemetry.Text
