/-!
# Escapes of the exposition format

Help texts and label values end at a line end or a quote, so these characters and the backslash
are written with a backslash in front. The help escapes less than a label value, which also ends
at a quote.
-/

namespace GpuTelemetry.Exposition

/-- One character of a help text. -/
def helpChar (c : Char) : List Char :=
  match c with
  | '\\' => ['\\', '\\']
  | '\n' => ['\\', 'n']
  | c => [c]

/-- One character of a label value. -/
def labelChar (c : Char) : List Char :=
  match c with
  | '"' => ['\\', '"']
  | c => helpChar c

/-- A help text on one line. -/
def escapeHelp (s : String) : String := String.ofList (s.toList.flatMap helpChar)

/-- A label value between quotes. -/
def escapeLabel (s : String) : String := String.ofList (s.toList.flatMap labelChar)

end GpuTelemetry.Exposition
