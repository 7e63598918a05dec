import GpuTelemetry.Exposition.Page
import GpuTelemetry.Text.Utf8

/-!
# Messages about families

The one-line form in which a family appears in the complaint that it cannot be written, and the
writing of families that either succeeds or complains. Only fields that are set appear; texts are
written in ASCII, every other byte as three octal digits.
-/

namespace GpuTelemetry.Exposition

/-- A byte as a backslash and three octal digits. -/
def octal (byte : UInt8) : List Char :=
  let n := byte.toNat
  ['\\', Nat.digitChar (n / 64), Nat.digitChar (n / 8 % 8), Nat.digitChar (n % 8)]

/-- One byte of a text in a message. -/
def messageByte (byte : UInt8) : List Char :=
  match Char.ofNat byte.toNat with
  | '\n' => ['\\', 'n']
  | '\r' => ['\\', 'r']
  | '\t' => ['\\', 't']
  | '\'' => ['\\', '\'']
  | '"' => ['\\', '"']
  | '\\' => ['\\', '\\']
  | c => if 0x20 ≤ byte.toNat ∧ byte.toNat ≤ 0x7E then [c] else octal byte

/-- A text in a message. -/
def messageText (s : String) : String :=
  "\"" ++ String.ofList ((Utf8.encode s).flatMap messageByte) ++ "\""

/-- A group of fields in braces. -/
def messageGroup (name : String) (fields : List String) : String :=
  name ++ " \x7b" ++ " ".intercalate fields ++ "\x7d"

/-- The type of a family in a message. -/
def messageKind : MetricKind → String
  | .gauge => "GAUGE"
  | .counter => "COUNTER"

/-- A metric in a message. -/
def MetricMessage.describe (kind : MetricKind) (m : MetricMessage) : String :=
  let label (pair : String × String) :=
    messageGroup "label" ["name: " ++ messageText pair.1, "value: " ++ messageText pair.2]
  let value := messageGroup (kindWord kind) ["value: " ++ m.value.render valueStyle]
  let time :=
    match m.timestamp with
    | none => []
    | some time => ["timestamp_ms: " ++ toString time]
  messageGroup "metric" (m.labels.map label ++ value :: time)

/-- A family in a message. -/
def FamilyMessage.describe (f : FamilyMessage) : String :=
  let field (name : String) (value : Option String) :=
    match value with
    | none => []
    | some value => [name ++ ": " ++ messageText value]
  " ".intercalate (field "name" f.name ++ field "help" f.help ++
    ["type: " ++ messageKind f.kind] ++ f.metrics.map (MetricMessage.describe f.kind))

/-- The lines of a family, or the complaint that it has no metrics or no name. -/
def writeFamily (f : FamilyMessage) : Except ServingError String :=
  if f.metrics.isEmpty then .error (.refused ("MetricFamily has no metrics: " ++ f.describe))
  else if f.name.getD "" = "" then .error (.refused ("MetricFamily has no name: " ++ f.describe))
  else .ok (familyText (f.name.getD "") (f.help.getD "") f.kind f.metrics)

/-- The page of family messages: all their lines in order, or the first complaint. -/
def writePage (families : List FamilyMessage) : Except Failure String :=
  match families.mapM writeFamily with
  | .ok texts => .ok (String.join texts)
  | .error cause => .error (.serving cause)

/-- The page of families. -/
def writeFamilies (families : List Family) : Except Failure String :=
  writePage (families.map .ofFamily)

/-- The page of samples, one family for each metric name. -/
def writeSamples (samples : List Sample) : Except Failure String :=
  writeFamilies (Family.group samples)

end GpuTelemetry.Exposition
