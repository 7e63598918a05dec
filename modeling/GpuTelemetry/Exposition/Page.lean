import GpuTelemetry.Decimal.Style
import GpuTelemetry.Exposition.Escape
import GpuTelemetry.Metric.Family

/-!
# Exposition pages

The text format in which families are served: for each family its help, its type and one line for
each metric. A family message may leave fields unset, as it may arrive from elsewhere; one without
metrics or without a name cannot be written, and then nothing is.
-/

namespace GpuTelemetry.Exposition

/-- The media type of a page. -/
def contentType : String := "text/plain; version=0.0.4"

/-- Sample values are written in full, without exponent, fraction of zero or rounding. -/
def valueStyle : NumberStyle := ⟨.away, "", none⟩

/-- A metric as it is handed to the page writer. -/
structure MetricMessage where
  /-- Label names with their values. -/
  labels : List (String × String)
  /-- The value. -/
  value : Binary64
  /-- The time of the value in milliseconds, if it is set. -/
  timestamp : Option Int
  deriving DecidableEq, Repr

/-- A family as it is handed to the page writer. -/
structure FamilyMessage where
  /-- The name, if it is set. -/
  name : Option String
  /-- The help, if it is set. -/
  help : Option String
  /-- How the values move. -/
  kind : MetricKind
  /-- The metrics. -/
  metrics : List MetricMessage
  deriving DecidableEq, Repr

/-- A metric without a time. -/
def MetricMessage.ofMetric (m : Metric) : MetricMessage := ⟨m.labels, m.value, none⟩

/-- A family with all its fields set. -/
def FamilyMessage.ofFamily (f : Family) : FamilyMessage :=
  ⟨some f.name, some f.help, f.kind, f.metrics.map .ofMetric⟩

/-- The type word of a kind. -/
def kindWord : MetricKind → String
  | .gauge => "gauge"
  | .counter => "counter"

/-- Labels in braces, or nothing without labels. -/
def labelText (labels : List (String × String)) : String :=
  match labels with
  | [] => ""
  | labels =>
    let pair (label : String × String) := label.1 ++ "=\"" ++ escapeLabel label.2 ++ "\""
    "\x7b" ++ ",".intercalate (labels.map pair) ++ "\x7d"

/-- The line of one metric; a time of zero is not written. -/
def metricLine (name : String) (m : MetricMessage) : String :=
  let time :=
    match m.timestamp with
    | none => ""
    | some time => if time = 0 then "" else " " ++ toString time
  name ++ labelText m.labels ++ " " ++ m.value.render valueStyle ++ time ++ "\n"

/-- The help line, or nothing without help. -/
def helpLine (name help : String) : String :=
  if help = "" then "" else "# HELP " ++ name ++ " " ++ escapeHelp help ++ "\n"

/-- The lines of one family. -/
def familyText (name help : String) (kind : MetricKind) (metrics : List MetricMessage) : String :=
  helpLine name help ++ "# TYPE " ++ name ++ " " ++ kindWord kind ++ "\n" ++
    String.join (metrics.map (metricLine name))

end GpuTelemetry.Exposition
