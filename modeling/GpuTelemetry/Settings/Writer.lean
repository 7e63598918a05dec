import GpuTelemetry.Settings.Basic
import GpuTelemetry.Json.StringBody

/-!
# Writing settings

The settings document of a namespace and a list of decisions, without blanks, the decisions in the
order in which they are given. Written settings list theirs by ascending name.
-/

namespace GpuTelemetry.Settings

open Json

/-- One member of the `collectors` object. -/
def writeMember (member : String × Bool) : List Char :=
  writeString member.1 ++ ':' :: (if member.2 then "true" else "false").toList

/-- The members of an object, with commas between them. -/
def writeMembers : List (String × Bool) → List Char
  | [] => []
  | [member] => writeMember member
  | member :: rest => writeMember member ++ ',' :: writeMembers rest

/-- The document with both fields. -/
def document (metricNamespace : String) (members : List (String × Bool)) : List Char :=
  "\x7b\"namespace\":".toList ++ writeString metricNamespace ++ ",\"collectors\":\x7b".toList ++
    writeMembers members ++ ['\x7d', '\x7d']

/-- The document of settings. -/
def write (settings : Settings) : String :=
  String.ofList (document settings.metricNamespace settings.overrides.entries)

end GpuTelemetry.Settings
