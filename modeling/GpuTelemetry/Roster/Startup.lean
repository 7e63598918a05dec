import GpuTelemetry.Roster.Build
import GpuTelemetry.Settings.Reader

/-!
# Starting a roster

A program starts with the text of a settings document, or with none. Without a document the
default settings hold; a document that cannot be read keeps everything from being built, so that
it leaves no log and changes nothing.
-/

namespace GpuTelemetry

/-- The settings of a document, or the default ones if there is no document. -/
def Settings.ofDocument (document : Option String) : Except Failure Settings :=
  match document with
  | none => .ok .default
  | some document => (Settings.parse document).mapError .settings

/-- Builds the roster that a document asks for. -/
def Roster.start {ω κ : Type} (document : Option String) (registrations : List (Registration ω κ))
    (world : ω) : Built Failure ω (Roster κ) :=
  match Settings.ofDocument document with
  | .error failure => ⟨.error failure, [], world⟩
  | .ok settings => Roster.build settings registrations world

end GpuTelemetry
