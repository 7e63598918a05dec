import GpuTelemetry.Exposition.Page
import GpuTelemetry.Vendor.Host

/-!
# About this library

What the library says of itself: its version and the collectors it can build.
-/

namespace GpuTelemetry

/-- The version of the library. -/
def version : String := "0.1.0"

/-- The collectors that can be built, in words. -/
def offeredCollectors : List String := Vendor.registrations.map Registration.describe

end GpuTelemetry
