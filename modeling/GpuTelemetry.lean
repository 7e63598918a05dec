import GpuTelemetry.About
import GpuTelemetry.Binary64
import GpuTelemetry.Collector.Activity
import GpuTelemetry.Collector.Basic
import GpuTelemetry.Collector.Playback
import GpuTelemetry.Decimal.Shortest
import GpuTelemetry.Decimal.Style
import GpuTelemetry.Device.Basic
import GpuTelemetry.Device.Bench
import GpuTelemetry.Exposition.Escape
import GpuTelemetry.Exposition.Message
import GpuTelemetry.Exposition.Page
import GpuTelemetry.Failure
import GpuTelemetry.Gpu.Collector
import GpuTelemetry.Gpu.Quantity
import GpuTelemetry.Json.Fault
import GpuTelemetry.Json.Numeral
import GpuTelemetry.Json.Scan
import GpuTelemetry.Json.Skip
import GpuTelemetry.Json.StringBody
import GpuTelemetry.Log
import GpuTelemetry.Metric.Descriptor
import GpuTelemetry.Metric.Family
import GpuTelemetry.Metric.Sample
import GpuTelemetry.Metric.Sink
import GpuTelemetry.Proofs.Activity.Alike
import GpuTelemetry.Proofs.Activity.Course
import GpuTelemetry.Proofs.Activity.Refusal
import GpuTelemetry.Proofs.Exposition.Lines
import GpuTelemetry.Proofs.Exposition.Pages
import GpuTelemetry.Proofs.Exposition.Reader
import GpuTelemetry.Proofs.Gpu.Account
import GpuTelemetry.Proofs.Gpu.Figures
import GpuTelemetry.Proofs.Gpu.Log
import GpuTelemetry.Proofs.Gpu.Naming
import GpuTelemetry.Proofs.Gpu.Readings
import GpuTelemetry.Proofs.Gpu.Update
import GpuTelemetry.Proofs.Json.Strings
import GpuTelemetry.Proofs.Metric.Entries
import GpuTelemetry.Proofs.Metric.Grammar
import GpuTelemetry.Proofs.Metric.Grouping
import GpuTelemetry.Proofs.Metric.Labels
import GpuTelemetry.Proofs.Metric.Namespaces
import GpuTelemetry.Proofs.Metric.Partition
import GpuTelemetry.Proofs.Metric.Wording
import GpuTelemetry.Proofs.Number.Digits
import GpuTelemetry.Proofs.Number.Rounding
import GpuTelemetry.Proofs.Roster.Alike
import GpuTelemetry.Proofs.Roster.Construction
import GpuTelemetry.Proofs.Roster.Course
import GpuTelemetry.Proofs.Roster.Declared
import GpuTelemetry.Proofs.Roster.Frames
import GpuTelemetry.Proofs.Roster.Interruption
import GpuTelemetry.Proofs.Roster.Isolation
import GpuTelemetry.Proofs.Roster.Names
import GpuTelemetry.Proofs.Roster.Namespaces
import GpuTelemetry.Proofs.Roster.Reach
import GpuTelemetry.Proofs.Roster.Report
import GpuTelemetry.Proofs.Roster.Series
import GpuTelemetry.Proofs.Serving.Agreement
import GpuTelemetry.Proofs.Serving.Arrangement
import GpuTelemetry.Proofs.Serving.Order
import GpuTelemetry.Proofs.Serving.Pages
import GpuTelemetry.Proofs.Serving.Reached
import GpuTelemetry.Proofs.Serving.Registering
import GpuTelemetry.Proofs.Serving.Uniqueness
import GpuTelemetry.Proofs.Settings.Documents
import GpuTelemetry.Proofs.Settings.Overrides
import GpuTelemetry.Proofs.Text.Utf8
import GpuTelemetry.Proofs.Vendor.Ledger
import GpuTelemetry.Proofs.Vendor.Reenactment
import GpuTelemetry.Roster.Basic
import GpuTelemetry.Roster.Build
import GpuTelemetry.Roster.Scrape
import GpuTelemetry.Roster.Session
import GpuTelemetry.Roster.Startup
import GpuTelemetry.Serving.Registry
import GpuTelemetry.Settings.Basic
import GpuTelemetry.Settings.Reader
import GpuTelemetry.Settings.Writer
import GpuTelemetry.Text.Digest
import GpuTelemetry.Text.Printable
import GpuTelemetry.Text.Quoted
import GpuTelemetry.Text.Utf8
import GpuTelemetry.Vendor.Bench
import GpuTelemetry.Vendor.Host
import GpuTelemetry.Vendor.Script
import GpuTelemetry.Vendor.Trouble
