import GpuTelemetry.Collector.Activity

/-!
# Collectors

A collector declares the metrics it may emit and emits them once per scrape. Its state may change
from scrape to scrape; what a scrape does is an activity, so that a collector knows nothing of the
sink but the answers it gets.
-/

namespace GpuTelemetry

/-- Collectors with the state `κ`. -/
class Collector (κ : Type) where
  /-- The metrics that may be emitted. -/
  descriptors : κ → List Descriptor
  /-- One scrape, with the state after it. -/
  update : κ → Activity (Except Failure Unit × κ)

/-- A collector of either of two kinds. -/
instance {κ κ' : Type} [Collector κ] [Collector κ'] : Collector (κ ⊕ κ') where
  descriptors
    | .inl collector => Collector.descriptors collector
    | .inr collector => Collector.descriptors collector
  update
    | .inl collector => (fun done => (done.1, .inl done.2)) <$> Collector.update collector
    | .inr collector => (fun done => (done.1, .inr done.2)) <$> Collector.update collector

end GpuTelemetry
