import GpuTelemetry.Metric.Sample

/-!
# Sinks

A sink takes samples one by one and says of each whether it was accepted. A refusal means that
the consumer is gone; nothing keeps a sink from accepting again later. Three sinks are given: one
that keeps everything, one with a quota and one end of a channel.
-/

namespace GpuTelemetry

/-- A consumer of samples with the state `τ`. -/
class Sink (τ : Type) where
  /-- Offers a sample; tells whether it is accepted, and the state after it. -/
  accept : τ → Sample → Bool × τ

/-- A sink that keeps every sample. -/
structure Collected where
  /-- The samples so far, in order. -/
  samples : List Sample
  deriving DecidableEq, Repr

/-- A collected list without samples. -/
def Collected.empty : Collected := ⟨[]⟩

instance : Sink Collected where
  accept sink s := (true, ⟨sink.samples ++ [s]⟩)

/-- A sink that keeps a limited number of samples and refuses all further ones. -/
structure Quota where
  /-- How many samples are accepted in all. -/
  limit : Nat
  /-- The accepted samples, in order. -/
  samples : List Sample
  deriving DecidableEq, Repr

instance : Sink Quota where
  accept sink s :=
    if sink.samples.length < sink.limit then (true, { sink with samples := sink.samples ++ [s] })
    else (false, sink)

/-- The sending end of a channel. -/
structure Channel where
  /-- Whether the receiving end is still there. -/
  connected : Bool
  /-- The samples that have not been received. -/
  samples : List Sample
  deriving DecidableEq, Repr

/-- A fresh channel with both ends. -/
def Channel.empty : Channel := ⟨true, []⟩

instance : Sink Channel where
  accept sink s :=
    if sink.connected then (true, { sink with samples := sink.samples ++ [s] }) else (false, sink)

/-- Drops the receiving end together with what it has not received. -/
def Channel.disconnect (_ : Channel) : Channel := ⟨false, []⟩

/-- A sink of one of the three kinds. -/
inductive Outlet where
  /-- A collected list. -/
  | collected (sink : Collected)
  /-- A sink with a quota. -/
  | quota (sink : Quota)
  /-- A channel. -/
  | channel (sink : Channel)
  deriving DecidableEq, Repr

namespace Outlet

instance : Sink Outlet where
  accept
    | .collected sink, s => (Sink.accept sink s).map id .collected
    | .quota sink, s => (Sink.accept sink s).map id .quota
    | .channel sink, s => (Sink.accept sink s).map id .channel

/-- The samples that the outlet holds. -/
def samples : Outlet → List Sample
  | .collected sink => sink.samples
  | .quota sink => sink.samples
  | .channel sink => sink.samples

/-- Takes out the samples that the outlet holds. -/
def drain : Outlet → List Sample × Outlet
  | .collected sink => (sink.samples, .collected .empty)
  | .quota sink => (sink.samples, .quota ⟨sink.limit - sink.samples.length, []⟩)
  | .channel sink => (sink.samples, .channel { sink with samples := [] })

/-- Takes the consumer away, where the outlet has one that can go. -/
def close : Outlet → Outlet
  | .channel sink => .channel sink.disconnect
  | outlet => outlet

end Outlet

end GpuTelemetry
