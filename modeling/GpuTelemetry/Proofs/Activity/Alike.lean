import GpuTelemetry.Proofs.Activity.Course
import Mathlib.Data.List.Basic

/-!
# Activities that are alike

Two activities are alike under a view of their steps if, whatever answers both get, they take steps
that look the same and end with related results. Against sinks that give the same answers to what
looks the same, they then leave the same view and related results.
-/

namespace GpuTelemetry

namespace Sink

variable {τ τ' : Type} [Sink τ] [Sink τ']

/-- The answers of a sink to samples that are offered in order. -/
def answers (sink : τ) : List Sample → List Bool
  | [] => []
  | s :: rest => (accept sink s).1 :: answers (accept sink s).2 rest

/-- Two sinks give the same answers, now and later, to samples that look the same. -/
def Agree (view : Step → Step) (sink : τ) (sink' : τ') : Prop :=
  ∀ ss ss' : List Sample, (ss.map Step.offered).map view = (ss'.map Step.offered).map view →
    answers sink ss = answers sink' ss'

variable {view : Step → Step} {sink : τ} {sink' : τ'}

/-- A sink agrees with itself if samples are not confused. -/
theorem Agree.refl (sink : τ) : Agree id sink sink := by
  intro ss ss' h
  rw [List.map_id, List.map_id] at h
  have hs : ss = ss' := by
    have hsamples := congrArg Step.samples h
    rwa [Step.samples_map_offered, Step.samples_map_offered] at hsamples
  rw [hs]

/-- Sinks that agree answer samples of one view alike. -/
theorem Agree.answer (h : Agree view sink sink') {s s' : Sample}
    (hv : view (.offered s) = view (.offered s')) : (accept sink s).1 = (accept sink' s').1 := by
  have ha := h [s] [s'] (congrArg (· :: []) hv)
  exact (List.cons.inj ha).1

/-- Sinks that agree still agree after samples that look the same. -/
theorem Agree.next (h : Agree view sink sink') {s s' : Sample}
    (hv : view (.offered s) = view (.offered s')) :
    Agree view (accept sink s).2 (accept sink' s').2 := by
  intro ss ss' hs
  have ha := h (s :: ss) (s' :: ss') (by
    rw [List.map_cons, List.map_cons, List.map_cons, List.map_cons, hv, hs])
  exact (List.cons.inj ha).2

end Sink

/-- A collected list accepts everything, whatever it looks like. -/
theorem Collected.agree (view : Step → Step) (sink sink' : Collected) :
    Sink.Agree view sink sink' := by
  have hall (sink : Collected) (ss : List Sample) :
      Sink.answers sink ss = ss.map fun _ => true := by
    induction ss generalizing sink with
    | nil => rfl
    | cons s rest ih => exact congrArg (true :: ·) (ih _)
  intro ss ss' h
  have hl : ss.length = ss'.length := by simpa only [List.length_map] using congrArg List.length h
  rw [hall, hall, List.map_const', List.map_const', hl]

namespace Activity

variable {α α' β β' τ τ' : Type}

/-- The activities take steps that look the same and end with related results, whatever answers
they get. -/
inductive Alike (view : Step → Step) (related : α → α' → Prop) :
    Activity α → Activity α' → Prop where
  /-- Both end. -/
  | done {result : α} {result' : α'} (h : related result result') :
      Alike view related (.done result) (.done result')
  /-- Both record an event. -/
  | record {event event' : Event} {rest : Activity α} {rest' : Activity α'}
      (hv : view (.recorded event) = view (.recorded event')) (h : Alike view related rest rest') :
      Alike view related (.record event rest) (.record event' rest')
  /-- Both offer a sample. -/
  | offer {sample sample' : Sample} {rest : Bool → Activity α} {rest' : Bool → Activity α'}
      (hv : view (.offered sample) = view (.offered sample'))
      (h : ∀ accepted, Alike view related (rest accepted) (rest' accepted)) :
      Alike view related (.offer sample rest) (.offer sample' rest')

namespace Alike

variable {view : Step → Step}

/-- An activity is like itself. -/
theorem refl {related : α → α → Prop} (hr : ∀ result, related result result) (a : Activity α) :
    Alike view related a a := by
  induction a with
  | done result => exact .done (hr result)
  | record event rest ih => exact .record rfl ih
  | offer sample rest ih => exact .offer rfl ih

/-- Activities that are alike, followed by activities that are alike for related results. -/
theorem bind {related : α → α' → Prop} {related' : β → β' → Prop} {a : Activity α}
    {a' : Activity α'} {next : α → Activity β} {next' : α' → Activity β'}
    (h : Alike view related a a')
    (hn : ∀ result result', related result result' →
      Alike view related' (next result) (next' result')) :
    Alike view related' (a.bind next) (a'.bind next') := by
  induction h with
  | done hr => exact hn _ _ hr
  | record hv _ ih => exact .record hv ih
  | offer hv _ ih => exact .offer hv ih

/-- Offering samples that look the same, one by one. -/
theorem emitAll {ss ss' : List Sample}
    (h : (ss.map Step.offered).map view = (ss'.map Step.offered).map view) :
    Alike view Eq (Activity.emitAll ss) (Activity.emitAll ss') := by
  induction ss generalizing ss' with
  | nil =>
    cases ss' with
    | nil => exact .done rfl
    | cons s' rest' => cases h
  | cons s rest ih =>
    cases ss' with
    | nil => cases h
    | cons s' rest' =>
      obtain ⟨hv, hr⟩ := List.cons.inj h
      refine .offer hv fun accepted => ?_
      cases accepted with
      | true => exact ih hr
      | false => exact .done rfl

/-- Performed against sinks that agree, activities that are alike leave related results and steps
that look the same. -/
theorem perform [Sink τ] [Sink τ'] {related : α → α' → Prop} {a : Activity α} {a' : Activity α'}
    (h : Alike view related a a') {sink : τ} {sink' : τ'} (hs : Sink.Agree view sink sink') :
    related (a.perform sink).result (a'.perform sink').result ∧
      (a.trace sink).map view = (a'.trace sink').map view := by
  induction h generalizing sink sink' with
  | done hr => exact ⟨hr, rfl⟩
  | record hv _ ih =>
    obtain ⟨hr, ht⟩ := ih hs
    exact ⟨hr, List.cons_eq_cons.mpr ⟨hv, ht⟩⟩
  | @offer s s' rest rest' hv _ ih =>
    obtain ⟨hr, ht⟩ := ih (Sink.accept sink s).1 (hs.next hv)
    rw [hs.answer hv] at hr ht
    simp only [Activity.perform, trace, List.map_cons, hv]
    rw [hs.answer hv]
    exact ⟨hr, congrArg _ ht⟩

/-- Activities that take the same steps leave the same trace, sink and log in one sink. -/
theorem perform_same [Sink τ] {related : α → α' → Prop} {a : Activity α} {a' : Activity α'}
    (h : Alike id related a a') (sink : τ) :
    related (a.perform sink).result (a'.perform sink).result ∧ a.trace sink = a'.trace sink ∧
      (a.perform sink).sink = (a'.perform sink).sink ∧
      (a.perform sink).log = (a'.perform sink).log := by
  obtain ⟨hr, ht⟩ := h.perform (Sink.Agree.refl sink)
  rw [List.map_id, List.map_id] at ht
  refine ⟨hr, ht, ?_, ?_⟩
  · rw [perform_sink, perform_sink, ht]
  · rw [perform_log, perform_log, ht]

end Alike

end Activity

end GpuTelemetry
