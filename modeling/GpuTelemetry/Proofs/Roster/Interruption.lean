import GpuTelemetry.Proofs.Roster.Course

/-!
# Interrupted scrapes

A scrape over GPU collectors is compared with the one that a list collects. Whatever the sink, it
offers the same samples in the same order up to the first refusal, and no more; the members behind
the one that was at work are not run. The log is the one collected up to that point, with a last
event about the consumer if the refused sample came from an update. A quota is refused behind its
first samples, and clocks change time spans only.
-/

namespace GpuTelemetry

/-- The occurrence with its time span left out. -/
def Occurrence.untimed : Occurrence → Occurrence
  | .collectorSucceeded collector _ => .collectorSucceeded collector (.zero false)
  | .collectorFailed collector _ error => .collectorFailed collector (.zero false) error
  | occurrence => occurrence

/-- The step with time spans left out: in events, and in samples of the given metric. -/
def Step.untimed (duration : Descriptor) : Step → Step
  | .recorded event => .recorded { event with occurrence := event.occurrence.untimed }
  | .offered sample =>
    if sample.descriptor = duration then .offered { sample with value := .zero false }
    else .offered sample

/-- A sink with a quota ends with what it had and as many of the samples of a course as fit. -/
theorem Quota.samples_receive (limit : Nat) (kept : List Sample) (steps : List Step) :
    (Sink.receive (⟨limit, kept⟩ : Quota) steps).sink.samples =
      kept ++ (Step.samples steps).take (limit - kept.length) := by
  induction steps generalizing kept with
  | nil => simp
  | cons step rest ih =>
    cases step with
    | recorded e => exact ih kept
    | offered s =>
      by_cases hroom : kept.length < limit
      · have ha : Sink.accept (⟨limit, kept⟩ : Quota) s = (true, ⟨limit, kept ++ [s]⟩) :=
          if_pos hroom
        have hl : limit - kept.length = (limit - (kept.length + 1)) + 1 := by omega
        rw [Sink.receive_of_accept (by rw [ha]), ha, ih, Step.samples_offered, hl]
        simp only [List.length_append, List.length_singleton, List.take_succ_cons,
          List.append_assoc, List.singleton_append]
      · have hr : Sink.accept (⟨limit, kept⟩ : Quota) s = (false, ⟨limit, kept⟩) :=
          if_neg hroom
        have hl : limit - kept.length = 0 := by omega
        rw [Sink.receive_of_refuse (by rw [hr]), hr, hl, List.take_zero, List.append_nil]

namespace Roster

variable {L τ : Type} [DeviceLibrary L]

omit [DeviceLibrary L] in
/-- Closing a member shows its duration in time spans and nowhere else. -/
theorem closing_untimed {κ : Type} (roster : Roster κ) (duration duration' : Binary64)
    (name : String) (result : Except Failure Unit) :
    (roster.closing duration name result).map (Step.untimed roster.duration.1) =
      (roster.closing duration' name result).map (Step.untimed roster.duration.1) := by
  cases result <;>
    simp [closing, outcomeEvent, Event.unspanned, memberSample, Sample.ofLabelled, Step.untimed,
      Occurrence.untimed]

/-- Two clocks differ in the time spans of a course and in nothing else. -/
theorem membersCourse_untimed (roster : Roster (GpuCollector L)) (clock clock' : Clock)
    (position : Nat) (members : List (Member (GpuCollector L))) :
    (roster.membersCourse clock position members).map (Step.untimed roster.duration.1) =
      (roster.membersCourse clock' position members).map (Step.untimed roster.duration.1) := by
  induction members generalizing position with
  | nil => rfl
  | cons member rest ih =>
    simp only [membersCourse, List.map_append, ih (position + 1)]
    rw [roster.closing_untimed (clock position) (clock' position)]

/-- Where in the work on a member a refused sample stands: inside the update, which is recorded,
or among the two samples behind it. -/
def StopsIn (roster : Roster (GpuCollector L)) (duration : Binary64)
    (member : Member (GpuCollector L)) (part : List Step) (s : Sample)
    (recorded : List Event) : Prop :=
  let update := Collector.update member.collector
  let own := update.trace Collected.empty
  (part ++ [.offered s] <+: own ∧ recorded = [abandoned member]) ∨
  (∃ behind, part = own ++ behind ∧
    behind ++ [.offered s] <+:
      roster.closing duration member.name (update.perform Collected.empty).result.1 ∧
    recorded = [])

section Stop

variable [Sink τ] (roster : Roster (GpuCollector L)) (clock : Clock) (position : Nat)

/-- Running members ends with a refused sample: those behind the one at work stay as they were,
and the steps are those received. -/
def StopsAt (members : List (Member (GpuCollector L))) (sink : τ) (s : Sample) : Prop :=
  ∃ finished member waiting part recorded,
    members = finished ++ member :: waiting ∧
    ((roster.runMembers clock position members).perform sink).result =
      (.error .sinkClosed, finished.map Member.counted ++ member.counted :: waiting) ∧
    (Sink.receive sink (roster.membersCourse clock position members)).steps =
      roster.membersCourse clock position finished ++ (part ++ [.offered s]) ∧
    (roster.runMembers clock position members).trace sink =
      roster.membersCourse clock position finished ++ (part ++ [.offered s]) ++
        recorded.map .recorded ∧
    roster.StopsIn (clock (position + finished.length)) member part s recorded

variable (member : Member (GpuCollector L)) (rest : List (Member (GpuCollector L)))

/-- Members stop at a sample that is refused inside the update of the first. -/
theorem stopsAt_of_update_refused {sink : τ} {s : Sample}
    (h : (Sink.receive sink member.collector.updateCourse).refused = some s) :
    roster.StopsAt clock position (member :: rest) sink s := by
  obtain ⟨hresult, htrace⟩ := roster.runMembers_of_update_refused clock position member rest h
  obtain ⟨part, tail, -, hsteps, -, -⟩ := Sink.receive_refused_eq_some h
  have hpart := Sink.receive_isPrefix sink member.collector.updateCourse
  rw [hsteps] at htrace hpart
  refine ⟨[], member, rest, part, [abandoned member], rfl, hresult, ?_,
    htrace, ?_⟩
  · rw [membersCourse_cons, Sink.receive_append_of_refused h, hsteps]
    rfl
  · rw [StopsIn, GpuCollector.trace_update_empty]
    exact Or.inl ⟨hpart, rfl⟩

/-- Members stop at the duration or the success of the first if it is refused. -/
theorem stopsAt_of_close_refused {sink : τ} {s : Sample}
    (ha : Sink.Accepts sink (Step.samples member.collector.updateCourse))
    (h : (Sink.receive (Sink.after sink (Step.samples member.collector.updateCourse))
      (roster.closing (clock position) member.name member.collector.updateResult)).refused =
        some s) :
    roster.StopsAt clock position (member :: rest) sink s := by
  obtain ⟨hresult, htrace⟩ := roster.runMembers_of_close_refused clock position member rest ha h
  obtain ⟨behind, tail, -, hsteps, -, -⟩ := Sink.receive_refused_eq_some h
  have hpart := Sink.receive_isPrefix
    (Sink.after sink (Step.samples member.collector.updateCourse))
    (roster.closing (clock position) member.name member.collector.updateResult)
  rw [hsteps] at htrace hpart
  rw [← List.append_assoc] at htrace
  refine ⟨[], member, rest, member.collector.updateCourse ++ behind, [], rfl, hresult, ?_, ?_, ?_⟩
  · rw [membersCourse_cons, Sink.receive_append_of_accepts ha]
    dsimp only
    rw [Sink.receive_append_of_refused h, hsteps, ← List.append_assoc]
    rfl
  · rw [htrace, List.map_nil, List.append_nil]
    rfl
  · rw [StopsIn, GpuCollector.trace_update_empty, GpuCollector.result_update_empty]
    exact Or.inr ⟨behind, rfl, hpart, rfl⟩

/-- Members stop where those behind the first do if nothing of the first is refused. -/
theorem stopsAt_of_accepted {sink : τ} {s : Sample}
    (ha : Sink.Accepts sink (Step.samples member.collector.updateCourse))
    (hc : Sink.Accepts (Sink.after sink (Step.samples member.collector.updateCourse))
      (Step.samples (roster.closing (clock position) member.name member.collector.updateResult)))
    (h : roster.StopsAt clock (position + 1) rest
      (Sink.after (Sink.after sink (Step.samples member.collector.updateCourse))
        (Step.samples (roster.closing (clock position) member.name
          member.collector.updateResult))) s) :
    roster.StopsAt clock position (member :: rest) sink s := by
  obtain ⟨hresult, htrace⟩ := roster.runMembers_of_accepted clock position member rest ha hc
  obtain ⟨finished, other, waiting, part, recorded, hm, hr, hs, ht, hd⟩ := h
  refine ⟨member :: finished, other, waiting, part, recorded, congrArg _ hm, ?_, ?_, ?_, ?_⟩
  · rw [hresult, hr]
    rfl
  · rw [membersCourse_cons, Sink.receive_append_of_accepts ha]
    dsimp only
    rw [Sink.receive_append_of_accepts hc]
    dsimp only
    rw [hs, membersCourse_cons]
    simp only [List.append_assoc]
  · rw [htrace, ht, membersCourse_cons]
    simp only [List.append_assoc]
  · rw [List.length_cons, Nat.add_comm finished.length, ← Nat.add_assoc]
    exact hd

/-- Members run as far as the sink receives their course and stop at the first refusal. -/
theorem stopsAt_of_refused (members : List (Member (GpuCollector L))) {sink : τ} {s : Sample}
    (h : (Sink.receive sink (roster.membersCourse clock position members)).refused = some s) :
    roster.StopsAt clock position members sink s := by
  induction members generalizing position sink with
  | nil => cases h
  | cons member rest ih =>
    rw [membersCourse_cons] at h
    cases hown : (Sink.receive sink member.collector.updateCourse).refused with
    | some t =>
      rw [Sink.receive_append_of_refused hown] at h
      exact roster.stopsAt_of_update_refused clock position member rest h
    | none =>
      have ha := (Sink.receive_refused_eq_none_iff sink _).mp hown
      rw [Sink.receive_append_of_accepts ha] at h
      dsimp only at h
      cases hclose : (Sink.receive (Sink.after sink (Step.samples member.collector.updateCourse))
          (roster.closing (clock position) member.name
            member.collector.updateResult)).refused with
      | some t =>
        rw [Sink.receive_append_of_refused hclose] at h
        exact roster.stopsAt_of_close_refused clock position member rest ha h
      | none =>
        have hc := (Sink.receive_refused_eq_none_iff _ _).mp hclose
        rw [Sink.receive_append_of_accepts hc] at h
        exact roster.stopsAt_of_accepted clock position member rest ha hc (ih (position + 1) h)

end Stop

/-- What a scrape offers is what the sink receives of its course. -/
theorem samples_trace_scrape [Sink τ] (roster : Roster (GpuCollector L)) (clock : Clock)
    (sink : τ) :
    Step.samples ((roster.scrape clock).trace sink) =
      Step.samples (Sink.receive sink (roster.scrape clock).course).steps := by
  cases h : (Sink.receive sink (roster.scrape clock).course).refused with
  | none =>
    have ha := (Sink.receive_refused_eq_none_iff sink _).mp h
    rw [Activity.trace_of_accepts _ ha, Sink.receive_of_accepts ha]
  | some s =>
    rw [course_scrape] at h ⊢
    obtain ⟨finished, member, waiting, part, recorded, -, -, hs, ht, -⟩ :=
      roster.stopsAt_of_refused clock 0 roster.members h
    rw [trace_scrape, ht, hs, Step.samples_append, Step.samples_map_recorded, List.append_nil]

/-- A scrape succeeds if and only if nothing of its course is refused. -/
theorem result_scrape_eq_ok_iff [Sink τ] (roster : Roster (GpuCollector L)) (clock : Clock)
    (sink : τ) :
    ((roster.scrape clock).perform sink).result.1 = .ok () ↔
      Sink.Accepts sink (Step.samples (roster.scrape clock).course) := by
  constructor
  · intro hok
    apply Classical.byContradiction
    intro hn
    obtain ⟨s, hs⟩ := Sink.exists_refused hn
    rw [course_scrape] at hs
    obtain ⟨_, _, _, _, _, -, hr, -⟩ := roster.stopsAt_of_refused clock 0 roster.members hs
    rw [result_scrape, hr] at hok
    cases hok
  · intro ha
    rw [Activity.result_of_accepts _ ha, outcome_scrape]

/-- A sink with a quota is left by a scrape with as many of the first samples as it takes. -/
theorem samples_perform_quota (roster : Roster (GpuCollector L)) (clock : Clock) (limit : Nat) :
    ((roster.scrape clock).perform (⟨limit, []⟩ : Quota)).sink.samples =
      (Step.samples (roster.scrape clock).course).take limit := by
  rw [Activity.perform_sink, samples_trace_scrape, ← Sink.receive_sink, Quota.samples_receive]
  rfl

/-- A scrape offers what a list collects up to the first refusal, where it ends: no member behind
is run or logged. -/
theorem scrape_stops_at_refusal [Sink τ] (roster : Roster (GpuCollector L)) (clock : Clock)
    (sink : τ) :
    let scrape := roster.scrape clock
    let full := scrape.trace Collected.empty
    let performed := scrape.perform sink
    let offers := Step.samples (scrape.trace sink)
    Step.samples full = (scrape.perform Collected.empty).sink.samples ∧
    Step.events full = (scrape.perform Collected.empty).log ∧
    offers <+: Step.samples full ∧
    performed.sink = Sink.after sink offers ∧
    (performed.result.1 = .ok () ↔ Sink.Accepts sink (Step.samples full)) ∧
    (Sink.Accepts sink (Step.samples full) →
      offers = Step.samples full ∧ performed.log = Step.events full ∧
      performed.result.2.members = roster.members.map Member.counted) ∧
    (¬ Sink.Accepts sink (Step.samples full) →
      ∃ before s rest, full = before ++ .offered s :: rest ∧
        Sink.Accepts sink (Step.samples before) ∧
        (Sink.accept (Sink.after sink (Step.samples before)) s).1 = false ∧
        performed.result.1 = .error .sinkClosed ∧
        offers = Step.samples before ++ [s] ∧
        ∃ finished member waiting part recorded,
          roster.members = finished ++ member :: waiting ∧
          performed.result.2.members =
            finished.map Member.counted ++ member.counted :: waiting ∧
          before =
            ({ roster with members := finished }.scrape clock).trace Collected.empty ++ part ∧
          roster.StopsIn (clock finished.length) member part s recorded ∧
          performed.log = Step.events before ++ recorded) ∧
    (∀ limit, (scrape.perform (⟨limit, []⟩ : Quota)).sink.samples =
      (Step.samples full).take limit) ∧
    (∀ clock', ((roster.scrape clock').trace Collected.empty).map
        (Step.untimed roster.duration.1) =
      full.map (Step.untimed roster.duration.1)) ∧
    (∀ member : Member (GpuCollector L), (abandoned member).span = none ∧
      (abandoned member).occurrence.level = .debug ∧
      (abandoned member).occurrence.message = "scrape abandoned by consumer" ∧
      (abandoned member).occurrence.fields = [("collector", .text member.name)]) := by
  have hfull : (roster.scrape clock).trace Collected.empty = (roster.scrape clock).course :=
    Activity.trace_of_accepts _ (Collected.willing _ _)
  dsimp only
  rw [hfull]
  refine ⟨(Activity.samples_perform_empty _).symm, ?_, ?_, Activity.perform_sink _ _,
    roster.result_scrape_eq_ok_iff clock sink, ?_, ?_, roster.samples_perform_quota clock, ?_,
    abandoned_event⟩
  · rw [Activity.perform_log, hfull]
  · rw [samples_trace_scrape]
    exact (Sink.receive_isPrefix sink _).filterMap _
  · intro ha
    rw [Activity.perform_log, Activity.trace_of_accepts _ ha, Activity.result_of_accepts _ ha,
      outcome_scrape]
    exact ⟨rfl, rfl, rfl⟩
  · intro hn
    obtain ⟨s, hs⟩ := Sink.exists_refused hn
    obtain ⟨before, rest, hsplit, hsteps, hbefore, hlast⟩ := Sink.receive_refused_eq_some hs
    rw [course_scrape] at hs hsteps
    obtain ⟨finished, member, waiting, part, recorded, hm, hr, hs', ht, hd⟩ :=
      roster.stopsAt_of_refused clock 0 roster.members hs
    rw [hsteps, ← List.append_assoc] at hs'
    have hpart := List.append_inj_left' hs' rfl
    rw [← List.append_assoc, ← hpart] at ht
    refine ⟨before, s, rest, hsplit, hbefore, hlast, ?_, ?_, finished, member, waiting, part,
      recorded, hm, ?_, ?_, ?_, ?_⟩
    · rw [result_scrape, hr]
    · rw [trace_scrape, ht]
      simp
    · rw [result_scrape, hr]
    · rw [trace_scrape_empty, membersCourse_with_members]
      exact hpart
    · rwa [Nat.zero_add] at hd
    · rw [Activity.perform_log, trace_scrape, ht]
      simp
  · intro clock'
    rw [trace_scrape_empty, course_scrape]
    exact roster.membersCourse_untimed clock' clock 0 roster.members

end Roster

end GpuTelemetry
