import GpuTelemetry.Proofs.Roster.Report
import GpuTelemetry.Roster.Build

/-!
# Whether a failure stays with its collector

A scrape tells the loss of its consumer from the failure of a collector by nothing but the failure
that the collector returns. Into a sink that refuses nothing, every collector runs and is accounted
for exactly if none of them returns `sinkClosed`. One that passes this failure on from elsewhere
ends the scrape for all collectors behind it, although its consumer is still there.
-/

namespace GpuTelemetry.Roster

variable {κ τ : Type} [Collector κ] (roster : Roster κ) (clock : Clock)

/-- The samples about a member: those it emits itself, then its duration and its success, which is
zero exactly if it failed. -/
def accountOf (duration : Binary64) (member : Member κ) : List Sample :=
  Step.samples member.own ++
    [memberSample roster.duration duration member.name,
      memberSample roster.success (if member.verdict.isOk then .one else .zero false) member.name]

/-- A scrape in which a failure stays with its collector. -/
structure Isolates [Sink τ] (sink : τ) : Prop where
  /-- The scrape succeeds. -/
  succeeds : ((roster.scrape clock).perform sink).result.1 = .ok ()
  /-- Every collector has run once. -/
  runs : ((roster.scrape clock).perform sink).result.2.members =
    roster.members.map Member.updated
  /-- What happens is what each collector does alone, each followed by its outcome. -/
  steps : (roster.scrape clock).trace sink = roster.report clock 0 roster.members
  /-- Under every name are the samples of the collector, one duration and one success. -/
  emits : Step.samples ((roster.scrape clock).trace sink) =
    roster.members.zipIdx.flatMap fun place => roster.accountOf (clock place.2) place.1

/-- The samples of a report are those about each member. -/
theorem samples_report (position : Nat) (members : List (Member κ)) :
    Step.samples (roster.report clock position members) =
      (members.zipIdx position).flatMap fun place =>
        roster.accountOf (clock place.2) place.1 := by
  induction members generalizing position with
  | nil => rfl
  | cons member rest ih =>
    rw [report, Step.samples_append, Step.samples_append, ih, List.zipIdx_cons, List.flatMap_cons,
      ← List.append_assoc]
    rfl

/-- Running members fails exactly if one of them tells of a lost consumer. -/
theorem outcome_runMembers_eq_ite (position : Nat) (members : List (Member κ)) :
    (roster.runMembers clock position members).outcome.1 =
      if members.all Member.proceeds then .ok () else .error .sinkClosed := by
  induction members generalizing position with
  | nil => rfl
  | cons member rest ih =>
    rw [List.all_cons]
    cases hm : member.proceeds with
    | false =>
      rw [(roster.runMembers_of_not_proceeds clock position member rest hm).2]
      rfl
    | true =>
      rw [(roster.runMembers_of_proceeds clock position member rest hm).2, Bool.true_and]
      exact ih (position + 1)

section Willing

variable [Sink τ] {sink : τ}

/-- Into a sink that refuses nothing, members that all proceed are all reported. -/
theorem scrape_of_proceeds (hs : Sink.Willing sink)
    (h : ∀ member ∈ roster.members, member.proceeds = true) :
    ((roster.scrape clock).perform sink).result =
      (.ok (), { roster with members := roster.members.map Member.updated }) ∧
    (roster.scrape clock).trace sink = roster.report clock 0 roster.members := by
  obtain ⟨hcourse, houtcome⟩ := roster.runMembers_append clock 0 [] h
  rw [List.append_nil, runMembers_nil] at hcourse houtcome
  constructor
  · rw [roster.result_scrape_of_willing clock hs, houtcome, Activity.outcome_done,
      List.append_nil]
  · rw [roster.trace_scrape_of_willing clock hs, hcourse, Activity.course_done, List.append_nil]

/-- If nothing is refused, failures stay with their collectors exactly if no collector returns
`sinkClosed`; otherwise the scrape fails with it. -/
theorem isolates_iff (hs : Sink.Willing sink) :
    (roster.Isolates clock sink ↔
      ∀ member ∈ roster.members, member.verdict ≠ .error .sinkClosed) ∧
    ((∃ member ∈ roster.members, member.verdict = .error .sinkClosed) →
      ((roster.scrape clock).perform sink).result.1 = .error .sinkClosed) := by
  have hends : (∃ member ∈ roster.members, member.verdict = .error .sinkClosed) →
      ((roster.scrape clock).perform sink).result.1 = .error .sinkClosed := by
    rintro ⟨leaver, hm, hv⟩
    have hall : roster.members.all Member.proceeds = false :=
      List.all_eq_false.mpr ⟨leaver, hm, by simp [leaver.proceeds_eq_false_iff.mpr hv]⟩
    rw [roster.result_scrape_of_willing clock hs, roster.outcome_runMembers_eq_ite, hall]
    rfl
  refine ⟨⟨?_, ?_⟩, hends⟩
  · intro h member hm hv
    have hfails := hends ⟨member, hm, hv⟩
    rw [h.succeeds] at hfails
    cases hfails
  · intro h
    obtain ⟨hresult, htrace⟩ := roster.scrape_of_proceeds clock hs fun member hm =>
      member.proceeds_iff.mpr (h member hm)
    refine ⟨?_, ?_, htrace, ?_⟩
    · rw [hresult]
    · rw [hresult]
    · rw [htrace, samples_report]

end Willing

/-- Two collectors: the first passes on a failure from elsewhere, the second does nothing. -/
def relayMembers (failure : Failure) : List (Member Playback) :=
  [⟨"relay", ⟨[], [⟨[], some failure, false⟩], 0⟩⟩, ⟨"idle", ⟨[], [], 0⟩⟩]

/-- The registrations that give them. -/
def relayRegistrations (failure : Failure) : List (Registration Unit Playback) :=
  (relayMembers failure).map fun member =>
    ⟨member.name, true, fun _ world => ⟨.ok member.collector, [], world⟩⟩

/-- The relay and the idle collector make a roster. -/
theorem exists_build_relay (failure : Failure) :
    ∃ roster : Roster Playback,
      (Roster.build .default (relayRegistrations failure) ()).outcome = .ok roster ∧
      roster.members = relayMembers failure := by
  have hnames : Registration.firstRepeated? []
      ((relayRegistrations failure).map Registration.name) = none := by
    show Registration.firstRepeated? [] ["relay", "idle"] = none
    decide
  let created : Except Failure (Roster Playback) := Roster.create Settings.default.metricNamespace
  have hcreated : created.isOk = true := by decide +kernel
  cases h : created with
  | error fault =>
    rw [h] at hcreated
    cases hcreated
  | ok roster =>
    refine ⟨{ roster with members := relayMembers failure }, ?_, rfl⟩
    have hroster : Roster.create Settings.default.metricNamespace = .ok roster := h
    rw [Roster.build, hnames, hroster]
    rfl

/-- Both proceed unless the failure is that of a lost consumer. -/
theorem verdict_ne_of_mem_relayMembers {failure : Failure} (h : failure ≠ .sinkClosed) :
    ∀ member ∈ relayMembers failure, member.verdict ≠ .error .sinkClosed := by
  intro member hm hv
  rcases List.mem_cons.mp hm with rfl | hm
  · have hfails : Except.error failure = .error .sinkClosed := hv
    exact h (Except.error.inj hfails)
  · obtain rfl := List.mem_singleton.mp hm
    have hfails : Except.ok () = .error Failure.sinkClosed := hv
    cases hfails

/-- A failure for want of devices stays with the first collector. -/
theorem isolates_relay_noDevices :
    ∃ roster : Roster Playback,
      (Roster.build .default (relayRegistrations .noDevices) ()).outcome = .ok roster ∧
      Sink.Willing Collected.empty ∧ roster.Isolates (fun _ => .one) Collected.empty ∧
      (Step.samples ((roster.scrape fun _ => .one).trace Collected.empty)).map
          (fun s => (s.labelValues, s.value)) =
        [(["relay"], .one), (["relay"], .zero false), (["idle"], .one), (["idle"], .one)] := by
  obtain ⟨roster, hbuild, hmembers⟩ := exists_build_relay .noDevices
  have hw := Collected.willing .empty
  have hi : roster.Isolates (fun _ => .one) Collected.empty := by
    rw [(roster.isolates_iff (fun _ => .one) hw).1, hmembers]
    exact verdict_ne_of_mem_relayMembers (by decide)
  refine ⟨roster, hbuild, hw, hi, ?_⟩
  rw [hi.emits, hmembers]
  rfl

/-- Nothing is refused, and yet the second collector is not run and neither is accounted for. -/
theorem not_isolates_relay_sinkClosed :
    ∃ roster : Roster Playback,
      (Roster.build .default (relayRegistrations .sinkClosed) ()).outcome = .ok roster ∧
      roster.names = ["relay", "idle"] ∧ Sink.Willing Collected.empty ∧
      ¬ roster.Isolates (fun _ => .one) Collected.empty ∧
      ((roster.scrape fun _ => .one).perform Collected.empty).sink.samples = [] ∧
      ((roster.scrape fun _ => .one).perform Collected.empty).result.2.members.map
        (fun member => member.collector.played) = [1, 0] := by
  obtain ⟨roster, hbuild, hmembers⟩ := exists_build_relay .sinkClosed
  obtain ⟨duration, success, members⟩ := roster
  obtain rfl : members = relayMembers .sinkClosed := hmembers
  refine ⟨_, hbuild, rfl, Collected.willing _, ?_, rfl, rfl⟩
  intro hi
  have hfails : Except.error Failure.sinkClosed = .ok () := hi.succeeds
  cases hfails

end GpuTelemetry.Roster
