import GpuTelemetry.Proofs.Gpu.Account
import GpuTelemetry.Roster.Scrape

/-!
# The course of a scrape

A scrape over GPU collectors goes through its members in order: the update of each is followed by
its outcome in the log and by two samples about it. Against any sink the scrape goes as far as
this course is received. If something is refused, the members behind stay as they were, and only a
refusal inside an update is logged.
-/

namespace GpuTelemetry

/-- A member whose devices were counted once more. -/
def Member.counted {L : Type} [DeviceLibrary L] (member : Member (GpuCollector L)) :
    Member (GpuCollector L) :=
  { member with collector := member.collector.counted }

namespace Roster

section Closing

variable {κ : Type}

/-- The steps behind the update of a member: its outcome, its duration and its success. -/
def closing (roster : Roster κ) (duration : Binary64) (name : String)
    (result : Except Failure Unit) : List Step :=
  [.recorded (outcomeEvent name duration result),
    .offered (memberSample roster.duration duration name),
    .offered (memberSample roster.success (successValue result.isOk) name)]

/-- Closing the update of a member; tells whether both samples were accepted. -/
def close (roster : Roster κ) (duration : Binary64) (name : String)
    (result : Except Failure Unit) : Activity Bool :=
  .record (outcomeEvent name duration result)
    (.emitAll [memberSample roster.duration duration name,
      memberSample roster.success (successValue result.isOk) name])

private theorem prompt_close (roster : Roster κ) (duration : Binary64) (name : String)
    (result : Except Failure Unit) : (roster.close duration name result).Prompt false :=
  Activity.prompt_emitAll _

/-- Closing a member records its outcome and offers two samples. -/
theorem course_close (roster : Roster κ) (duration : Binary64) (name : String)
    (result : Except Failure Unit) :
    (roster.close duration name result).course = roster.closing duration name result := rfl

/-- Closing a member comes to its end if nothing is refused. -/
theorem outcome_close (roster : Roster κ) (duration : Binary64) (name : String)
    (result : Except Failure Unit) : (roster.close duration name result).outcome = true := rfl

/-- The event about a member during whose update the consumer is gone. -/
def abandoned (member : Member κ) : Event := .unspanned (.scrapeAbandoned member.name)

/-- The event names the member, as a detail and outside every span. -/
@[simp] theorem abandoned_event (member : Member κ) :
    (abandoned member).span = none ∧
      (abandoned member).occurrence.level = .debug ∧
      (abandoned member).occurrence.message = "scrape abandoned by consumer" ∧
      (abandoned member).occurrence.fields = [("collector", .text member.name)] :=
  ⟨rfl, rfl, rfl, rfl⟩

end Closing

section Members

variable {κ : Type} [Collector κ]

/-- What follows the update of the first of some members. -/
def afterUpdate (roster : Roster κ) (clock : Clock) (position : Nat) (member : Member κ)
    (rest : List (Member κ)) (updated : Except Failure Unit × κ) :
    Activity (Except Failure Unit × List (Member κ)) :=
  let member := { member with collector := updated.2 }
  match updated.1 with
  | .error .sinkClosed =>
    .record (abandoned member) (.done (.error .sinkClosed, member :: rest))
  | result =>
    (roster.close (clock position) member.name result).bind fun accepted =>
      if accepted then
        (roster.runMembers clock (position + 1) rest).bind fun later =>
          .done (later.1, member :: later.2)
      else .done (.error .sinkClosed, member :: rest)

/-- The first of some members is updated, and the rest depends on what came of it. -/
theorem runMembers_cons (roster : Roster κ) (clock : Clock) (position : Nat) (member : Member κ)
    (rest : List (Member κ)) :
    roster.runMembers clock position (member :: rest) =
      (Collector.update member.collector).bind
        (roster.afterUpdate clock position member rest) := by
  rw [runMembers]
  refine congrArg (Activity.bind _) (funext fun updated => ?_)
  obtain ⟨result, collector⟩ := updated
  cases result with
  | ok => rfl
  | error failure => cases failure <;> rfl

/-- An update that does not tell of a lost consumer is closed. -/
theorem afterUpdate_of_ne (roster : Roster κ) (clock : Clock) (position : Nat) (member : Member κ)
    (rest : List (Member κ)) {result : Except Failure Unit} (h : result ≠ .error .sinkClosed)
    (collector : κ) :
    roster.afterUpdate clock position member rest (result, collector) =
      (roster.close (clock position) member.name result).bind fun accepted =>
        if accepted then
          (roster.runMembers clock (position + 1) rest).bind fun later =>
            .done (later.1, { member with collector } :: later.2)
        else .done (.error .sinkClosed, { member with collector } :: rest) := by
  cases result with
  | ok => rfl
  | error failure =>
    cases failure with
    | sinkClosed => exact absurd rfl h
    | _ => rfl

/-- A scrape runs all members from the first position on. -/
theorem scrape_eq (roster : Roster κ) (clock : Clock) :
    roster.scrape clock = (roster.runMembers clock 0 roster.members).bind fun ran =>
      .done (ran.1, { roster with members := ran.2 }) := rfl

end Members

variable {L τ : Type} [DeviceLibrary L]

/-- The steps about the members from a position on. -/
def membersCourse (roster : Roster (GpuCollector L)) (clock : Clock) (position : Nat) :
    List (Member (GpuCollector L)) → List Step
  | [] => []
  | member :: rest =>
    member.collector.updateCourse ++
      (roster.closing (clock position) member.name member.collector.updateResult ++
        membersCourse roster clock (position + 1) rest)

/-- The course of the first of some members stands before that of the others. -/
theorem membersCourse_cons (roster : Roster (GpuCollector L)) (clock : Clock) (position : Nat)
    (member : Member (GpuCollector L)) (rest : List (Member (GpuCollector L))) :
    roster.membersCourse clock position (member :: rest) =
      member.collector.updateCourse ++
        (roster.closing (clock position) member.name member.collector.updateResult ++
          roster.membersCourse clock (position + 1) rest) := rfl

private theorem course_runMembers (roster : Roster (GpuCollector L)) (clock : Clock)
    (position : Nat) (members : List (Member (GpuCollector L))) :
    (roster.runMembers clock position members).course =
      roster.membersCourse clock position members := by
  induction members generalizing position with
  | nil => rfl
  | cons member rest ih =>
    rw [runMembers_cons, Activity.course_bind, GpuCollector.outcome_update,
      afterUpdate_of_ne _ _ _ _ _ member.collector.updateResult_ne_sinkClosed,
      Activity.course_bind, GpuCollector.course_update, course_close, outcome_close, if_pos rfl,
      Activity.course_bind, ih, Activity.course_done, List.append_nil, membersCourse]

private theorem outcome_runMembers (roster : Roster (GpuCollector L)) (clock : Clock)
    (position : Nat) (members : List (Member (GpuCollector L))) :
    (roster.runMembers clock position members).outcome = (.ok (), members.map Member.counted) := by
  induction members generalizing position with
  | nil => rfl
  | cons member rest ih =>
    rw [runMembers_cons, Activity.outcome_bind, GpuCollector.outcome_update,
      afterUpdate_of_ne _ _ _ _ _ member.collector.updateResult_ne_sinkClosed,
      Activity.outcome_bind, outcome_close, if_pos rfl, Activity.outcome_bind, ih]
    rfl

/-- The full course of a scrape is that of its members. -/
theorem course_scrape (roster : Roster (GpuCollector L)) (clock : Clock) :
    (roster.scrape clock).course = roster.membersCourse clock 0 roster.members := by
  rw [scrape_eq, Activity.course_bind, course_runMembers, Activity.course_done, List.append_nil]

/-- The members of a roster play no part in the course of other members. -/
theorem membersCourse_with_members (roster : Roster (GpuCollector L)) (clock : Clock)
    (position : Nat) (others members : List (Member (GpuCollector L))) :
    { roster with members := others }.membersCourse clock position members =
      roster.membersCourse clock position members := by
  induction members generalizing position with
  | nil => rfl
  | cons member rest ih =>
    rw [membersCourse, membersCourse, ih]
    rfl

/-- Uninterrupted, a scrape succeeds and has counted the devices of every member once. -/
theorem outcome_scrape (roster : Roster (GpuCollector L)) (clock : Clock) :
    (roster.scrape clock).outcome =
      (.ok (), { roster with members := roster.members.map Member.counted }) := by
  rw [scrape_eq, Activity.outcome_bind, outcome_runMembers, Activity.outcome_done]

/-- Collecting takes a scrape through its full course. -/
theorem trace_scrape_empty (roster : Roster (GpuCollector L)) (clock : Clock) :
    (roster.scrape clock).trace Collected.empty =
      roster.membersCourse clock 0 roster.members := by
  rw [Activity.trace_of_accepts _ (Collected.willing _ _), course_scrape]

/-- A scrape runs its members and takes over their new states. -/
theorem result_scrape [Sink τ] (roster : Roster (GpuCollector L)) (clock : Clock) (sink : τ) :
    ((roster.scrape clock).perform sink).result =
      let ran := ((roster.runMembers clock 0 roster.members).perform sink).result
      (ran.1, { roster with members := ran.2 }) := by
  rw [scrape_eq, Activity.perform_bind]
  rfl

/-- A scrape takes the steps of running its members. -/
theorem trace_scrape [Sink τ] (roster : Roster (GpuCollector L)) (clock : Clock) (sink : τ) :
    (roster.scrape clock).trace sink =
      (roster.runMembers clock 0 roster.members).trace sink := by
  rw [scrape_eq, Activity.trace_bind]
  exact List.append_nil _

section Run

variable [Sink τ] (roster : Roster (GpuCollector L)) (clock : Clock) (position : Nat)
  (member : Member (GpuCollector L)) (rest : List (Member (GpuCollector L)))

/-- A refusal inside the update of a member is recorded and ends the scrape there. -/
theorem runMembers_of_update_refused {sink : τ} {s : Sample}
    (h : (Sink.receive sink member.collector.updateCourse).refused = some s) :
    ((roster.runMembers clock position (member :: rest)).perform sink).result =
      (.error .sinkClosed, member.counted :: rest) ∧
    (roster.runMembers clock position (member :: rest)).trace sink =
      (Sink.receive sink member.collector.updateCourse).steps ++
        [.recorded (abandoned member)] := by
  rw [← member.collector.course_update] at h ⊢
  have hresult := Activity.result_of_prompt member.collector.prompt_update h
  have htrace := Activity.trace_of_prompt member.collector.prompt_update sink
  rw [runMembers_cons, Activity.perform_bind, Activity.trace_bind, htrace]
  dsimp only
  rw [hresult]
  exact ⟨rfl, rfl⟩

/-- After an update that is accepted, the member is closed with the sink that the update leaves. -/
private theorem runMembers_of_update_accepted {sink : τ}
    (h : Sink.Accepts sink (Step.samples member.collector.updateCourse)) :
    let sink' := Sink.after sink (Step.samples member.collector.updateCourse)
    let behind := (roster.close (clock position) member.name member.collector.updateResult).bind
      fun accepted =>
        if accepted then
          (roster.runMembers clock (position + 1) rest).bind fun later =>
            .done (later.1, member.counted :: later.2)
        else .done (.error .sinkClosed, member.counted :: rest)
    ((roster.runMembers clock position (member :: rest)).perform sink).result =
      (behind.perform sink').result ∧
    (roster.runMembers clock position (member :: rest)).trace sink =
      member.collector.updateCourse ++ behind.trace sink' := by
  rw [← member.collector.course_update] at h ⊢
  have hresult := Activity.result_of_accepts _ h
  have htrace := Activity.trace_of_accepts _ h
  have hsink := Activity.perform_sink (Collector.update member.collector) sink
  rw [htrace] at hsink
  dsimp only
  rw [runMembers_cons, Activity.perform_bind, Activity.trace_bind, htrace]
  dsimp only
  rw [hresult, hsink, member.collector.outcome_update,
    afterUpdate_of_ne _ _ _ _ _ member.collector.updateResult_ne_sinkClosed]
  exact ⟨rfl, rfl⟩

/-- A refusal of the duration or the success of a member ends the scrape there without a word. -/
theorem runMembers_of_close_refused {sink : τ} {s : Sample}
    (h : Sink.Accepts sink (Step.samples member.collector.updateCourse))
    (hr : (Sink.receive (Sink.after sink (Step.samples member.collector.updateCourse))
      (roster.closing (clock position) member.name member.collector.updateResult)).refused =
        some s) :
    ((roster.runMembers clock position (member :: rest)).perform sink).result =
      (.error .sinkClosed, member.counted :: rest) ∧
    (roster.runMembers clock position (member :: rest)).trace sink =
      member.collector.updateCourse ++
        (Sink.receive (Sink.after sink (Step.samples member.collector.updateCourse))
          (roster.closing (clock position) member.name member.collector.updateResult)).steps := by
  obtain ⟨hrun, htrace⟩ := roster.runMembers_of_update_accepted clock position member rest h
  have hprompt := roster.prompt_close (clock position) member.name member.collector.updateResult
  have hresult := Activity.result_of_prompt hprompt hr
  rw [hrun, htrace, Activity.perform_bind, Activity.trace_bind, Activity.trace_of_prompt hprompt]
  dsimp only
  rw [hresult]
  exact ⟨rfl, congrArg _ (List.append_nil _)⟩

/-- A member of which nothing is refused is done, and the others run with the sink it leaves. -/
theorem runMembers_of_accepted {sink : τ}
    (h : Sink.Accepts sink (Step.samples member.collector.updateCourse))
    (hc : Sink.Accepts (Sink.after sink (Step.samples member.collector.updateCourse))
      (Step.samples (roster.closing (clock position) member.name
        member.collector.updateResult))) :
    let sink' := Sink.after (Sink.after sink (Step.samples member.collector.updateCourse))
      (Step.samples (roster.closing (clock position) member.name member.collector.updateResult))
    let later := roster.runMembers clock (position + 1) rest
    ((roster.runMembers clock position (member :: rest)).perform sink).result =
      ((later.perform sink').result.1, member.counted :: (later.perform sink').result.2) ∧
    (roster.runMembers clock position (member :: rest)).trace sink =
      member.collector.updateCourse ++
        (roster.closing (clock position) member.name member.collector.updateResult ++
          later.trace sink') := by
  obtain ⟨hrun, htrace⟩ := roster.runMembers_of_update_accepted clock position member rest h
  rw [← course_close] at hc ⊢
  have hresult := Activity.result_of_accepts _ hc
  have hclose := Activity.trace_of_accepts _ hc
  have hsink := Activity.perform_sink (roster.close (clock position) member.name
    member.collector.updateResult) (Sink.after sink (Step.samples member.collector.updateCourse))
  rw [hclose] at hsink
  rw [hrun, htrace, Activity.perform_bind, Activity.trace_bind, hclose]
  dsimp only
  rw [hresult, hsink, outcome_close, if_pos rfl, Activity.perform_bind, Activity.trace_bind]
  exact ⟨rfl, congrArg _ (congrArg _ (List.append_nil _))⟩

end Run

end Roster

end GpuTelemetry
