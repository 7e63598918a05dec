import GpuTelemetry.Collector.Playback
import GpuTelemetry.Proofs.Number.Rounding
import GpuTelemetry.Proofs.Roster.Course
import Mathlib.Data.List.TakeWhile

/-!
# The report of a scrape

A scrape over collectors of any kind, into a sink that refuses nothing. Each collector does what it
does when it runs alone, and its duration and its success stand right behind its samples; a failure
is reported and keeps no other collector from running. Only a collector that itself tells of a lost
consumer ends the scrape: what it did is kept, nothing is said about it but that, and the
collectors behind it are not run.
-/

namespace GpuTelemetry

namespace Member

variable {κ : Type} [Collector κ] (member : Member κ)

/-- What the member does when it runs alone and nothing is refused. -/
def own : List Step := (Collector.update member.collector).trace Collected.empty

/-- What its run comes to then. -/
def verdict : Except Failure Unit :=
  ((Collector.update member.collector).perform Collected.empty).result.1

/-- The member after that run. -/
def updated : Member κ :=
  { member with
    collector := ((Collector.update member.collector).perform Collected.empty).result.2 }

/-- Whether a scrape goes on behind the member: it does unless the member tells of a lost
consumer. -/
def proceeds : Bool :=
  match member.verdict with
  | .error .sinkClosed => false
  | _ => true

private theorem own_eq_course : member.own = (Collector.update member.collector).course :=
  Activity.trace_of_accepts _ (Collected.willing _ _)

/-- The outcome of an update is the verdict with the updated collector. -/
theorem outcome_update :
    (Collector.update member.collector).outcome = (member.verdict, member.updated.collector) :=
  (Activity.result_of_accepts _ (Collected.willing .empty _)).symm

/-- A scrape ends at a member that tells of a lost consumer. -/
theorem proceeds_eq_false_iff : member.proceeds = false ↔ member.verdict = .error .sinkClosed := by
  unfold proceeds
  constructor
  · intro h
    split at h
    · assumption
    · cases h
  · intro h
    rw [h]

/-- A scrape goes on behind every other member. -/
theorem proceeds_iff : member.proceeds = true ↔ member.verdict ≠ .error .sinkClosed := by
  rw [Ne, ← member.proceeds_eq_false_iff, Bool.not_eq_false]

end Member

namespace Roster

variable {κ τ : Type} [Collector κ] (roster : Roster κ) (clock : Clock)

/-- The steps about members that the scrape gets past, from a position on. -/
def report (position : Nat) : List (Member κ) → List Step
  | [] => []
  | member :: rest =>
    member.own ++ (roster.closing (clock position) member.name member.verdict ++
      report (position + 1) rest)

section Course

variable (position : Nat) (member : Member κ) (rest : List (Member κ))

/-- Without members nothing is run. -/
theorem runMembers_nil :
    roster.runMembers clock position [] = .done (.ok (), []) := rfl

/-- Behind a member that proceeds come its closing and the other members. -/
theorem runMembers_of_proceeds (h : member.proceeds = true) :
    (roster.runMembers clock position (member :: rest)).course =
      member.own ++ (roster.closing (clock position) member.name member.verdict ++
        (roster.runMembers clock (position + 1) rest).course) ∧
    (roster.runMembers clock position (member :: rest)).outcome =
      ((roster.runMembers clock (position + 1) rest).outcome.1,
        member.updated :: (roster.runMembers clock (position + 1) rest).outcome.2) := by
  have hv := member.proceeds_iff.mp h
  rw [runMembers_cons, Activity.course_bind, Activity.outcome_bind, member.outcome_update,
    afterUpdate_of_ne _ _ _ _ _ hv, Activity.course_bind, Activity.outcome_bind, course_close,
    outcome_close, if_pos rfl, Activity.course_bind, Activity.outcome_bind, member.own_eq_course,
    Activity.course_done, List.append_nil]
  exact ⟨rfl, rfl⟩

/-- A member that does not proceed is the last that runs. -/
theorem runMembers_of_not_proceeds (h : member.proceeds = false) :
    (roster.runMembers clock position (member :: rest)).course =
      member.own ++ [.recorded (abandoned member)] ∧
    (roster.runMembers clock position (member :: rest)).outcome =
      (.error .sinkClosed, member.updated :: rest) := by
  have hv := member.proceeds_eq_false_iff.mp h
  rw [runMembers_cons, Activity.course_bind, Activity.outcome_bind, member.outcome_update, hv,
    member.own_eq_course]
  exact ⟨rfl, rfl⟩

/-- Members that all proceed are reported in order, and the others run behind them. -/
theorem runMembers_append {finished : List (Member κ)}
    (h : ∀ member ∈ finished, member.proceeds = true) :
    (roster.runMembers clock position (finished ++ rest)).course =
      roster.report clock position finished ++
        (roster.runMembers clock (position + finished.length) rest).course ∧
    (roster.runMembers clock position (finished ++ rest)).outcome =
      ((roster.runMembers clock (position + finished.length) rest).outcome.1,
        finished.map Member.updated ++
          (roster.runMembers clock (position + finished.length) rest).outcome.2) := by
  induction finished generalizing position with
  | nil => exact ⟨rfl, rfl⟩
  | cons first finished ih =>
    obtain ⟨hfirst, hfinished⟩ := List.forall_mem_cons.mp h
    obtain ⟨hcourse, houtcome⟩ :=
      roster.runMembers_of_proceeds clock position first (finished ++ rest) hfirst
    obtain ⟨hc, ho⟩ := ih (position + 1) hfinished
    have hlength : position + (first :: finished).length = position + 1 + finished.length := by
      rw [List.length_cons]
      omega
    rw [List.cons_append, hcourse, houtcome, hc, ho, hlength]
    constructor
    · simp only [report, List.append_assoc]
    · rfl

end Course

/-- Into a sink that refuses nothing, the steps of a scrape are those of its course. -/
theorem trace_scrape_of_willing [Sink τ] {sink : τ} (hs : Sink.Willing sink) :
    (roster.scrape clock).trace sink = (roster.runMembers clock 0 roster.members).course := by
  rw [Activity.trace_of_accepts _ (hs _), scrape_eq, Activity.course_bind, Activity.course_done,
    List.append_nil]

/-- Into a sink that refuses nothing, a scrape ends with the outcome of its members. -/
theorem result_scrape_of_willing [Sink τ] {sink : τ} (hs : Sink.Willing sink) :
    ((roster.scrape clock).perform sink).result =
      ((roster.runMembers clock 0 roster.members).outcome.1,
        { roster with members := (roster.runMembers clock 0 roster.members).outcome.2 }) := by
  rw [Activity.result_of_accepts _ (hs _), scrape_eq, Activity.outcome_bind,
    Activity.outcome_done]

omit [Collector κ] in
/-- A member is closed with one event outside every span, which tells success from failure, then
with its duration and its success. -/
theorem exists_closing (duration : Binary64) (name : String) (result : Except Failure Unit) :
    ∃ event lasting success,
      roster.closing duration name result =
        [.recorded event, .offered lasting, .offered success] ∧
      event.span = none ∧
      (result = .ok () →
        event.occurrence.level = .debug ∧ event.occurrence.message = "collector succeeded") ∧
      (∀ failure, result = .error failure →
        event.occurrence.level = .error ∧ event.occurrence.message = "collector failed") ∧
      lasting.descriptor = roster.duration.1 ∧ lasting.value = duration ∧
      lasting.metric.labels = [("collector", name)] ∧
      success.descriptor = roster.success.1 ∧
      success.value = (if result.isOk then .one else .zero false) ∧
      success.metric.labels = [("collector", name)] := by
  refine ⟨outcomeEvent name duration result, memberSample roster.duration duration name,
    memberSample roster.success (successValue result.isOk) name, rfl, ?_, ?_, ?_, rfl, rfl, ?_,
    rfl, rfl, ?_⟩
  · cases result <;> rfl
  · rintro rfl
    exact ⟨rfl, rfl⟩
  · rintro failure rfl
    exact ⟨rfl, rfl⟩
  · exact Sample.labels_metric_ofLabelled roster.duration _ [name] rfl
  · exact Sample.labels_metric_ofLabelled roster.success _ [name] rfl

/-- If nothing is refused, a scrape gives what each member does alone and its outcome, up to the
first lost consumer. -/
theorem scrape_eq_report [Sink τ] {sink : τ} (hs : Sink.Willing sink) :
    let performed := (roster.scrape clock).perform sink
    let steps := (roster.scrape clock).trace sink
    let finished := roster.members.takeWhile Member.proceeds
    let others := roster.members.dropWhile Member.proceeds
    (others = [] →
      performed.result = (.ok (), { roster with members := finished.map Member.updated }) ∧
      steps = roster.report clock 0 finished) ∧
    (∀ leaver waiting, others = leaver :: waiting →
      leaver.verdict = .error .sinkClosed ∧
      performed.result = (.error .sinkClosed,
        { roster with members := finished.map Member.updated ++ leaver.updated :: waiting }) ∧
      steps = roster.report clock 0 finished ++ (leaver.own ++ [.recorded (abandoned leaver)])) ∧
    performed.sink = Sink.after sink (Step.samples steps) ∧
    performed.log = Step.events steps ∧
    (∀ duration name result, ∃ event lasting success,
      roster.closing duration name result =
        [.recorded event, .offered lasting, .offered success] ∧
      event.span = none ∧
      (result = .ok () →
        event.occurrence.level = .debug ∧ event.occurrence.message = "collector succeeded") ∧
      (∀ failure, result = .error failure →
        event.occurrence.level = .error ∧ event.occurrence.message = "collector failed") ∧
      lasting.descriptor = roster.duration.1 ∧ lasting.value = duration ∧
      lasting.metric.labels = [("collector", name)] ∧
      success.descriptor = roster.success.1 ∧
      success.value = (if result.isOk then .one else .zero false) ∧
      success.metric.labels = [("collector", name)]) ∧
    (∀ member : Member κ, (abandoned member).span = none ∧
      (abandoned member).occurrence.level = .debug ∧
      (abandoned member).occurrence.message = "scrape abandoned by consumer" ∧
      (abandoned member).occurrence.fields = [("collector", .text member.name)]) := by
  have hfinished : ∀ member ∈ roster.members.takeWhile Member.proceeds,
      member.proceeds = true := fun member hm => List.mem_takeWhile_imp hm
  obtain ⟨hcourse, houtcome⟩ := roster.runMembers_append clock 0
    (roster.members.dropWhile Member.proceeds) hfinished
  rw [List.takeWhile_append_dropWhile] at hcourse houtcome
  have hsink := Activity.perform_sink (roster.scrape clock) sink
  have hlog := Activity.perform_log (roster.scrape clock) sink
  have htrace := roster.trace_scrape_of_willing clock hs
  have hresult := roster.result_scrape_of_willing clock hs
  rw [hcourse] at htrace
  rw [houtcome] at hresult
  refine ⟨?_, ?_, hsink, hlog, roster.exists_closing, abandoned_event⟩
  · intro hnone
    rw [hnone, runMembers_nil] at htrace hresult
    rw [htrace, hresult]
    exact ⟨by rw [Activity.outcome_done, List.append_nil],
      by rw [Activity.course_done, List.append_nil]⟩
  · intro leaver waiting hleaver
    have hstops : leaver.proceeds = false := by
      have hhead := List.head?_dropWhile_not Member.proceeds roster.members
      rw [hleaver] at hhead
      exact hhead
    obtain ⟨hc, ho⟩ := roster.runMembers_of_not_proceeds clock
      (0 + (roster.members.takeWhile Member.proceeds).length) leaver waiting hstops
    rw [hleaver, hc] at htrace
    rw [hleaver, ho] at hresult
    exact ⟨leaver.proceeds_eq_false_iff.mp hstops, hresult, htrace⟩

/-- A metric without labels. -/
def upDescriptor : Descriptor :=
  ⟨"up", "Whether it is up.", [], by decide +kernel, by decide, by simp, List.nodup_nil⟩

/-- A collector that gives one sample and then ends as told. -/
def upPlayback (failure : Option Failure) : Playback :=
  ⟨[upDescriptor], [⟨[⟨upDescriptor, .one, []⟩], failure, false⟩], 0⟩

/-- Four collectors: one succeeds, one fails behind its sample, one tells of a lost consumer behind
its sample, and one waits. -/
def leavingMembers : List (Member Playback) :=
  [⟨"plain", upPlayback none⟩, ⟨"broken", upPlayback (some .noDevices)⟩,
    ⟨"leaver", upPlayback (some .sinkClosed)⟩, ⟨"waiting", upPlayback none⟩]

/-- The third collector ends the scrape; its sample and that of the failed one are kept, and the
fourth is not run. -/
theorem scrape_leavingMembers :
    ∃ roster : Roster Playback, roster.members = leavingMembers ∧
      Sink.Willing Collected.empty ∧
      let performed := (roster.scrape fun position => .ofNat (position + 2)).perform Collected.empty
      performed.result.1 = .error .sinkClosed ∧
      performed.result.2.members.map (fun member => member.collector.played) = [1, 1, 1, 0] ∧
      performed.log.map (fun event => event.occurrence.message) =
        ["collector succeeded", "collector failed", "scrape abandoned by consumer"] ∧
      performed.sink.samples.map (fun s => (s.name, s.metric.labels, s.value.toRat?)) =
        [("up", [], some 1), ("up_seconds", [("collector", "plain")], some 2),
          ("up_success", [("collector", "plain")], some 1), ("up", [], some 1),
          ("up_seconds", [("collector", "broken")], some 3),
          ("up_success", [("collector", "broken")], some 0), ("up", [], some 1)] := by
  let duration : LabelledBy ["collector"] :=
    ⟨⟨"up_seconds", "How long.", ["collector"], by decide +kernel, by decide, by decide +kernel,
      by decide⟩, rfl⟩
  let success : LabelledBy ["collector"] :=
    ⟨⟨"up_success", "Whether.", ["collector"], by decide +kernel, by decide, by decide +kernel,
      by decide⟩, rfl⟩
  let roster : Roster Playback := ⟨duration, success, leavingMembers⟩
  have hw := Collected.willing .empty
  obtain ⟨-, hleaver, hsink, hlog, -⟩ :=
    roster.scrape_eq_report (fun position => .ofNat (position + 2)) hw
  obtain ⟨-, hresult, hsteps⟩ := hleaver _ _ rfl
  refine ⟨roster, rfl, hw, ?_, ?_, ?_, ?_⟩
  · rw [hresult]
  · rw [hresult]
    rfl
  · rw [hlog, hsteps]
    rfl
  · have htwo := Binary64.toRat?_ofNat_of_le (show 2 ≤ 2 ^ 53 by decide)
    have hthree := Binary64.toRat?_ofNat_of_le (show 3 ≤ 2 ^ 53 by decide)
    have hone := Binary64.toRat?_one
    have hzero := Binary64.toRat?_zero false
    rw [Nat.cast_ofNat] at htwo hthree
    rw [hsink, hsteps, ← hone, ← htwo, ← hthree, ← hzero]
    rfl

end Roster

end GpuTelemetry
