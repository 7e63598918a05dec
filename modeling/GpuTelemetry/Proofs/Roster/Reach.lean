import GpuTelemetry.Proofs.Roster.Interruption
import GpuTelemetry.Roster.Session

/-!
# How far a scrape gets

A scrape reaches a member if the scrape of those before it would come to its end. The members that
are reached are the first ones, up to the one at which a sample was refused, and exactly these have
their devices counted, once each.
-/

namespace GpuTelemetry.Roster

section Reach

variable {κ τ : Type} [Collector κ] [Sink τ]

/-- Whether a scrape runs the member with an index: the scrape of those before it comes to its
end. -/
def reaches (roster : Roster κ) (clock : Clock) (sink : τ) (index : Nat) : Bool :=
  (({ roster with members := roster.members.take index }.scrape clock).perform sink).result.1.isOk

/-- Whether answering a request runs the member with an index. -/
def Request.reaches (roster : Roster κ) (request : Request τ) (index : Nat) : Bool :=
  match request with
  | .names | .descriptors => false
  | .scrape sink clock => roster.reaches clock sink index
  | .collect clock => roster.reaches clock Collected.empty index

/-- How many of the requests, answered in order, run the member with an index. -/
def visits (roster : Roster κ) : List (Request τ) → Nat → Nat
  | [], _ => 0
  | request :: rest, index =>
    (if request.reaches roster index then 1 else 0) + (roster.answer request).2.visits rest index

omit [Sink τ] in
/-- What a roster declares does not change if no member declares anything else. -/
theorem descriptors_mapIdx (roster : Roster κ) {change : Nat → Member κ → Member κ}
    (h : ∀ i member, Collector.descriptors (change i member).collector =
      Collector.descriptors member.collector) :
    { roster with members := roster.members.mapIdx change }.descriptors = roster.descriptors := by
  have hmap : (roster.members.mapIdx change).map
        (fun member => Collector.descriptors member.collector) =
      roster.members.map fun member => Collector.descriptors member.collector := by
    apply List.ext_getElem?
    intro i
    simp only [List.getElem?_map, List.getElem?_mapIdx, Option.map_map, Function.comp_def, h]
  simp only [descriptors, List.flatMap_def, hmap]

omit [Sink τ] in
/-- The members of a roster play no part in running other members. -/
theorem runMembers_with_members (roster : Roster κ) (others : List (Member κ)) (clock : Clock)
    (position : Nat) (members : List (Member κ)) :
    { roster with members := others }.runMembers clock position members =
      roster.runMembers clock position members := by
  induction members generalizing position with
  | nil => rfl
  | cons member rest ih =>
    rw [runMembers_cons, runMembers_cons]
    refine congrArg _ (funext fun updated => ?_)
    unfold afterUpdate
    rw [ih (position + 1)]
    rfl

/-- A scrape succeeds if and only if it would reach a further member. -/
theorem result_scrape_isOk (roster : Roster κ) (clock : Clock) (sink : τ) :
    ((roster.scrape clock).perform sink).result.1.isOk =
      roster.reaches clock sink roster.members.length := by
  rw [reaches, List.take_length]

end Reach

variable {L τ : Type} [DeviceLibrary L] [Sink τ] (roster : Roster (GpuCollector L))

private theorem reaches_eq (clock : Clock) (sink : τ) (index : Nat) :
    roster.reaches clock sink index =
      ((roster.runMembers clock 0 (roster.members.take index)).perform sink).result.1.isOk := by
  rw [reaches, result_scrape]
  dsimp only
  rw [runMembers_with_members]

/-- Running members gets past the first one or ends there, whatever members are behind it. -/
theorem runMembers_cons_cases (clock : Clock) (position : Nat) (member : Member (GpuCollector L))
    (sink : τ) :
    (∀ rest, ((roster.runMembers clock position (member :: rest)).perform sink).result =
      (.error .sinkClosed, member.counted :: rest)) ∨
    ∃ sink' : τ, ∀ rest,
      ((roster.runMembers clock position (member :: rest)).perform sink).result =
        (((roster.runMembers clock (position + 1) rest).perform sink').result.1,
          member.counted ::
            ((roster.runMembers clock (position + 1) rest).perform sink').result.2) := by
  by_cases ha : Sink.Accepts sink (Step.samples member.collector.updateCourse)
  · by_cases hc : Sink.Accepts (Sink.after sink (Step.samples member.collector.updateCourse))
      (Step.samples (roster.closing (clock position) member.name member.collector.updateResult))
    · right
      exact ⟨_, fun rest => (roster.runMembers_of_accepted clock position member rest ha hc).1⟩
    · left
      obtain ⟨s, hs⟩ := Sink.exists_refused hc
      intro rest
      exact (roster.runMembers_of_close_refused clock position member rest ha hs).1
  · left
    obtain ⟨s, hs⟩ := Sink.exists_refused ha
    intro rest
    exact (roster.runMembers_of_update_refused clock position member rest hs).1

/-- Of some members, those are counted behind which running the members before them came to its
end. -/
theorem members_runMembers (clock : Clock) (position : Nat)
    (members : List (Member (GpuCollector L))) (sink : τ) :
    ((roster.runMembers clock position members).perform sink).result.2 =
      members.mapIdx fun i member =>
        if ((roster.runMembers clock position (members.take i)).perform sink).result.1.isOk then
          member.counted
        else member := by
  induction members generalizing position sink with
  | nil => rfl
  | cons member rest ih =>
    rw [List.mapIdx_cons]
    rcases roster.runMembers_cons_cases clock position member sink with hends | ⟨sink', hgoes⟩
    · have hidle : (rest.mapIdx fun i other =>
          if ((roster.runMembers clock position ((member :: rest).take (i + 1))).perform
            sink).result.1.isOk then other.counted else other) = rest := by
        apply List.ext_getElem?
        intro i
        simp only [List.getElem?_mapIdx, List.take_succ_cons, hends, Except.isOk, Except.toBool,
          Bool.false_eq_true, if_false, Option.map_id']
      rw [hends, hidle]
      rfl
    · rw [hgoes, ih (position + 1) sink']
      simp only [List.take_succ_cons, hgoes]
      rfl

/-- A scrape counts the devices of the members that it reaches, once each, and leaves the others as
they were. -/
theorem roster_scrape (clock : Clock) (sink : τ) :
    ((roster.scrape clock).perform sink).result.2 =
      { roster with members := roster.members.mapIdx fun i member =>
          if roster.reaches clock sink i then member.counted else member } := by
  rw [result_scrape]
  dsimp only
  rw [members_runMembers]
  simp only [reaches_eq]

@[simp] theorem reaches_zero (clock : Clock) (sink : τ) : roster.reaches clock sink 0 = true := rfl

/-- Members are reached in order. -/
theorem reaches_of_reaches_succ {clock : Clock} {sink : τ} {index : Nat}
    (h : roster.reaches clock sink (index + 1) = true) :
    roster.reaches clock sink index = true := by
  have hrun (position : Nat) (members : List (Member (GpuCollector L))) (sink : τ) (index : Nat)
      (h : ((roster.runMembers clock position (members.take (index + 1))).perform
        sink).result.1.isOk = true) :
      ((roster.runMembers clock position (members.take index)).perform sink).result.1.isOk =
        true := by
    induction members generalizing position sink index with
    | nil => rwa [List.take_nil] at h ⊢
    | cons member rest ih =>
      cases index with
      | zero => rfl
      | succ index =>
        rw [List.take_succ_cons] at h ⊢
        rcases roster.runMembers_cons_cases clock position member sink with hends | ⟨sink', hgoes⟩
        · rw [hends] at h
          cases h
        · rw [hgoes] at h ⊢
          exact ih (position + 1) sink' index h
  rw [reaches_eq] at h ⊢
  exact hrun 0 roster.members sink index h

/-- A list lets a scrape reach every member. -/
theorem reaches_empty (clock : Clock) (index : Nat) :
    roster.reaches clock Collected.empty index = true := by
  have hok : ({ roster with members := roster.members.take index }.scrape clock).outcome.1 =
      .ok () := by
    rw [outcome_scrape]
  rw [reaches, Activity.result_of_accepts _ (Collected.willing _ _), hok]
  rfl

/-- Answering a request counts the devices of the members that it runs, once each, and changes
nothing else. -/
theorem roster_answer (request : Request τ) :
    (roster.answer request).2 =
      { roster with members := roster.members.mapIdx fun i member =>
          if request.reaches roster i then member.counted else member } := by
  have hidle : (roster.members.mapIdx fun _ member => member) = roster.members := by
    apply List.ext_getElem?
    intro i
    rw [List.getElem?_mapIdx, Option.map_id']
  cases request with
  | names =>
    simp only [answer, Request.reaches, Bool.false_eq_true, if_false]
    rw [hidle]
  | descriptors =>
    simp only [answer, Request.reaches, Bool.false_eq_true, if_false]
    rw [hidle]
  | scrape sink clock => exact roster.roster_scrape clock sink
  | collect clock => exact roster.roster_scrape clock Collected.empty

end GpuTelemetry.Roster
