import GpuTelemetry.Device.Bench
import GpuTelemetry.Proofs.Gpu.Readings
import GpuTelemetry.Proofs.Roster.Alike
import GpuTelemetry.Proofs.Roster.Reach

/-!
# Sessions over changing devices

Every count moves a reel on to its next scene, so that members which were reached by different
scrapes stand at different scenes. That is all that a session leaves behind: whatever was asked
before, a request is answered as by a roster over new reels, each of which starts at the scene whose
number is the number of requests that ran its member. A request that asks what there is runs none,
one that collects runs all, and a scrape runs the first ones, up to that at which it stops.
-/

namespace GpuTelemetry

namespace GpuCollector

variable {L L' : Type} [DeviceLibrary L] [DeviceLibrary L']

/-- Collectors that find the same devices in their next updates, and say so in the same words. -/
structure SameReadings (collector : GpuCollector L) (collector' : GpuCollector L') : Prop where
  /-- They have the same metrics. -/
  descriptors : collector.descriptors = collector'.descriptors
  /-- They log in the same span. -/
  span : collector.span = collector'.span
  /-- They get the same count. -/
  count : (DeviceLibrary.enumerate collector.library).1 =
    (DeviceLibrary.enumerate collector'.library).1
  /-- They find the same devices then. -/
  device : ∀ index, DeviceLibrary.device collector.counted.library index =
    DeviceLibrary.device collector'.counted.library index

/-- Collectors with the same readings have updates that are alike. -/
theorem SameReadings.alike_update {collector : GpuCollector L} {collector' : GpuCollector L'}
    (h : SameReadings collector collector') (view : Step → Step) :
    Activity.Alike view (fun updated updated' => updated.1 = updated'.1)
      (Collector.update collector) (Collector.update collector') :=
  alike_update_of_readings h.descriptors h.span h.count (fun _ _ i _ => h.device i) view

end GpuCollector

namespace Reel

/-- The reel after it was counted some more times. -/
def advanced (reel : Reel) (times : Nat) : Reel := { reel with counted := reel.counted + times }

/-- A new reel that starts where this one stands after it was counted some more times. -/
def restarted (reel : Reel) (times : Nat) : Reel :=
  .start (reel.scenes.drop (min (reel.counted + times) (reel.scenes.length - 1)))

/-- The first scene of the new reel is the one that the old one has got to. -/
theorem scene_restarted (reel : Reel) (times : Nat) :
    (reel.restarted times).scene 0 = reel.scene (reel.counted + times) := by
  simp only [scene, restarted, start, Nat.zero_min, List.getElem?_drop, Nat.add_zero]

end Reel

/-- The member over another library. -/
def Member.withLibrary {L L' : Type} (member : Member (GpuCollector L)) (library : L') :
    Member (GpuCollector L') :=
  ⟨member.name, member.collector.withLibrary library⟩

/-- A reel that was counted before and a new one from there on give the same readings. -/
theorem sameReadings_restarted (collector : GpuCollector Reel) (times : Nat) :
    GpuCollector.SameReadings (collector.withLibrary (collector.library.advanced times))
      (collector.withLibrary (collector.library.restarted times)) := by
  have hscene := collector.library.scene_restarted times
  refine ⟨rfl, rfl, ?_, ?_⟩
  · exact congrArg Scene.count hscene.symm
  · intro index
    exact congrArg (fun scene : Scene => scene.frame.device index) hscene.symm

namespace Roster

variable {τ : Type} [Sink τ] (roster : Roster (GpuCollector Reel))

/-- The roster with the reel of each member replaced. -/
def withReels (change : Nat → Reel → Reel) : Roster (GpuCollector Reel) :=
  { roster with members := roster.members.mapIdx fun i member =>
      member.withLibrary (change i member.collector.library) }

/-- The roster after the reel of each member was counted some more times. -/
def advanced (times : Nat → Nat) : Roster (GpuCollector Reel) :=
  roster.withReels fun i reel => reel.advanced (times i)

/-- The roster over new reels, that of each member starting where the old one stands after it was
counted some more times. -/
def restarted (times : Nat → Nat) : Roster (GpuCollector Reel) :=
  roster.withReels fun i reel => reel.restarted (times i)

/-- How often the reel of each member was counted. -/
def counts : List Nat := roster.members.map fun member => member.collector.library.counted

private theorem names_withReels (change : Nat → Reel → Reel) :
    (roster.withReels change).names = roster.names := by
  apply List.ext_getElem?
  intro i
  simp only [names, withReels, List.getElem?_map, List.getElem?_mapIdx, Option.map_map]
  rfl

private theorem isEmpty_withReels (change : Nat → Reel → Reel) :
    (roster.withReels change).isEmpty = roster.isEmpty := by
  have hnames (r : Roster (GpuCollector Reel)) : r.isEmpty = r.names.isEmpty :=
    List.isEmpty_map.symm
  rw [hnames, hnames, names_withReels]

private theorem descriptors_withReels (change : Nat → Reel → Reel) :
    (roster.withReels change).descriptors = roster.descriptors :=
  roster.descriptors_mapIdx fun _ _ => rfl

@[simp] theorem advanced_zero : roster.advanced (fun _ => 0) = roster := by
  have hmembers : (roster.members.mapIdx fun _ member =>
      member.withLibrary (member.collector.library.advanced 0)) = roster.members := by
    apply List.ext_getElem?
    intro i
    rw [List.getElem?_mapIdx]
    exact Option.map_id'
  rw [advanced, withReels, hmembers]

/-- Advances add up. -/
theorem advanced_advanced (times more : Nat → Nat) :
    (roster.advanced times).advanced more = roster.advanced fun i => times i + more i := by
  have hadvanced (reel : Reel) (n m : Nat) : (reel.advanced n).advanced m = reel.advanced (n + m) :=
    congrArg (Reel.mk reel.scenes) (Nat.add_assoc reel.counted n m)
  simp only [advanced, withReels, List.mapIdx_mapIdx, Member.withLibrary, GpuCollector.withLibrary,
    Function.comp_def, hadvanced]

/-- Answering a request moves the reels of the members that it runs on by one scene, and changes
nothing else. -/
theorem answer_eq_advanced (request : Request τ) :
    (roster.answer request).2 =
      roster.advanced fun i => if request.reaches roster i then 1 else 0 := by
  rw [roster_answer, advanced, withReels]
  refine congrArg (Roster.mk _ _) (congrArg (roster.members.mapIdx ·) ?_)
  funext i member
  by_cases h : request.reaches roster i = true
  · rw [if_pos h, if_pos h]
    rfl
  · rw [if_neg h, if_neg h]
    rfl

private theorem answerAll_cons (request : Request τ) (rest : List (Request τ)) :
    roster.answerAll (request :: rest) =
      ((roster.answer request).1 :: ((roster.answer request).2.answerAll rest).1,
        ((roster.answer request).2.answerAll rest).2) := rfl

/-- After a session, each reel has moved on by as many scenes as requests ran its member. -/
theorem answerAll_eq_advanced (requests : List (Request τ)) :
    (roster.answerAll requests).2 = roster.advanced (roster.visits requests) := by
  induction requests generalizing roster with
  | nil => exact roster.advanced_zero.symm
  | cons request rest ih =>
    let next := (roster.answer request).2
    calc (roster.answerAll (request :: rest)).2
        = next.advanced (next.visits rest) := ih next
      _ = (roster.advanced fun i => if request.reaches roster i then 1 else 0).advanced
            (next.visits rest) :=
          congrArg (fun moved => moved.advanced (next.visits rest))
            (roster.answer_eq_advanced request)
      _ = roster.advanced (roster.visits (request :: rest)) := roster.advanced_advanced _ _

/-- One more request is answered by the roster that the session before it leaves. -/
theorem answerAll_append (requests more : List (Request τ)) :
    (roster.answerAll (requests ++ more)).1 =
      (roster.answerAll requests).1 ++ ((roster.answerAll requests).2.answerAll more).1 := by
  induction requests generalizing roster with
  | nil => rfl
  | cons request rest ih =>
    rw [List.cons_append, answerAll_cons, answerAll_cons, ih]
    rfl

private theorem length_answerAll (requests : List (Request τ)) :
    (roster.answerAll requests).1.length = requests.length := by
  induction requests generalizing roster with
  | nil => rfl
  | cons request rest ih => rw [answerAll_cons, List.length_cons, ih, List.length_cons]

/-- Each request has its answer at its own place in the session. -/
theorem getElem?_answerAll (before : List (Request τ)) (request : Request τ)
    (after : List (Request τ)) :
    (roster.answerAll (before ++ request :: after)).1[before.length]? =
      some ((roster.answerAll before).2.answer request).1 := by
  rw [answerAll_append, ← roster.length_answerAll before,
    List.getElem?_append_right (Nat.le_refl _), Nat.sub_self]
  rfl

omit [Sink τ] in
/-- A roster whose reels were counted before and one over new reels have members that are alike. -/
theorem alike_restarted (view : Step → Step) (times : Nat → Nat) :
    List.Forall₂ (Member.Alike view) (roster.advanced times).members
      (roster.restarted times).members := by
  rw [List.forall₂_iff_get]
  refine ⟨by simp only [advanced, restarted, withReels, List.length_mapIdx], ?_⟩
  intro i h h'
  simp only [advanced, restarted, withReels, List.get_eq_getElem, List.getElem_mapIdx]
  exact ⟨rfl, (sameReadings_restarted _ _).alike_update view⟩

omit [Sink τ] in
/-- Both scrape alike, with the same clock in every respect and with different ones up to time
spans. -/
theorem alike_scrape_restarted (times : Nat → Nat) :
    (∀ clock, Activity.Alike id (fun done done' => done.1 = done'.1)
      ((roster.advanced times).scrape clock) ((roster.restarted times).scrape clock)) ∧
    ∀ clock clock', Activity.Alike (Step.untimed roster.duration.1)
      (fun done done' => done.1 = done'.1)
      ((roster.advanced times).scrape clock) ((roster.restarted times).scrape clock') := by
  constructor
  · intro clock
    exact alike_scrape (fun _ _ _ => rfl) (roster.alike_restarted id times)
  · intro clock clock'
    exact alike_scrape (fun _ name result => roster.closing_untimed _ _ name result)
      (roster.alike_restarted _ times)

/-- Both give the same answer to a request. -/
theorem answer_restarted (times : Nat → Nat) (request : Request τ) :
    ((roster.advanced times).answer request).1 = ((roster.restarted times).answer request).1 := by
  have halike := (roster.alike_scrape_restarted times).1
  cases request with
  | names =>
    simp only [answer, advanced, restarted, names_withReels, isEmpty_withReels]
  | descriptors =>
    simp only [answer, advanced, restarted, descriptors_withReels]
  | scrape sink clock =>
    obtain ⟨hresult, -, hsink, hlog⟩ := (halike clock).perform_same sink
    simp only [answer, hresult, hsink, hlog]
  | collect clock =>
    obtain ⟨hresult, -, hsink, hlog⟩ := (halike clock).perform_same Collected.empty
    simp only [answer, collect, hresult, hsink, hlog]

omit [Sink τ] in
/-- The counts of a roster whose reels were counted some more times. -/
theorem counts_advanced (times : Nat → Nat) :
    (roster.advanced times).counts = roster.counts.mapIdx fun i count => count + times i := by
  apply List.ext_getElem?
  intro i
  simp only [counts, advanced, withReels, List.getElem?_map, List.getElem?_mapIdx, Option.map_map]
  rfl

/-- At every point of a session the next request is answered as over new reels that start where
earlier requests got them. -/
theorem answer_eq_restarted (before : List (Request τ)) (request : Request τ)
    (after : List (Request τ)) :
    let now := (roster.answerAll before).2
    let next := (now.answer request).2
    let fresh := roster.restarted (roster.visits before)
    (roster.answerAll (before ++ request :: after)).1[before.length]? =
      some (now.answer request).1 ∧
    (now.answer request).1 = (fresh.answer request).1 ∧
    now.names = roster.names ∧ now.descriptors = roster.descriptors ∧
    now.counts = roster.counts.mapIdx (fun i count => count + roster.visits before i) ∧
    next.counts = now.counts.mapIdx
      (fun i count => if request.reaches now i then count + 1 else count) ∧
    (∀ (clock : Clock) (sink : τ),
      (now.scrape clock).trace sink = (fresh.scrape clock).trace sink ∧
      now.reaches clock sink 0 = true ∧
      (∀ i, now.reaches clock sink (i + 1) = true → now.reaches clock sink i = true) ∧
      ((now.scrape clock).perform sink).result.1.isOk =
        now.reaches clock sink now.members.length) ∧
    (∀ clock i, now.reaches clock Collected.empty i = true) ∧
    (∀ (σ : Type) [Sink σ] (sink sink' : σ) (clock clock' : Clock),
      Sink.Agree (Step.untimed roster.duration.1) sink sink' →
      ((now.scrape clock).perform sink).result.1 =
        ((fresh.scrape clock').perform sink').result.1 ∧
      ((now.scrape clock).trace sink).map (Step.untimed roster.duration.1) =
        ((fresh.scrape clock').trace sink').map (Step.untimed roster.duration.1)) := by
  have hnow := roster.answerAll_eq_advanced before
  dsimp only
  refine ⟨roster.getElem?_answerAll before request after, ?_, ?_, ?_, ?_, ?_, ?_, ?_, ?_⟩
  · rw [hnow]
    exact roster.answer_restarted _ request
  · rw [hnow]
    exact roster.names_withReels _
  · rw [hnow]
    exact roster.descriptors_withReels _
  · rw [hnow]
    exact roster.counts_advanced _
  · rw [answer_eq_advanced, counts_advanced]
    refine congrArg (List.mapIdx · _) (funext fun i => funext fun count => ?_)
    by_cases h : request.reaches (roster.answerAll before).2 i = true
    · rw [if_pos h, if_pos h]
    · rw [if_neg h, if_neg h, Nat.add_zero]
  · intro clock sink
    have halike := (roster.alike_scrape_restarted (roster.visits before)).1 clock
    rw [hnow]
    refine ⟨(halike.perform_same sink).2.1, reaches_zero _ clock sink, ?_,
      result_scrape_isOk _ clock sink⟩
    intro i
    exact reaches_of_reaches_succ _
  · intro clock i
    exact reaches_empty _ clock i
  · intro σ _ sink sink' clock clock' hs
    have halike := (roster.alike_scrape_restarted (roster.visits before)).2 clock clock'
    rw [hnow]
    exact halike.perform hs

end Roster

end GpuTelemetry
