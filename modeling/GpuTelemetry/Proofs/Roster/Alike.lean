import GpuTelemetry.Proofs.Activity.Alike
import GpuTelemetry.Proofs.Metric.Grouping
import GpuTelemetry.Proofs.Roster.Interruption
import Mathlib.Data.List.Forall2

/-!
# Scrapes that are alike

A scrape knows its collectors only by what their updates do, and its clock only by the durations
that it gives away. So rosters whose members do the same scrape the same way, and two clocks make
a difference in time spans and nowhere else.
-/

namespace GpuTelemetry

variable {κ κ' : Type} [Collector κ] [Collector κ']

/-- Members of one name whose updates are alike and come to the same, whatever states they leave. -/
structure Member.Alike (view : Step → Step) (member : Member κ) (member' : Member κ') : Prop where
  /-- They have one name. -/
  name : member.name = member'.name
  /-- Their updates are alike. -/
  update : Activity.Alike view (fun updated updated' => updated.1 = updated'.1)
    (Collector.update member.collector) (Collector.update member'.collector)

namespace Roster

variable {view : Step → Step} {roster : Roster κ} {roster' : Roster κ'} {clock clock' : Clock}

omit [Collector κ] [Collector κ'] in
/-- Closing members is alike if its steps look the same. -/
theorem alike_close {duration duration' : Binary64} {name : String}
    {result : Except Failure Unit}
    (h : (roster.closing duration name result).map view =
      (roster'.closing duration' name result).map view) :
    Activity.Alike view Eq (roster.close duration name result)
      (roster'.close duration' name result) := by
  obtain ⟨hevent, hsamples⟩ := List.cons.inj h
  exact .record hevent (.emitAll hsamples)

/-- Members that are alike run alike, one after the other. -/
theorem alike_runMembers
    (hc : ∀ position name result,
      (roster.closing (clock position) name result).map view =
        (roster'.closing (clock' position) name result).map view)
    {members : List (Member κ)} {members' : List (Member κ')}
    (h : List.Forall₂ (Member.Alike view) members members') (position : Nat) :
    Activity.Alike view (fun ran ran' => ran.1 = ran'.1)
      (roster.runMembers clock position members)
      (roster'.runMembers clock' position members') := by
  induction h generalizing position with
  | nil => exact .done rfl
  | @cons member member' rest rest' hm _ ih =>
    rw [runMembers_cons, runMembers_cons]
    refine hm.update.bind ?_
    rintro ⟨result, collector⟩ ⟨result', collector'⟩ hresult
    obtain rfl : result = result' := hresult
    by_cases hclosed : result = .error .sinkClosed
    · subst hclosed
      refine .record ?_ (.done rfl)
      rw [abandoned, abandoned, hm.name]
    · rw [afterUpdate_of_ne _ _ _ _ _ hclosed, afterUpdate_of_ne _ _ _ _ _ hclosed, hm.name]
      refine (alike_close (hc position member'.name result)).bind ?_
      rintro accepted _ rfl
      cases accepted with
      | true => exact (ih (position + 1)).bind fun ran ran' hran => .done hran
      | false => exact .done rfl

/-- Rosters with members that are alike scrape alike. -/
theorem alike_scrape
    (hc : ∀ position name result,
      (roster.closing (clock position) name result).map view =
        (roster'.closing (clock' position) name result).map view)
    (h : List.Forall₂ (Member.Alike view) roster.members roster'.members) :
    Activity.Alike view (fun done done' => done.1 = done'.1)
      (roster.scrape clock) (roster'.scrape clock') := by
  rw [scrape_eq, scrape_eq]
  exact (alike_runMembers hc h 0).bind fun ran ran' hran => .done hran

end Roster

end GpuTelemetry
