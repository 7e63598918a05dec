import GpuTelemetry.Proofs.Metric.Entries
import GpuTelemetry.Serving.Registry
import Mathlib.Data.List.Nodup

/-!
# What arranging keeps

Leaving out empty families, joining families and ordering them moves entries about and does
nothing else. Presenting a family changes every name and every list of labels in one and the same
way, which takes different time series to different ones.
-/

namespace GpuTelemetry.Serving.Registry

/-- Families without metrics have no entries to lose. -/
theorem entries_filter_isEmpty (families : List Family) :
    (families.filter fun f => !f.metrics.isEmpty).flatMap Family.entries =
      families.flatMap Family.entries := by
  induction families with
  | nil => rfl
  | cons f rest ih =>
    rw [List.filter_cons, List.flatMap_cons]
    cases hm : f.metrics with
    | nil =>
      have he : f.entries = [] := by rw [Family.entries, hm, List.map_nil]
      rw [if_neg (by simp), ih, he, List.nil_append]
    | cons m ms => rw [if_pos (by simp), List.flatMap_cons, ih]

/-- Ordering the metrics of a family orders its entries. -/
theorem entries_mergeSort_perm (f : Family) :
    ({ f with metrics := f.metrics.mergeSort metricLE } : Family).entries.Perm f.entries :=
  (List.mergeSort_perm f.metrics metricLE).map _

/-- Arranging families keeps their entries. -/
theorem entries_arrange_perm (families : List Family) :
    ((arrange families).flatMap Family.entries).Perm (families.flatMap Family.entries) := by
  rw [arrange, List.flatMap_map]
  refine (List.Perm.flatMap_left _ fun f _ => entries_mergeSort_perm f).trans ?_
  refine ((List.mergeSort_perm _ _).flatMap_right _).trans ?_
  have h := Family.entries_foldl_merge_perm [] (families.filter fun f => !f.metrics.isEmpty)
  rwa [List.flatMap_nil, List.nil_append, entries_filter_isEmpty] at h

section Presentation

variable {κ : Type} (registry : Registry κ)

/-- A time series as the registry presents it. -/
def presentSeries (x : Series) : Series :=
  (registry.scope.elim x.1 fun scope => scope ++ "_" ++ x.1,
    x.2 ++ registry.commonLabel.toList)

private theorem series_present (f : Family) :
    (registry.present f).series = f.series.map registry.presentSeries := by
  simp only [Family.series, present, List.map_map]
  rfl

/-- Different time series are presented as different ones. -/
theorem presentSeries_injective : registry.presentSeries.Injective := by
  intro x y h
  have hname := congrArg Prod.fst h
  have hlabels := congrArg Prod.snd h
  refine Prod.ext ?_ (List.append_cancel_right hlabels)
  cases hs : registry.scope with
  | none => simpa only [presentSeries, hs, Option.elim_none] using hname
  | some scope =>
    simp only [presentSeries, hs, Option.elim_some] at hname
    have hl : (scope ++ "_").toList ++ x.1.toList = (scope ++ "_").toList ++ y.1.toList := by
      rw [← String.toList_append, ← String.toList_append, hname]
    exact String.ext (List.append_cancel_left hl)

/-- What is served repeats no time series if the families it is made of repeat none. -/
theorem nodup_series_arrange {families : List Family} (h : (families.flatMap Family.series).Nodup) :
    (((arrange families).map registry.present).flatMap Family.series).Nodup := by
  have hp : ((arrange families).flatMap Family.series).Perm (families.flatMap Family.series) := by
    rw [Family.flatMap_series, Family.flatMap_series]
    exact (entries_arrange_perm families).map _
  have hm : ((arrange families).map registry.present).flatMap Family.series =
      ((arrange families).flatMap Family.series).map registry.presentSeries := by
    rw [List.flatMap_map, List.map_flatMap]
    congr 1
    funext f
    exact registry.series_present f
  rw [hm]
  exact (hp.nodup_iff.mpr h).map registry.presentSeries_injective

end Presentation

end GpuTelemetry.Serving.Registry
