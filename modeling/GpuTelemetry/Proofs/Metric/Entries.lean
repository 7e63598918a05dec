import GpuTelemetry.Metric.Family
import Mathlib.Data.List.Perm.Basic

/-!
# The entries of families

An entry is a metric under the name of its family. Grouping samples and joining families move
entries about, and neither loses, adds nor changes one.
-/

namespace GpuTelemetry

/-- A metric with the name of its family. -/
abbrev Entry := String × Metric

/-- What tells one time series from another: the name and the labels. -/
abbrev Series := String × List (String × String)

/-- The time series that an entry is a value of. -/
def Entry.series (entry : Entry) : Series := (entry.1, entry.2.labels)

/-- The entry of a sample. -/
def Sample.entry (s : Sample) : Entry := (s.name, s.metric)

/-- The time series that a sample is a value of. -/
def Sample.series (s : Sample) : Series := s.entry.series

namespace Family

/-- The entries of a family, in order. -/
def entries (f : Family) : List Entry := f.metrics.map fun m => (f.name, m)

/-- The time series of a family, in order. -/
def series (f : Family) : List Series := f.metrics.map fun m => (f.name, m.labels)

/-- The time series of a family are those of its entries. -/
theorem series_eq_map (f : Family) : f.series = f.entries.map Entry.series := by
  simp only [series, entries, List.map_map]
  rfl

/-- The time series of families are those of their entries. -/
theorem flatMap_series (families : List Family) :
    families.flatMap series = (families.flatMap entries).map Entry.series := by
  rw [List.map_flatMap]
  congr 1
  funext f
  exact f.series_eq_map

@[simp] theorem entries_ofSample (s : Sample) : (ofSample s).entries = [s.entry] := rfl

/-- Joining a family adds its entries. -/
theorem entries_merge_perm (families : List Family) (f : Family) :
    ((merge families f).flatMap entries).Perm (families.flatMap entries ++ f.entries) := by
  induction families with
  | nil => simp only [merge, List.flatMap_cons, List.flatMap_nil, List.append_nil,
      List.nil_append, List.Perm.refl]
  | cons head rest ih =>
    unfold merge
    by_cases he : head.name = f.name
    · have hm : ({ head with metrics := head.metrics ++ f.metrics } : Family).entries =
          head.entries ++ f.entries := by
        simp only [entries, List.map_append, he]
      rw [if_pos he, List.flatMap_cons, List.flatMap_cons, hm, List.append_assoc,
        List.append_assoc]
      exact List.perm_append_comm.append_left _
    · rw [if_neg he, List.flatMap_cons, List.flatMap_cons, List.append_assoc]
      exact ih.append_left _

/-- Joining families one after the other adds the entries of all of them. -/
theorem entries_foldl_merge_perm (joined families : List Family) :
    ((families.foldl merge joined).flatMap entries).Perm
      (joined.flatMap entries ++ families.flatMap entries) := by
  induction families generalizing joined with
  | nil => simp only [List.foldl_nil, List.flatMap_nil, List.append_nil, List.Perm.refl]
  | cons f rest ih =>
    rw [List.foldl_cons, List.flatMap_cons, ← List.append_assoc]
    exact (ih (merge joined f)).trans ((entries_merge_perm joined f).append_right _)

/-- The families of samples have exactly the entries of the samples. -/
theorem entries_group_perm (samples : List Sample) :
    ((group samples).flatMap entries).Perm (samples.map Sample.entry) := by
  have h := entries_foldl_merge_perm [] (samples.map ofSample)
  rw [List.flatMap_nil, List.nil_append, List.flatMap_map] at h
  have he : samples.flatMap (fun s => (ofSample s).entries) = samples.map Sample.entry := by
    simp only [entries_ofSample]
    exact (List.map_eq_flatMap).symm
  rwa [he] at h

end Family

end GpuTelemetry
