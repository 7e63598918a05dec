import GpuTelemetry.Metric.Family
import Mathlib.Data.List.Induction
import Mathlib.Data.List.Nodup

/-!
# Families under distinct names

Joining families leaves one for each name. Where the names differ already, there is nothing to
join, and the families stay as they are and where they are. A family of samples has the metrics of
all samples of its name, in their order. Which metrics come together does not depend on their
values, so the values of one name can be left out before or after.
-/

namespace GpuTelemetry

namespace Family

variable {families : List Family} {f : Family}

/-- A family under a new name comes behind all others. -/
theorem merge_of_not_mem (h : f.name ∉ families.map name) :
    merge families f = families ++ [f] := by
  induction families with
  | nil => rfl
  | cons head rest ih =>
    rw [List.map_cons, List.mem_cons, not_or] at h
    obtain ⟨hhead, hrest⟩ := h
    rw [merge, if_neg (Ne.symm hhead), ih hrest, List.cons_append]

/-- A family under a known name brings no new name. -/
theorem map_name_merge_of_mem (h : f.name ∈ families.map name) :
    (merge families f).map name = families.map name := by
  induction families with
  | nil => exact absurd h List.not_mem_nil
  | cons head rest ih =>
    unfold merge
    by_cases he : head.name = f.name
    · rw [if_pos he, List.map_cons, List.map_cons]
    · rw [List.map_cons, List.mem_cons] at h
      have hrest : f.name ∈ rest.map name := h.resolve_left (Ne.symm he)
      rw [if_neg he, List.map_cons, List.map_cons, ih hrest]

/-- Joining a family repeats no name. -/
theorem nodup_name_merge (h : (families.map name).Nodup) (f : Family) :
    ((merge families f).map name).Nodup := by
  by_cases hf : f.name ∈ families.map name
  · rwa [map_name_merge_of_mem hf]
  · rw [merge_of_not_mem hf, List.map_append, List.map_singleton]
    exact h.append (List.nodup_singleton _) (List.disjoint_singleton.mpr hf)

/-- Families of samples have different names. -/
theorem nodup_name_group (samples : List Sample) : ((group samples).map name).Nodup := by
  induction samples using List.reverseRecOn with
  | nil => exact List.nodup_nil
  | append_singleton samples s ih =>
    rw [group_append_singleton]
    exact nodup_name_merge ih (ofSample s)

/-- What holds of families, and of two of one name together if it holds of each, holds of every
family after joining one more. -/
theorem forall_mem_merge {P : Family → Prop}
    (hjoin : ∀ head f, P head → P f → head.name = f.name →
      P { head with metrics := head.metrics ++ f.metrics })
    (hfamilies : ∀ g ∈ families, P g) (hf : P f) : ∀ g ∈ merge families f, P g := by
  induction families with
  | nil =>
    intro g hg
    exact List.mem_singleton.mp hg ▸ hf
  | cons head rest ih =>
    obtain ⟨hhead, hrest⟩ := List.forall_mem_cons.mp hfamilies
    unfold merge
    by_cases he : head.name = f.name
    · rw [if_pos he]
      exact List.forall_mem_cons.mpr ⟨hjoin head f hhead hf he, hrest⟩
    · rw [if_neg he]
      exact List.forall_mem_cons.mpr ⟨hhead, ih hrest⟩

/-- The same, after joining families one after the other. -/
theorem forall_mem_foldl_merge {P : Family → Prop} {joined : List Family}
    (hjoin : ∀ head f, P head → P f → head.name = f.name →
      P { head with metrics := head.metrics ++ f.metrics })
    (hjoined : ∀ g ∈ joined, P g) (hfamilies : ∀ f ∈ families, P f) :
    ∀ g ∈ families.foldl merge joined, P g := by
  induction families generalizing joined with
  | nil => exact hjoined
  | cons f rest ih =>
    obtain ⟨hf, hrest⟩ := List.forall_mem_cons.mp hfamilies
    exact ih (forall_mem_merge hjoin hjoined hf) hrest

/-- What holds of families of single samples, and of a merged family if of both its parts, holds
of every family of samples. -/
theorem forall_mem_group {P : Family → Prop} {samples : List Sample}
    (hs : ∀ s ∈ samples, P (ofSample s))
    (hjoin : ∀ head f, P head → P f → head.name = f.name →
      P { head with metrics := head.metrics ++ f.metrics }) :
    ∀ f ∈ group samples, P f := by
  refine forall_mem_foldl_merge hjoin (fun _ hg => absurd hg List.not_mem_nil) fun f hf => ?_
  obtain ⟨s, hm, rfl⟩ := List.mem_map.mp hf
  exact hs s hm

/-- The metrics under a name, family by family. -/
def metricsOf (wanted : String) (families : List Family) : List Metric :=
  families.flatMap fun f => if f.name = wanted then f.metrics else []

private theorem metricsOf_cons (wanted : String) (f : Family) (rest : List Family) :
    metricsOf wanted (f :: rest) =
      (if f.name = wanted then f.metrics else []) ++ metricsOf wanted rest :=
  List.flatMap_cons

private theorem metricsOf_eq_nil {wanted : String} (h : wanted ∉ families.map name) :
    metricsOf wanted families = [] := by
  induction families with
  | nil => rfl
  | cons f rest ih =>
    rw [List.map_cons, List.mem_cons, not_or] at h
    rw [metricsOf_cons, if_neg (Ne.symm h.1), ih h.2, List.append_nil]

/-- Under the name of a family are its metrics if the names differ. -/
theorem metricsOf_name (h : (families.map name).Nodup) (hf : f ∈ families) :
    metricsOf f.name families = f.metrics := by
  induction families with
  | nil => exact absurd hf List.not_mem_nil
  | cons head rest ih =>
    obtain ⟨hfresh, hrest⟩ := List.nodup_cons.mp h
    rw [metricsOf_cons]
    rcases List.mem_cons.mp hf with rfl | hm
    · rw [if_pos rfl, metricsOf_eq_nil hfresh, List.append_nil]
    · have hne : ¬ head.name = f.name := fun he => hfresh (he ▸ List.mem_map_of_mem hm)
      rw [if_neg hne, List.nil_append, ih hrest hm]

/-- Joined metrics come behind the others of their name. -/
theorem metricsOf_merge (h : (families.map name).Nodup) (f : Family) (wanted : String) :
    metricsOf wanted (merge families f) =
      metricsOf wanted families ++ if f.name = wanted then f.metrics else [] := by
  induction families with
  | nil =>
    rw [merge, metricsOf_cons]
    exact List.append_nil _
  | cons head rest ih =>
    obtain ⟨hfresh, hrest⟩ := List.nodup_cons.mp h
    rw [merge]
    by_cases he : head.name = f.name
    · rw [if_pos he, metricsOf_cons, metricsOf_cons, ← he]
      by_cases hw : head.name = wanted
      · subst hw
        have hothers : metricsOf head.name rest = [] := metricsOf_eq_nil hfresh
        rw [if_pos rfl, if_pos rfl, if_pos rfl, hothers, List.append_nil, List.append_nil]
      · rw [if_neg hw, if_neg hw, if_neg hw, List.append_nil]
    · rw [if_neg he, metricsOf_cons, metricsOf_cons, ih hrest, List.append_assoc]

/-- Under each name are the metrics of its samples, in order. -/
theorem metricsOf_group (samples : List Sample) (wanted : String) :
    metricsOf wanted (group samples) =
      (samples.filter fun s => s.name = wanted).map Sample.metric := by
  induction samples using List.reverseRecOn with
  | nil => rfl
  | append_singleton samples s ih =>
    have hs : (ofSample s).name = s.name := rfl
    rw [group_append_singleton, metricsOf_merge (nodup_name_group samples), ih, List.filter_append,
      List.map_append, hs]
    by_cases hw : s.name = wanted
    · rw [if_pos hw, List.filter_singleton, decide_eq_true hw]
      rfl
    · rw [if_neg hw, List.filter_singleton, decide_eq_false hw]
      rfl

/-- A family of samples has the metrics of all samples of its name, in order. -/
theorem metrics_of_mem_group {samples : List Sample} (hf : f ∈ group samples) :
    f.metrics = (samples.filter fun s => s.name = f.name).map Sample.metric := by
  rw [← metricsOf_group, metricsOf_name (nodup_name_group samples) hf]

end Family

/-- The sample with its value left out if it has the given name. -/
def Sample.untimed (duration : String) (s : Sample) : Sample :=
  if s.name = duration then { s with value := .zero false } else s

namespace Family

/-- The family with its values left out if it has the given name. -/
def untimed (duration : String) (f : Family) : Family :=
  if f.name = duration then
    { f with metrics := f.metrics.map fun m => { m with value := .zero false } }
  else f

end Family

end GpuTelemetry
