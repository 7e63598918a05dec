import GpuTelemetry.Proofs.Metric.Entries
import GpuTelemetry.Proofs.Metric.Grouping

/-!
# Families partition the samples

Each sample comes into the one family of its name, and each family collects all samples of one
name. So the families of samples are fixed by three questions: which names occur, and in which
order for the first time; which samples have a name; and which sample has it first.
-/

namespace GpuTelemetry.Family

variable {families : List Family} {f : Family}

private theorem eraseDups_append_singleton (names : List String) (last : String) :
    (names ++ [last]).eraseDups =
      if last ∈ names then names.eraseDups else names.eraseDups ++ [last] := by
  rw [List.eraseDups_append]
  by_cases h : last ∈ names
  · rw [if_pos h]
    simp [List.removeAll, h]
  · rw [if_neg h]
    simp [List.removeAll, h, List.eraseDups_cons]

/-- The names of samples are those of their families, each where it first occurs. -/
theorem map_name_group (samples : List Sample) :
    (group samples).map name = (samples.map Sample.name).eraseDups := by
  induction samples using List.reverseRecOn with
  | nil => rfl
  | append_singleton samples s ih =>
    have hs : (ofSample s).name = s.name := rfl
    have hmem : s.name ∈ samples.map Sample.name ↔ s.name ∈ (group samples).map name := by
      rw [ih, List.mem_eraseDups]
    rw [group_append_singleton, List.map_append, List.map_singleton, eraseDups_append_singleton,
      ← ih]
    by_cases h : s.name ∈ (group samples).map name
    · rw [if_pos (hmem.mpr h), map_name_merge_of_mem (hs ▸ h)]
    · rw [if_neg (mt hmem.mp h), merge_of_not_mem (hs ▸ h), List.map_append, List.map_singleton,
        hs]

/-- The help under a name: that of the first family which has it. -/
def helpOf (wanted : String) (families : List Family) : Option String :=
  (families.find? fun f => f.name = wanted).map help

private theorem helpOf_cons (wanted : String) (f : Family) (rest : List Family) :
    helpOf wanted (f :: rest) = if f.name = wanted then some f.help else helpOf wanted rest := by
  unfold helpOf
  by_cases h : f.name = wanted
  · simp [h]
  · simp [h]

/-- Under the name of a family is its help if the names differ. -/
theorem helpOf_name (h : (families.map name).Nodup) (hf : f ∈ families) :
    helpOf f.name families = some f.help := by
  induction families with
  | nil => exact absurd hf List.not_mem_nil
  | cons head rest ih =>
    obtain ⟨hfresh, hrest⟩ := List.nodup_cons.mp h
    rw [helpOf_cons]
    rcases List.mem_cons.mp hf with rfl | hm
    · rw [if_pos rfl]
    · have hne : ¬ head.name = f.name := fun he => hfresh (he ▸ List.mem_map_of_mem hm)
      rw [if_neg hne, ih hrest hm]

/-- A joined family gives a help only to a name that had none. -/
theorem helpOf_merge (families : List Family) (f : Family) (wanted : String) :
    helpOf wanted (merge families f) =
      (helpOf wanted families).or (if f.name = wanted then some f.help else none) := by
  induction families with
  | nil => rw [merge, helpOf_cons]; rfl
  | cons head rest ih =>
    rw [merge]
    by_cases he : head.name = f.name
    · rw [if_pos he, helpOf_cons, helpOf_cons, ← he]
      by_cases hw : head.name = wanted
      · rw [if_pos hw, if_pos hw, Option.some_or]
      · rw [if_neg hw, if_neg hw, Option.or_none]
    · rw [if_neg he, helpOf_cons, helpOf_cons, ih]
      by_cases hw : head.name = wanted
      · rw [if_pos hw, if_pos hw, Option.some_or]
      · rw [if_neg hw, if_neg hw]

/-- Under each name is the help of the first sample which has it. -/
theorem helpOf_group (samples : List Sample) (wanted : String) :
    helpOf wanted (group samples) =
      (samples.find? fun s => s.name = wanted).map fun s => s.descriptor.help := by
  induction samples using List.reverseRecOn with
  | nil => rfl
  | append_singleton samples s ih =>
    have hs : (ofSample s).name = s.name := rfl
    have hhelp : (ofSample s).help = s.descriptor.help := rfl
    rw [group_append_singleton, helpOf_merge, ih, List.find?_append, Option.map_or, hs, hhelp]
    by_cases hw : s.name = wanted
    · simp [hw]
    · simp [hw]

/-- No metric is lost or added when samples are grouped. -/
theorem metrics_group_perm (samples : List Sample) :
    ((group samples).flatMap metrics).Perm (samples.map Sample.metric) := by
  have hmetrics : (group samples).flatMap metrics =
      ((group samples).flatMap entries).map Prod.snd := by
    rw [List.map_flatMap]
    congr 1
    funext f
    rw [entries, List.map_map]
    exact (List.map_id f.metrics).symm
  rw [hmetrics]
  have h := (entries_group_perm samples).map Prod.snd
  rwa [List.map_map] at h

/-- Families have as many metrics as there are samples. -/
theorem length_metrics_group (samples : List Sample) :
    ((group samples).flatMap metrics).length = samples.length := by
  rw [(metrics_group_perm samples).length_eq, List.length_map]

/-- Samples have families, and only samples do. -/
theorem group_eq_nil_iff (samples : List Sample) : group samples = [] ↔ samples = [] := by
  constructor
  · intro he
    have hlength := length_metrics_group samples
    rw [he] at hlength
    exact List.length_eq_zero_iff.mp hlength.symm
  · rintro rfl
    rfl

/-- A family that collects the samples of its name. -/
structure Collects (samples : List Sample) (f : Family) : Prop where
  /-- The metrics are those of all samples of the name, in the order of the samples. -/
  metrics : f.metrics = (samples.filter fun s => s.name = f.name).map Sample.metric
  /-- There is a metric. -/
  nonempty : f.metrics ≠ []
  /-- The help is that of the first sample of the name. -/
  help : ∃ first, samples.find? (fun s => s.name = f.name) = some first ∧
    f.help = first.descriptor.help
  /-- The family is one of gauges. -/
  gauge : f.kind = .gauge

/-- Each family collects the samples of its name. -/
theorem collects_of_mem_group {samples : List Sample} (hf : f ∈ group samples) :
    f.Collects samples := by
  have hshape : f.metrics ≠ [] ∧ f.kind = .gauge := by
    refine forall_mem_group (P := fun f => f.metrics ≠ [] ∧ f.kind = .gauge) ?_ ?_ f hf
    · exact fun s _ => ⟨List.cons_ne_nil _ _, rfl⟩
    · exact fun head f hh _ _ => ⟨List.append_ne_nil_of_left_ne_nil hh.1 _, hh.2⟩
  have hhelp := helpOf_name (nodup_name_group samples) hf
  rw [helpOf_group, Option.map_eq_some_iff] at hhelp
  obtain ⟨first, hfirst, he⟩ := hhelp
  exact ⟨metrics_of_mem_group hf, hshape.1, ⟨first, hfirst, he.symm⟩, hshape.2⟩

/-- Families of one name that collect the same samples are the same. -/
theorem Collects.eq_of_name {samples : List Sample} {f g : Family} (hf : f.Collects samples)
    (hg : g.Collects samples) (he : f.name = g.name) : f = g := by
  obtain ⟨first, hfirst, hhelp⟩ := hf.help
  obtain ⟨first', hfirst', hhelp'⟩ := hg.help
  have hsame : first = first' := by
    rw [he, hfirst'] at hfirst
    exact (Option.some.inj hfirst).symm
  have hmetrics := hf.metrics
  have hmetrics' := hg.metrics
  have hkind := hf.gauge.trans hg.gauge.symm
  obtain ⟨name, help, kind, metrics⟩ := f
  obtain ⟨name', help', kind', metrics'⟩ := g
  dsimp only at he hhelp hhelp' hmetrics hmetrics' hkind
  rw [he, hhelp, hhelp', hsame, hkind, hmetrics, hmetrics', he]

/-- The families of samples are those that collect them under their names, in the order in which the
names first occur. -/
theorem group_eq_of_collects {samples : List Sample}
    (hn : families.map name = (samples.map Sample.name).eraseDups)
    (hf : ∀ f ∈ families, f.Collects samples) : group samples = families := by
  have hnames := (map_name_group samples).trans hn.symm
  have hcollects : ∀ f ∈ group samples, f.Collects samples := fun _ => collects_of_mem_group
  clear hn
  generalize group samples = joined at hnames hcollects
  induction joined generalizing families with
  | nil => exact (List.map_eq_nil_iff.mp hnames.symm).symm
  | cons head rest ih =>
    cases families with
    | nil => cases hnames
    | cons f others =>
      obtain ⟨hname, hrest⟩ := List.cons.inj hnames
      obtain ⟨hhead, hcollects⟩ := List.forall_mem_cons.mp hcollects
      obtain ⟨hfirst, hothers⟩ := List.forall_mem_cons.mp hf
      rw [hhead.eq_of_name hfirst hname, ih hothers hrest hcollects]

/-- Grouping gives one family for each name, in the order of first occurrence; each collects the
samples of its name, and none is lost. -/
theorem group_partitions (samples : List Sample) :
    ((group samples).map name).Nodup ∧
    (group samples).map name = (samples.map Sample.name).eraseDups ∧
    (∀ f ∈ group samples, f.Collects samples) ∧
    ((group samples).flatMap metrics).length = samples.length :=
  ⟨nodup_name_group samples, map_name_group samples, fun _ => collects_of_mem_group,
    length_metrics_group samples⟩

end GpuTelemetry.Family
