import GpuTelemetry.Proofs.Gpu.Update
import GpuTelemetry.Proofs.Metric.Entries
import GpuTelemetry.Proofs.Roster.Course
import Mathlib.Data.List.Nodup
import Std.Data.String.ToNat

/-!
# The time series of a scrape

Within one update the index label tells devices apart, and the metric name tells the samples of a
device apart. Within one scrape the declared names tell collectors apart, and the collector label
tells the samples about them apart. So if no declared name repeats, no time series does.
-/

namespace GpuTelemetry

@[simp] theorem Sample.series_ofLabelled {labels : List String} (d : LabelledBy labels)
    (value : Binary64) (labelValues : List String) (h : labelValues.length = labels.length) :
    (Sample.ofLabelled d value labelValues h).series = (d.1.name, labels.zip labelValues) :=
  congrArg (Prod.mk d.1.name) (Sample.labels_metric_ofLabelled d value labelValues h)

/-- The time series of a reading: one for each metric, all with the index and the name. -/
theorem GpuDescriptors.map_series_samples (descriptors : GpuDescriptors) (r : DeviceReading) :
    (descriptors.samples r).map Sample.series =
      Quantity.all.map fun q =>
        ((descriptors.of q).1.name, [("gpu_index", toString r.index), ("gpu_name", r.name)]) := by
  rw [samples, List.map_map]
  refine List.map_congr_left fun q _ => ?_
  exact Sample.series_ofLabelled (descriptors.of q) _ [toString r.index, r.name] rfl

namespace GpuCollector

variable {L : Type}

/-- Every sample of a device is of a declared metric. -/
theorem descriptor_mem_of_mem_block (collector : GpuCollector L) {index : Nat}
    {device : Except QueryError Device} {s : Sample} (h : s ∈ collector.block index device) :
    s.descriptor ∈ collector.descriptors.toList := by
  unfold block at h
  split at h
  · cases h
  · split at h
    · obtain ⟨q, hq, rfl⟩ := List.mem_map.mp h
      exact List.mem_map.mpr ⟨q, hq, rfl⟩
    · cases h

/-- Every sample of a device carries the index of the device first. -/
theorem series_of_mem_block (collector : GpuCollector L) {index : Nat}
    {device : Except QueryError Device} {x : Series}
    (h : x ∈ (collector.block index device).map Sample.series) :
    x.2.head? = some ("gpu_index", toString index) := by
  unfold block at h
  split at h
  · cases h
  · split at h
    · rw [GpuDescriptors.map_series_samples] at h
      obtain ⟨q, -, rfl⟩ := List.mem_map.mp h
      rfl
    · cases h

/-- The samples of a device are of different metrics if the declared names differ. -/
theorem nodup_series_block (collector : GpuCollector L)
    (hd : (collector.descriptors.toList.map Descriptor.name).Nodup) (index : Nat)
    (device : Except QueryError Device) :
    ((collector.block index device).map Sample.series).Nodup := by
  unfold block
  split
  · exact List.nodup_nil
  · split
    · apply List.Nodup.of_map Prod.fst
      rw [GpuDescriptors.map_series_samples, List.map_map]
      rwa [GpuDescriptors.toList, List.map_map] at hd
    · exact List.nodup_nil

section Library

variable [DeviceLibrary L]

/-- The samples of an update are the blocks of the counted devices. -/
theorem samples_updateCourse (collector : GpuCollector L) :
    ∃ count, Step.samples collector.updateCourse =
      (List.range' 0 count).flatMap fun i =>
        collector.block i (DeviceLibrary.device collector.counted.library i) := by
  unfold updateCourse
  split
  · exact ⟨0, rfl⟩
  · rename_i count _
    exact ⟨count, collector.counted.samples_surveyCourse count 0⟩

/-- Everything that an update gives is declared. -/
theorem descriptor_mem_of_mem_updateCourse (collector : GpuCollector L) {s : Sample}
    (h : s ∈ Step.samples collector.updateCourse) :
    s.descriptor ∈ Collector.descriptors collector := by
  obtain ⟨count, hc⟩ := collector.samples_updateCourse
  rw [hc] at h
  obtain ⟨i, -, hs⟩ := List.mem_flatMap.mp h
  exact collector.descriptor_mem_of_mem_block hs

/-- Every time series of an update has a declared name. -/
theorem name_mem_of_mem_updateCourse (collector : GpuCollector L) {x : Series}
    (h : x ∈ (Step.samples collector.updateCourse).map Sample.series) :
    x.1 ∈ (Collector.descriptors collector).map Descriptor.name := by
  obtain ⟨s, hs, rfl⟩ := List.mem_map.mp h
  exact List.mem_map.mpr ⟨s.descriptor, collector.descriptor_mem_of_mem_updateCourse hs, rfl⟩

/-- No time series occurs twice in an update if the declared names differ. -/
theorem nodup_series_updateCourse (collector : GpuCollector L)
    (hd : ((Collector.descriptors collector).map Descriptor.name).Nodup) :
    ((Step.samples collector.updateCourse).map Sample.series).Nodup := by
  obtain ⟨count, hc⟩ := collector.samples_updateCourse
  rw [hc, List.map_flatMap, List.nodup_flatMap]
  refine ⟨fun i _ => collector.nodup_series_block hd i _, ?_⟩
  refine (List.nodup_range' (s := 0) (n := count)).imp fun {i j} hij => ?_
  intro x hi hj
  have hindex := collector.series_of_mem_block hi
  rw [collector.series_of_mem_block hj] at hindex
  have htext : Nat.repr j = Nat.repr i := congrArg Prod.snd (Option.some.inj hindex)
  exact hij (Nat.repr_injective htext).symm

end Library

end GpuCollector

namespace Roster

variable {L : Type} [DeviceLibrary L]

/-- The metric names that members declare. -/
def declaredNames (members : List (Member (GpuCollector L))) : List String :=
  (members.flatMap fun member => Collector.descriptors member.collector).map Descriptor.name

/-- The first of some members declares its names before the others. -/
theorem declaredNames_cons (member : Member (GpuCollector L))
    (rest : List (Member (GpuCollector L))) :
    declaredNames (member :: rest) =
      (Collector.descriptors member.collector).map Descriptor.name ++ declaredNames rest := by
  rw [declaredNames, List.flatMap_cons, List.map_append]
  rfl

/-- The two time series about a member. -/
def about (roster : Roster (GpuCollector L)) (member : Member (GpuCollector L)) : List Series :=
  [(roster.duration.1.name, [("collector", member.name)]),
    (roster.success.1.name, [("collector", member.name)])]

omit [DeviceLibrary L] in
private theorem of_mem_about {roster : Roster (GpuCollector L)} {member : Member (GpuCollector L)}
    {x : Series} (h : x ∈ roster.about member) :
    (x.1 = roster.duration.1.name ∨ x.1 = roster.success.1.name) ∧
      x.2 = [("collector", member.name)] := by
  simp only [about, List.mem_cons, List.not_mem_nil, or_false] at h
  rcases h with rfl | rfl
  · exact ⟨Or.inl rfl, rfl⟩
  · exact ⟨Or.inr rfl, rfl⟩

/-- The time series of a scrape: those of each update, and two for each collector. -/
theorem map_series_membersCourse_cons (roster : Roster (GpuCollector L)) (clock : Clock)
    (position : Nat) (member : Member (GpuCollector L)) (rest : List (Member (GpuCollector L))) :
    (Step.samples (roster.membersCourse clock position (member :: rest))).map Sample.series =
      (Step.samples member.collector.updateCourse).map Sample.series ++
        (roster.about member ++
          (Step.samples (roster.membersCourse clock (position + 1) rest)).map Sample.series) := by
  simp only [membersCourse, Step.samples_append, List.map_append, closing, memberSample, about,
    Step.samples_recorded, Step.samples_offered, Step.samples_nil, List.map_cons, List.map_nil,
    Sample.series_ofLabelled, List.zip_cons_cons, List.zip_nil_left]

/-- A time series of a scrape is of a metric that a member declares, or about a member. -/
theorem series_of_mem_membersCourse (roster : Roster (GpuCollector L)) (clock : Clock)
    (position : Nat) (members : List (Member (GpuCollector L))) {x : Series}
    (h : x ∈ (Step.samples (roster.membersCourse clock position members)).map Sample.series) :
    x.1 ∈ declaredNames members ∨
      (x.1 = roster.duration.1.name ∨ x.1 = roster.success.1.name) ∧
        ∃ member ∈ members, x.2 = [("collector", member.name)] := by
  induction members generalizing position with
  | nil => cases h
  | cons member rest ih =>
    rw [map_series_membersCourse_cons, List.mem_append, List.mem_append] at h
    rw [declaredNames_cons, List.mem_append]
    rcases h with h | h | h
    · exact Or.inl (Or.inl (member.collector.name_mem_of_mem_updateCourse h))
    · obtain ⟨hn, hl⟩ := of_mem_about h
      exact Or.inr ⟨hn, member, List.mem_cons_self, hl⟩
    · rcases ih (position + 1) h with hd | ⟨hn, other, hm, hl⟩
      · exact Or.inl (Or.inr hd)
      · exact Or.inr ⟨hn, other, List.mem_cons_of_mem _ hm, hl⟩

/-- No time series occurs twice in a scrape if neither a declared name nor a member's name does. -/
theorem nodup_series_membersCourse (roster : Roster (GpuCollector L)) (clock : Clock)
    (position : Nat) (members : List (Member (GpuCollector L)))
    (hm : (members.map Member.name).Nodup)
    (hd : (roster.duration.1.name :: roster.success.1.name :: declaredNames members).Nodup) :
    ((Step.samples (roster.membersCourse clock position members)).map Sample.series).Nodup := by
  induction members generalizing position with
  | nil => exact List.nodup_nil
  | cons member rest ih =>
    rw [declaredNames_cons] at hd
    simp only [List.nodup_cons, List.mem_cons, List.mem_append, not_or,
      List.nodup_append] at hd
    obtain ⟨⟨hds, hdown, hdrest⟩, ⟨hsown, hsrest⟩, hown, hrest, hdisjoint⟩ := hd
    obtain ⟨hfresh, hnames⟩ := List.nodup_cons.mp hm
    have hlater := ih (position + 1) hnames (by
      simp only [List.nodup_cons, List.mem_cons, not_or]
      exact ⟨⟨hds, hdrest⟩, hsrest, hrest⟩)
    have hbehind : ∀ x ∈ roster.about member,
        ∀ y ∈ (Step.samples (roster.membersCourse clock (position + 1) rest)).map Sample.series,
          x ≠ y := by
      intro x hx y hy he
      subst he
      obtain ⟨hn, hl⟩ := of_mem_about hx
      rcases roster.series_of_mem_membersCourse clock _ rest hy with hr | ⟨-, other, ho, hl'⟩
      · rcases hn with he | he
        · exact hdrest (he ▸ hr)
        · exact hsrest (he ▸ hr)
      · rw [hl] at hl'
        have hname : member.name = other.name := congrArg Prod.snd (List.cons.inj hl').1
        exact hfresh (hname ▸ List.mem_map_of_mem ho)
    rw [map_series_membersCourse_cons, List.nodup_append, List.nodup_append]
    refine ⟨member.collector.nodup_series_updateCourse hown, ⟨?_, hlater, hbehind⟩, ?_⟩
    · refine List.nodup_cons.mpr ⟨fun h => ?_, List.nodup_singleton _⟩
      exact hds (congrArg Prod.fst (List.mem_singleton.mp h))
    · intro x hx y hy he
      subst he
      have hdeclared : x.1 ∈ (Collector.descriptors member.collector).map Descriptor.name :=
        member.collector.name_mem_of_mem_updateCourse hx
      rcases List.mem_append.mp hy with hy | hy
      · rcases (of_mem_about hy).1 with he | he
        · exact hdown (he ▸ hdeclared)
        · exact hsown (he ▸ hdeclared)
      · rcases roster.series_of_mem_membersCourse clock _ rest hy with hr | ⟨he | he, -⟩
        · exact hdisjoint _ hdeclared _ hr rfl
        · exact hdown (he ▸ hdeclared)
        · exact hsown (he ▸ hdeclared)

end Roster

end GpuTelemetry
