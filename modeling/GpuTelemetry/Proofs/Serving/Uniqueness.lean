import GpuTelemetry.Device.Bench
import GpuTelemetry.Proofs.Gpu.Naming
import GpuTelemetry.Proofs.Roster.Series
import GpuTelemetry.Proofs.Serving.Arrangement
import GpuTelemetry.Proofs.Serving.Reached

/-!
# No time series is served twice

Every time series of a scrape is of a declared metric, so two rosters share none: a name in both
would have its digest registered twice. Within a roster the declared names differ for the same
reason, and then so do the time series of one scrape.
-/

namespace GpuTelemetry

namespace Roster

variable {L : Type} [DeviceLibrary L]

/-- The metric names that a roster declares. -/
theorem map_name_descriptors (roster : Roster (GpuCollector L)) :
    roster.descriptors.map Descriptor.name =
      roster.duration.1.name :: roster.success.1.name :: declaredNames roster.members := rfl

/-- The digests of a roster are those of its names. -/
theorem ids_eq_map_name (roster : Roster (GpuCollector L)) :
    roster.ids =
      (roster.descriptors.map Descriptor.name).map fun name => Digest.ofTexts [name] := by
  rw [← map_id_descriptors, List.map_map]
  rfl

/-- Collecting serves exactly the time series of the course. -/
theorem series_collect_perm (roster : Roster (GpuCollector L)) (clock : Clock) :
    ((roster.collect clock).families.flatMap Family.series).Perm
      ((Step.samples (roster.membersCourse clock 0 roster.members)).map Sample.series) := by
  have hf : (roster.collect clock).families =
      Family.group (Step.samples (roster.membersCourse clock 0 roster.members)) := by
    rw [collect, ← course_scrape, ← Activity.samples_perform_empty]
  rw [hf, Family.flatMap_series]
  have h := (Family.entries_group_perm
    (Step.samples (roster.membersCourse clock 0 roster.members))).map Entry.series
  rwa [List.map_map] at h

/-- Collecting serves no time series twice if no digest and no name of a member repeats. -/
theorem nodup_series_collect (roster : Roster (GpuCollector L)) (clock : Clock)
    (hi : roster.ids.Nodup) (hn : roster.names.Nodup) :
    ((roster.collect clock).families.flatMap Family.series).Nodup := by
  refine (roster.series_collect_perm clock).nodup_iff.mpr ?_
  refine roster.nodup_series_membersCourse clock 0 roster.members hn ?_
  rw [← map_name_descriptors]
  rw [ids_eq_map_name] at hi
  exact hi.of_map _

/-- The digest of the name of a served time series is one of the roster. -/
theorem id_mem_of_mem_collect (roster : Roster (GpuCollector L)) (clock : Clock) {x : Series}
    (h : x ∈ (roster.collect clock).families.flatMap Family.series) :
    Digest.ofTexts [x.1] ∈ roster.ids := by
  have hx := (roster.series_collect_perm clock).mem_iff.mp h
  rw [ids_eq_map_name, map_name_descriptors]
  refine List.mem_map_of_mem (f := fun name => Digest.ofTexts [name]) ?_
  rcases roster.series_of_mem_membersCourse clock 0 roster.members hx with hd | ⟨he | he, -⟩
  · exact List.mem_cons_of_mem _ (List.mem_cons_of_mem _ hd)
  · exact he ▸ List.mem_cons_self
  · exact he ▸ List.mem_cons_of_mem _ List.mem_cons_self

end Roster

namespace Serving.Registry

/-- A page of a registry that can be reached holds no time series twice, whatever was registered
and whatever state the libraries are in. -/
theorem nodup_series_gather {L : Type} [DeviceLibrary L] {registry : Registry (GpuCollector L)}
    (h : registry.Reached) (clock : Clock) :
    ((registry.gather clock).1.flatMap Family.series).Nodup := by
  have hs := h.sound
  have hids := hs.ids_perm.nodup_iff.mp hs.ids_nodup
  rw [List.nodup_flatMap] at hids
  obtain ⟨hwithin, hbetween⟩ := hids
  rw [gather, collectAll_eq]
  refine registry.nodup_series_arrange ?_
  rw [List.flatMap_assoc, List.nodup_flatMap]
  constructor
  · intro roster hr
    exact roster.nodup_series_collect clock (hwithin roster hr) (hs.names_nodup roster hr)
  · refine hbetween.imp fun {roster other} hd x hx hy => ?_
    have hid : Digest.ofTexts [x.1] ∈ roster.ids := roster.id_mem_of_mem_collect clock hx
    exact hd hid (other.id_mem_of_mem_collect clock hy)

/-- A roster over one library, built for a namespace. -/
def soleRoster {L : Type} (library : L) (metricNamespace : String) :
    Except Failure (Roster (GpuCollector L)) :=
  (Roster.build { Settings.default with metricNamespace }
    [⟨GpuCollector.collectorName, true, fun context world =>
      ⟨GpuCollector.create library context.metricNamespace (some context.collector), [], world⟩⟩]
    ()).outcome

/-- Two libraries of different kinds, registered for two namespaces and once more for the first. -/
def twoNamespaces : Except Failure (Registry (GpuCollector (Frame ⊕ Reel))) := do
  let device : BenchDevice := ⟨none, ⟨.ok "A", .ok 50, .ok 60, .ok ⟨100, 40, 60⟩⟩⟩
  let frame ← soleRoster (.inl ⟨[device, device], none⟩) "node"
  let reel ← soleRoster (.inr (.start [⟨⟨[device], none⟩, some 3⟩])) "rack"
  return (((Registry.register ⟨none, none, [], [], [], []⟩ frame).2.register reel).2.register
    frame).2

private theorem reached_of_twoNamespaces {registry : Registry (GpuCollector (Frame ⊕ Reel))}
    (h : twoNamespaces = .ok registry) : registry.Reached := by
  obtain ⟨frame, hf, h⟩ := Failure.of_bind_eq_ok h
  obtain ⟨reel, hr, h⟩ := Failure.of_bind_eq_ok h
  cases h
  have hnew : Registry.Reached (L := Frame ⊕ Reel) ⟨none, none, [], [], [], []⟩ :=
    Reached.create (show Registry.create none none = .ok _ from rfl)
  exact ((hnew.register hf).register hr).register hf

/-- Two of the three attempts succeed; the page of both rosters holds no time series twice. -/
theorem nodup_series_gather_twoNamespaces :
    ∃ registry, twoNamespaces = .ok registry ∧ registry.Reached ∧ registry.rosters.length = 2 ∧
      ((registry.gather fun _ => .one).1.flatMap Family.series).Nodup := by
  have hl : (twoNamespaces.map fun registry => registry.rosters.length).toOption = some 2 := by
    decide +kernel
  cases h : twoNamespaces with
  | error failure => rw [h] at hl; cases hl
  | ok registry =>
    rw [h] at hl
    have hr := reached_of_twoNamespaces h
    exact ⟨registry, rfl, hr, Option.some.inj hl, nodup_series_gather hr _⟩

end Serving.Registry

end GpuTelemetry
