import GpuTelemetry.Proofs.Roster.Course
import GpuTelemetry.Proofs.Roster.Names
import GpuTelemetry.Serving.Registry
import Mathlib.Data.List.Nodup

/-!
# Registries that can be reached

A registry starts empty. Rosters are registered with or without success, pages are gathered, and
in between the devices change as they please. Whatever the order, no digest of a declared metric
is registered twice, and the names in a roster differ.
-/

namespace GpuTelemetry

namespace Roster

variable {L : Type}

/-- The roster with its libraries taken out. -/
def bare (roster : Roster (GpuCollector L)) : Roster (GpuCollector Unit) :=
  roster.map fun collector => collector.withLibrary ()

/-- The digests of the metrics that a roster declares. -/
def ids (roster : Roster (GpuCollector L)) : List UInt64 :=
  (roster.duration.1 :: roster.success.1 ::
    roster.members.flatMap fun member => member.collector.descriptors.toList).map Descriptor.id

/-- The digests do not depend on the libraries. -/
@[simp] theorem ids_bare (roster : Roster (GpuCollector L)) : roster.bare.ids = roster.ids := by
  simp only [ids, bare, Roster.map, List.flatMap_map]
  rfl

@[simp] theorem names_bare (roster : Roster (GpuCollector L)) : roster.bare.names = roster.names :=
  names_map _ roster

variable [DeviceLibrary L]

/-- The digests of a roster are those of its descriptors. -/
theorem map_id_descriptors (roster : Roster (GpuCollector L)) :
    roster.descriptors.map Descriptor.id = roster.ids := rfl

/-- Collecting changes nothing but the libraries. -/
@[simp] theorem bare_collect (roster : Roster (GpuCollector L)) (clock : Clock) :
    (roster.collect clock).roster.bare = roster.bare := by
  have hr := Activity.result_of_accepts (roster.scrape clock) (Collected.willing .empty _)
  have hc : (roster.collect clock).roster =
      { roster with members := roster.members.map Member.counted } := by
    rw [collect, hr, outcome_scrape]
  rw [hc]
  simp only [bare, Roster.map, List.map_map]
  rfl

end Roster

namespace Serving.Registry

/-- Checked metrics have new digests, all different, and these are what the check gives. -/
theorem of_checkAll_eq_ok {ids own own' : List UInt64} {shapes shapes' : List (String × UInt64)}
    {ds : List Descriptor} (h : checkAll ids own shapes ds = (.ok own', shapes')) :
    own' = (ds.map Descriptor.id).reverse ++ own ∧ (ds.map Descriptor.id).Nodup ∧
      ∀ d ∈ ds, d.id ∉ ids ∧ d.id ∉ own := by
  induction ds generalizing own shapes with
  | nil =>
    cases h
    exact ⟨rfl, List.nodup_nil, fun _ hd => absurd hd List.not_mem_nil⟩
  | cons d rest ih =>
    unfold checkAll at h
    by_cases hids : d.id ∈ ids
    · rw [if_pos hids] at h
      cases h
    · rw [if_neg hids] at h
      dsimp only at h
      split at h
      · cases h
      · by_cases hown : d.id ∈ own
        · rw [if_pos hown] at h
          cases h
        · rw [if_neg hown] at h
          obtain ⟨he, hn, hf⟩ := ih h
          refine ⟨?_, ?_, ?_⟩
          · rw [he, List.map_cons, List.reverse_cons, List.append_assoc]
            rfl
          · refine List.nodup_cons.mpr ⟨fun hm => ?_, hn⟩
            obtain ⟨other, ho, hid⟩ := List.mem_map.mp hm
            exact (hf other ho).2 (hid ▸ List.mem_cons_self)
          · intro other ho
            rcases List.mem_cons.mp ho with rfl | ho
            · exact ⟨hids, hown⟩
            · exact ⟨(hf other ho).1, fun hm => (hf other ho).2 (List.mem_cons_of_mem _ hm)⟩

/-- Collecting goes through the rosters one by one. -/
theorem collectAll_eq {κ : Type} [Collector κ] (clock : Clock) (rosters : List (Roster κ)) :
    collectAll clock rosters =
      (rosters.flatMap fun roster => (roster.collect clock).families,
        rosters.map fun roster => (roster.collect clock).roster) := by
  induction rosters with
  | nil => rfl
  | cons roster rest ih =>
    rw [collectAll, ih]
    rfl

variable {L : Type}

/-- A registry whose digests are those of its rosters and differ, as the names in each do. -/
structure Sound (registry : Registry (GpuCollector L)) : Prop where
  /-- Exactly the digests of the registered rosters are registered. -/
  ids_perm : registry.ids.Perm (registry.rosters.flatMap Roster.ids)
  /-- No digest occurs twice. -/
  ids_nodup : registry.ids.Nodup
  /-- No name occurs twice in a roster. -/
  names_nodup : ∀ roster ∈ registry.rosters, roster.names.Nodup

namespace Sound

variable {registry : Registry (GpuCollector L)}

/-- A new registry is sound. -/
theorem of_create {scope : Option String} {label : Option (String × String)}
    (h : Registry.create scope label = .ok registry) : registry.Sound := by
  unfold Registry.create at h
  split at h
  · cases h
  · cases h
    exact ⟨List.Perm.refl _, List.nodup_nil, fun _ hr => absurd hr List.not_mem_nil⟩

/-- Other states of the libraries make no difference. -/
theorem with_rosters (h : registry.Sound) {rosters : List (Roster (GpuCollector L))}
    (hb : rosters.map Roster.bare = registry.rosters.map Roster.bare) :
    { registry with rosters }.Sound := by
  have hids : rosters.flatMap Roster.ids = registry.rosters.flatMap Roster.ids := by
    have hi := congrArg (List.flatMap Roster.ids) hb
    simpa only [List.flatMap_map, Roster.ids_bare] using hi
  refine ⟨?_, h.ids_nodup, fun roster hr => ?_⟩
  · rw [hids]
    exact h.ids_perm
  · have hm := List.mem_map_of_mem (f := Roster.bare) hr
    rw [hb] at hm
    obtain ⟨old, ho, he⟩ := List.mem_map.mp hm
    rw [← Roster.names_bare, ← he, Roster.names_bare]
    exact h.names_nodup old ho

variable [DeviceLibrary L]

/-- An attempt to register a roster whose names differ keeps a registry sound. -/
theorem register (h : registry.Sound) {roster : Roster (GpuCollector L)}
    (hn : roster.names.Nodup) : (registry.register roster).2.Sound := by
  unfold Registry.register
  split
  · exact ⟨h.ids_perm, h.ids_nodup, h.names_nodup⟩
  · rename_i own shapes hc
    split
    · exact ⟨h.ids_perm, h.ids_nodup, h.names_nodup⟩
    · obtain ⟨rfl, hnew, hfresh⟩ := of_checkAll_eq_ok hc
      rw [List.append_nil, Roster.map_id_descriptors]
      rw [Roster.map_id_descriptors] at hnew
      refine ⟨?_, ?_, ?_⟩
      · rw [List.flatMap_append, List.flatMap_singleton]
        exact ((List.reverse_perm _).append h.ids_perm).trans List.perm_append_comm
      · refine List.nodup_append.mpr ⟨List.nodup_reverse.mpr hnew, h.ids_nodup, ?_⟩
        intro id hid other ho he
        rw [List.mem_reverse, ← Roster.map_id_descriptors] at hid
        obtain ⟨d, hd, rfl⟩ := List.mem_map.mp hid
        exact (hfresh d hd).1 (he ▸ ho)
      · intro other ho
        rcases List.mem_append.mp ho with ho | ho
        · exact h.names_nodup other ho
        · exact List.mem_singleton.mp ho ▸ hn

/-- Gathering keeps a registry sound. -/
theorem gather (h : registry.Sound) (clock : Clock) : (registry.gather clock).2.Sound := by
  rw [Registry.gather, collectAll_eq]
  refine h.with_rosters ?_
  rw [List.map_map]
  exact List.map_congr_left fun roster _ => roster.bare_collect clock

end Sound

/-- The registries of GPU collectors that can be reached. Libraries of several kinds are one kind,
as their sum. -/
inductive Reached [DeviceLibrary L] : Registry (GpuCollector L) → Prop where
  /-- A new registry. -/
  | create {scope : Option String} {label : Option (String × String)}
      {registry : Registry (GpuCollector L)} (h : Registry.create scope label = .ok registry) :
      Reached registry
  /-- What is left by an attempt to register a roster that was built. -/
  | register {registry : Registry (GpuCollector L)} (h : Reached registry) {ω : Type}
      {settings : Settings} {registrations : List (Registration ω (GpuCollector L))} {world : ω}
      {roster : Roster (GpuCollector L)}
      (hb : (Roster.build settings registrations world).outcome = .ok roster) :
      Reached (registry.register roster).2
  /-- What is left by gathering. -/
  | gather {registry : Registry (GpuCollector L)} (h : Reached registry) (clock : Clock) :
      Reached (registry.gather clock).2
  /-- The same registry over other states of the libraries. -/
  | drift {registry : Registry (GpuCollector L)} (h : Reached registry)
      {rosters : List (Roster (GpuCollector L))}
      (hb : rosters.map Roster.bare = registry.rosters.map Roster.bare) :
      Reached { registry with rosters }

/-- Every registry that can be reached is sound. -/
theorem Reached.sound [DeviceLibrary L] {registry : Registry (GpuCollector L)}
    (h : registry.Reached) : registry.Sound := by
  induction h with
  | create h => exact Sound.of_create h
  | register _ hb ih => exact ih.register (Roster.nodup_names_of_build hb)
  | gather _ clock ih => exact ih.gather clock
  | drift _ hb ih => exact ih.with_rosters hb

end Serving.Registry

end GpuTelemetry
