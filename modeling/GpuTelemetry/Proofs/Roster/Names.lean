import GpuTelemetry.Roster.Build

/-!
# The names in a roster

The names of registrations are checked before anything is built, and building keeps their order
and adds none. So the names in a roster differ.
-/

namespace GpuTelemetry

namespace Registration

variable {ω κ : Type}

/-- Names without a repetition differ from each other and from those before them. -/
theorem nodup_of_firstRepeated?_eq_none {seen names : List String}
    (h : firstRepeated? seen names = none) :
    names.Nodup ∧ ∀ name ∈ names, name ∉ seen := by
  induction names generalizing seen with
  | nil => exact ⟨List.nodup_nil, fun _ hm => absurd hm List.not_mem_nil⟩
  | cons name rest ih =>
    unfold firstRepeated? at h
    by_cases hs : name ∈ seen
    · rw [if_pos hs] at h
      cases h
    · rw [if_neg hs] at h
      obtain ⟨hn, hf⟩ := ih h
      refine ⟨List.nodup_cons.mpr ⟨fun hm => hf name hm List.mem_cons_self, hn⟩, ?_⟩
      intro other ho
      rcases List.mem_cons.mp ho with rfl | ho
      · exact hs
      · exact fun hseen => hf other ho (List.mem_cons_of_mem _ hseen)

/-- A repeated name stands behind names that differ, and it occurs in front of them or among
them. -/
theorem exists_of_firstRepeated?_eq_some {seen names : List String} {name : String}
    (h : firstRepeated? seen names = some name) :
    ∃ before after, names = before ++ name :: after ∧ before.Nodup ∧
      (∀ other ∈ before, other ∉ seen) ∧ (name ∈ seen ∨ name ∈ before) := by
  induction names generalizing seen with
  | nil => cases h
  | cons first rest ih =>
    unfold firstRepeated? at h
    by_cases hs : first ∈ seen
    · rw [if_pos hs] at h
      cases h
      exact ⟨[], rest, rfl, List.nodup_nil, fun _ hm => absurd hm List.not_mem_nil, Or.inl hs⟩
    · rw [if_neg hs] at h
      obtain ⟨before, after, rfl, hnodup, hfresh, hname⟩ := ih h
      refine ⟨first :: before, after, rfl, ?_, ?_, ?_⟩
      · exact List.nodup_cons.mpr ⟨fun hm => hfresh first hm List.mem_cons_self, hnodup⟩
      · refine List.forall_mem_cons.mpr ⟨hs, fun other ho hseen => ?_⟩
        exact hfresh other ho (List.mem_cons_of_mem _ hseen)
      · rcases hname with hseen | hbefore
        · rcases List.mem_cons.mp hseen with rfl | hseen
          · exact Or.inr List.mem_cons_self
          · exact Or.inl hseen
        · exact Or.inr (List.mem_cons_of_mem _ hbefore)

/-- Behind names that differ, one that occurs in front of them or among them is the first
repetition. -/
theorem firstRepeated?_append_cons {seen before after : List String} {name : String}
    (hb : before.Nodup) (hfresh : ∀ other ∈ before, other ∉ seen)
    (hname : name ∈ seen ∨ name ∈ before) :
    firstRepeated? seen (before ++ name :: after) = some name := by
  induction before generalizing seen with
  | nil =>
    have hseen := hname.resolve_right List.not_mem_nil
    rw [List.nil_append, firstRepeated?, if_pos hseen]
  | cons first rest ih =>
    obtain ⟨hfirst, hrest⟩ := List.nodup_cons.mp hb
    obtain ⟨hs, hfresh⟩ := List.forall_mem_cons.mp hfresh
    rw [List.cons_append, firstRepeated?, if_neg hs]
    apply ih hrest
    · intro other ho hseen
      rcases List.mem_cons.mp hseen with rfl | hseen
      · exact hfirst ho
      · exact hfresh other ho hseen
    · rcases hname with hseen | hbefore
      · exact Or.inl (List.mem_cons_of_mem _ hseen)
      · rcases List.mem_cons.mp hbefore with rfl | hmem
        · exact Or.inl List.mem_cons_self
        · exact Or.inr hmem

/-- Among names that do not all differ there is a first one that repeats an earlier one. -/
theorem exists_firstRepeated?_of_not_nodup {names : List String} (h : ¬ names.Nodup) :
    ∃ before name after, names = before ++ name :: after ∧ before.Nodup ∧ name ∈ before ∧
      firstRepeated? [] names = some name := by
  cases hr : firstRepeated? [] names with
  | none => exact absurd (nodup_of_firstRepeated?_eq_none hr).1 h
  | some name =>
    obtain ⟨before, after, hnames, hnodup, -, hname⟩ := exists_of_firstRepeated?_eq_some hr
    exact ⟨before, name, after, hnames, hnodup, hname.resolve_left List.not_mem_nil, rfl⟩

/-- Names that differ have no repetition. -/
theorem firstRepeated?_of_nodup {names : List String} (h : names.Nodup) :
    firstRepeated? [] names = none := by
  cases hr : firstRepeated? [] names with
  | none => rfl
  | some name =>
    obtain ⟨before, after, rfl, -, -, hname⟩ := exists_of_firstRepeated?_eq_some hr
    have hbefore := hname.resolve_left List.not_mem_nil
    exact absurd rfl ((List.nodup_append.mp h).2.2 name hbefore name List.mem_cons_self)

/-- The members that are built have names of registrations, in their order. -/
theorem names_buildMembers_sublist (settings : Settings)
    (registrations : List (Registration ω κ)) (world : ω) :
    ((buildMembers settings registrations world).1.map Member.name).Sublist
      (registrations.map Registration.name) := by
  induction registrations generalizing world with
  | nil => exact List.Sublist.slnil
  | cons registration rest ih =>
    rw [List.map_cons, buildMembers]
    split
    · dsimp only
      split
      · exact (ih _).cons_cons _
      · exact (ih _).cons _
    · exact (ih _).cons _

end Registration

/-- No two members of a roster have one name. -/
theorem Roster.nodup_names_of_build {ω κ : Type} {settings : Settings}
    {registrations : List (Registration ω κ)} {world : ω} {roster : Roster κ}
    (h : (Roster.build settings registrations world).outcome = .ok roster) :
    roster.names.Nodup := by
  unfold Roster.build at h
  split at h
  · cases h
  · rename_i hr
    split at h
    · cases h
    · cases h
      have hn := (Registration.nodup_of_firstRepeated?_eq_none hr).1
      exact hn.sublist (Registration.names_buildMembers_sublist settings registrations world)

end GpuTelemetry
