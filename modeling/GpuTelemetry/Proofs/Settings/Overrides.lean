import GpuTelemetry.Settings.Basic
import Mathlib.Data.List.Induction

/-!
# Overrides as a map

Overrides are read through their look-up: a decision answers for its own name and leaves every
other name alone. So what a list of decisions comes to is, for each name, the last of them, and
overrides are what their own entries come to.
-/

namespace GpuTelemetry.Overrides

/-- The first entry answers for its own name. -/
theorem lookup_entry (key : String) (value : Bool) (rest : List (String × Bool)) (name : String) :
    ((key, value) :: rest).lookup name = if name = key then some value else rest.lookup name := by
  rw [List.lookup_cons]
  by_cases h : name = key
  · rw [if_pos h, beq_iff_eq.mpr h]
  · rw [if_neg h, beq_eq_false_iff_ne.mpr h]

/-- A decision answers for its name and leaves the others alone. -/
theorem lookup_place (name : String) (enabled : Bool) (entries : List (String × Bool))
    (other : String) :
    (place name enabled entries).lookup other =
      if other = name then some enabled else entries.lookup other := by
  induction entries with
  | nil => exact lookup_entry name enabled [] other
  | cons entry rest ih =>
    obtain ⟨key, value⟩ := entry
    unfold place
    by_cases hlt : name < key
    · rw [if_pos hlt, lookup_entry name]
    · rw [if_neg hlt]
      by_cases heq : name = key
      · subst heq
        rw [if_pos rfl, lookup_entry, lookup_entry]
        by_cases h : other = name
        · rw [if_pos h, if_pos h]
        · rw [if_neg h, if_neg h, if_neg h]
      · rw [if_neg heq, lookup_entry, lookup_entry, ih]
        by_cases hk : other = key
        · have hn : ¬ other = name := fun hn => heq (hn ▸ hk)
          rw [if_pos hk, if_neg hn, if_pos hk]
        · rw [if_neg hk, if_neg hk]

/-- An override replaces what was decided under its name and nothing else. -/
theorem find?_insert (overrides : Overrides) (name : String) (enabled : Bool) (other : String) :
    (overrides.insert name enabled).find? other =
      if other = name then some enabled else overrides.find? other :=
  lookup_place name enabled overrides.entries other

/-- An entry is what its name is looked up to. -/
theorem mem_entries_iff (overrides : Overrides) (name : String) (enabled : Bool) :
    (name, enabled) ∈ overrides.entries ↔ overrides.find? name = some enabled := by
  obtain ⟨entries, ascending⟩ := overrides
  simp only [find?]
  induction entries with
  | nil => simp
  | cons entry rest ih =>
    obtain ⟨key, value⟩ := entry
    obtain ⟨above, sorted⟩ := List.pairwise_cons.mp ascending
    rw [List.mem_cons, lookup_entry, ih sorted]
    by_cases h : name = key
    · subst h
      have hfresh : rest.lookup name ≠ some enabled := by
        intro hl
        have hlt := above (name, enabled) ((ih sorted).mpr hl)
        exact String.lt_irrefl name hlt
      simp [hfresh, eq_comm]
    · simp [h]

/-- What a list of decisions comes to, taken one after the other. -/
def ofList (members : List (String × Bool)) : Overrides :=
  members.foldl (fun overrides member => overrides.insert member.1 member.2) .empty

private theorem ofList_append_singleton (members : List (String × Bool)) (member : String × Bool) :
    ofList (members ++ [member]) = (ofList members).insert member.1 member.2 := by
  rw [ofList, List.foldl_append]
  rfl

/-- The decision for a name that no later one takes back. -/
def LastGiven (members : List (String × Bool)) (name : String) (enabled : Bool) : Prop :=
  ∃ before after, members = before ++ (name, enabled) :: after ∧
    ∀ member ∈ after, member.1 ≠ name

/-- A later decision about a name counts before the earlier ones. -/
theorem lastGiven_append_singleton (members : List (String × Bool)) (member : String × Bool)
    (name : String) (enabled : Bool) :
    LastGiven (members ++ [member]) name enabled ↔
      if name = member.1 then member.2 = enabled else LastGiven members name enabled := by
  obtain ⟨key, value⟩ := member
  constructor
  · rintro ⟨before, after, he, hlater⟩
    rcases List.eq_nil_or_concat after with rfl | ⟨after', last, rfl⟩
    · obtain ⟨-, hm⟩ := List.append_inj' he rfl
      cases hm
      rw [if_pos rfl]
    · rw [List.concat_eq_append, ← List.cons_append, ← List.append_assoc] at he
      obtain ⟨rfl, hm⟩ := List.append_inj' he rfl
      cases hm
      have hne : key ≠ name := hlater (key, value) (by simp)
      rw [if_neg (Ne.symm hne)]
      exact ⟨before, after', rfl, fun m hm => hlater m (by simp [hm])⟩
  · intro h
    by_cases hn : name = key
    · rw [if_pos hn] at h
      subst hn h
      exact ⟨members, [], rfl, fun m hm => absurd hm List.not_mem_nil⟩
    · rw [if_neg hn] at h
      obtain ⟨before, after, rfl, hlater⟩ := h
      refine ⟨before, after ++ [(key, value)], by simp, ?_⟩
      intro m hm
      rcases List.mem_append.mp hm with hm | hm
      · exact hlater m hm
      · rw [List.mem_singleton.mp hm]
        exact Ne.symm hn

/-- A name is looked up to the last decision for it. -/
theorem find?_ofList_iff (members : List (String × Bool)) (name : String) (enabled : Bool) :
    (ofList members).find? name = some enabled ↔ LastGiven members name enabled := by
  induction members using List.reverseRecOn with
  | nil =>
    constructor
    · intro h
      cases h
    · rintro ⟨before, after, he, -⟩
      simp at he
  | append_singleton members member ih =>
    rw [ofList_append_singleton, find?_insert, lastGiven_append_singleton]
    by_cases hn : name = member.1
    · rw [if_pos hn, if_pos hn, Option.some.injEq]
    · rw [if_neg hn, if_neg hn, ih]

/-- A name without a decision is not found. -/
theorem find?_ofList_eq_none {members : List (String × Bool)} {name : String}
    (h : name ∉ members.map Prod.fst) : (ofList members).find? name = none := by
  cases hf : (ofList members).find? name with
  | none => rfl
  | some enabled =>
    obtain ⟨before, after, rfl, -⟩ := (find?_ofList_iff members name enabled).mp hf
    exact absurd (by simp) h

/-- If there are decisions for a name, one of them is the last. -/
theorem exists_lastGiven {members : List (String × Bool)} {name : String}
    (h : name ∈ members.map Prod.fst) : ∃ enabled, LastGiven members name enabled := by
  induction members using List.reverseRecOn with
  | nil => exact absurd h List.not_mem_nil
  | append_singleton members member ih =>
    simp only [lastGiven_append_singleton]
    by_cases hn : name = member.1
    · exact ⟨member.2, by rw [if_pos hn]⟩
    · simp only [if_neg hn]
      rw [List.map_append, List.mem_append, List.map_singleton, List.mem_singleton] at h
      exact ih (h.resolve_right hn)

/-- A decision for a name above all others comes last. -/
theorem place_of_above {entries : List (String × Bool)} {name : String}
    (h : ∀ entry ∈ entries, entry.1 < name) (enabled : Bool) :
    place name enabled entries = entries ++ [(name, enabled)] := by
  induction entries with
  | nil => rfl
  | cons entry rest ih =>
    obtain ⟨hentry, hrest⟩ := List.forall_mem_cons.mp h
    have hlt : ¬ name < entry.1 := fun hlt =>
      String.lt_irrefl name (String.lt_trans hlt hentry)
    have hne : ¬ name = entry.1 := fun he => String.lt_irrefl name (he ▸ hentry)
    rw [place, if_neg hlt, if_neg hne, ih hrest, List.cons_append]

/-- Ascending decisions come to themselves. -/
theorem entries_ofList {members : List (String × Bool)}
    (h : members.Pairwise fun a b => a.1 < b.1) : (ofList members).entries = members := by
  induction members using List.reverseRecOn with
  | nil => rfl
  | append_singleton members member ih =>
    obtain ⟨hm, -, habove⟩ := List.pairwise_append.mp h
    have hlast : ∀ entry ∈ members, entry.1 < member.1 := fun entry he =>
      habove entry he member (List.mem_singleton_self member)
    rw [← ih hm] at hlast
    calc (ofList (members ++ [member])).entries
        = place member.1 member.2 (ofList members).entries := by
          rw [ofList_append_singleton]
          rfl
      _ = (ofList members).entries ++ [member] := place_of_above hlast member.2
      _ = members ++ [member] := by rw [ih hm]

/-- Overrides are what their entries come to. -/
theorem ofList_entries (overrides : Overrides) : ofList overrides.entries = overrides := by
  have he := entries_ofList overrides.ascending
  cases ho : ofList overrides.entries with
  | mk entries ascending =>
    rw [ho] at he
    cases he
    rfl

end GpuTelemetry.Overrides
