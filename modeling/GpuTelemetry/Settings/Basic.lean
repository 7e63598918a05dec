/-!
# Settings

What an operator may choose: the namespace in front of every metric name, and which collectors
are built. Overrides are a finite map from collector names, kept in ascending order of names, so
that two equal maps are equal values.
-/

namespace GpuTelemetry

/-- Decisions for and against collectors, at most one for each name. -/
structure Overrides where
  /-- The decisions, by ascending name. -/
  entries : List (String × Bool)
  /-- No name occurs twice, and the order of the entries is that of their names. -/
  ascending : entries.Pairwise fun a b => a.1 < b.1
  deriving DecidableEq, Repr

namespace Overrides

/-- No decisions. -/
def empty : Overrides := ⟨[], .nil⟩

/-- Puts an entry in its place, over an entry of the same name. -/
def place (name : String) (enabled : Bool) : List (String × Bool) → List (String × Bool)
  | [] => [(name, enabled)]
  | entry :: rest =>
    if name < entry.1 then (name, enabled) :: entry :: rest
    else if name = entry.1 then (name, enabled) :: rest
    else entry :: place name enabled rest

/-- A placed decision is the only new one. -/
theorem mem_place {name : String} {enabled : Bool} {entries : List (String × Bool)}
    {entry : String × Bool} (h : entry ∈ place name enabled entries) :
    entry = (name, enabled) ∨ entry ∈ entries := by
  induction entries with
  | nil => simpa [place] using h
  | cons head rest ih =>
    unfold place at h
    split at h
    · simpa using h
    · split at h
      · simp only [List.mem_cons] at h ⊢
        exact h.imp_right Or.inr
      · simp only [List.mem_cons] at h ⊢
        rcases h with h | h
        · exact Or.inr (Or.inl h)
        · exact (ih h).imp_right Or.inr

/-- Placing a decision keeps the names in ascending order. -/
theorem place_ascending (name : String) (enabled : Bool) {entries : List (String × Bool)}
    (h : entries.Pairwise fun a b => a.1 < b.1) :
    (place name enabled entries).Pairwise fun a b => a.1 < b.1 := by
  induction entries with
  | nil => simp [place]
  | cons head rest ih =>
    obtain ⟨above, sorted⟩ := List.pairwise_cons.mp h
    unfold place
    split
    · rename_i before
      refine List.pairwise_cons.mpr ⟨fun entry mem => ?_, h⟩
      rcases List.mem_cons.mp mem with rfl | mem
      · exact before
      · exact String.lt_trans before (above entry mem)
    · split
      · rename_i same
        exact List.pairwise_cons.mpr ⟨fun entry mem => same ▸ above entry mem, sorted⟩
      · rename_i notBefore different
        refine List.pairwise_cons.mpr ⟨fun entry mem => ?_, ih sorted⟩
        rcases mem_place mem with rfl | mem
        · exact Decidable.byContradiction fun notAfter =>
            different (String.le_antisymm notAfter notBefore)
        · exact above entry mem

/-- Adds a decision; the last one for a name holds. -/
def insert (overrides : Overrides) (name : String) (enabled : Bool) : Overrides :=
  ⟨place name enabled overrides.entries, place_ascending name enabled overrides.ascending⟩

/-- The decision for a name, if there is one. -/
def find? (overrides : Overrides) (name : String) : Option Bool :=
  overrides.entries.lookup name

end Overrides

/-- The namespace that is used unless another one is chosen. -/
def defaultNamespace : String := "node"

/-- The choices of an operator. -/
structure Settings where
  /-- What stands in front of every metric name. -/
  metricNamespace : String
  /-- Decisions for and against single collectors. -/
  overrides : Overrides
  deriving DecidableEq, Repr

namespace Settings

/-- The settings that hold without a document. -/
def default : Settings := ⟨defaultNamespace, .empty⟩

/-- Whether a collector is built: by its override, or else by its own default. -/
def isEnabled (settings : Settings) (name : String) (byDefault : Bool) : Bool :=
  (settings.overrides.find? name).getD byDefault

end Settings

end GpuTelemetry
