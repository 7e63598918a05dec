import GpuTelemetry.Proofs.Exposition.Lines
import GpuTelemetry.Proofs.Text.Utf8

/-!
# Pages that can be written

The page writer complains of a family without metrics and of one without a name, and its reader
would complain of bytes that are not UTF-8. None of this happens to families with a name and a
metric each: they have a page, and it is empty only if there are no families.
-/

namespace GpuTelemetry.Exposition

/-- Families and their page that pass every check on the way. -/
structure Clears (families : List Family) (page : String) : Prop where
  /-- No family is without metrics. -/
  metrics_nonempty : ∀ f ∈ families, f.metrics ≠ []
  /-- No family is without a name. -/
  name_nonempty : ∀ f ∈ families, f.name ≠ ""
  /-- Every family is written, and the bytes of all of them are UTF-8 for the page. -/
  bytes_valid : ∃ texts, (families.map .ofFamily).mapM writeFamily = .ok texts ∧
    Utf8.fault? (texts.flatMap Utf8.encode) = none ∧
    Utf8.decode? (texts.flatMap Utf8.encode) = some page

/-- A family has at least the line of its type. -/
theorem textOf_ne_empty (f : Family) : textOf f ≠ "" := by
  intro he
  simp [textOf, familyText, String.append_eq_empty_iff] at he

/-- A page is empty only if there are no families. -/
theorem join_textOf_eq_empty_iff (families : List Family) :
    String.join (families.map textOf) = "" ↔ families = [] := by
  cases families with
  | nil => exact ⟨fun _ => rfl, fun _ => rfl⟩
  | cons f rest =>
    constructor
    · intro he
      rw [List.map_cons, String.join_cons, String.append_eq_empty_iff] at he
      exact absurd he.1 (textOf_ne_empty f)
    · intro he
      cases he

/-- Families with a name and a metric each have a page. -/
theorem exists_page {families : List Family}
    (h : ∀ f ∈ families, f.name ≠ "" ∧ f.metrics ≠ []) :
    ∃ page, writeFamilies families = .ok page ∧ Clears families page ∧
      (page = "" ↔ families = []) := by
  refine ⟨_, writeFamilies_of_named h, ⟨?_, ?_, ?_⟩, join_textOf_eq_empty_iff families⟩
  · exact fun f hf => (h f hf).2
  · exact fun f hf => (h f hf).1
  · refine ⟨families.map textOf, mapM_writeFamily h, ?_, ?_⟩
    · rw [Utf8.flatMap_encode]
      exact Utf8.fault?_encode _
    · rw [Utf8.flatMap_encode]
      exact Utf8.decode?_encode _

end GpuTelemetry.Exposition
