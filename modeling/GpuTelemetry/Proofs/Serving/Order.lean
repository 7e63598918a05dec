import GpuTelemetry.Serving.Registry
import Mathlib.Data.List.Perm.Basic

/-!
# The order of a page

Metrics stand in the order of their label values: fewer come first, and as many are compared as in
a dictionary. Two metrics of one family can have the same label values; these keep the order in
which they came.
-/

namespace GpuTelemetry

/-- The label values of a metric, in order. -/
def Metric.labelValues (m : Metric) : List String := m.labels.map Prod.snd

/-- Label values that may stand before others: fewer, or as many and not behind them in a
dictionary. -/
def ValuesLE (v w : List String) : Prop :=
  v.length < w.length ∨ v.length = w.length ∧ ¬ List.Lex (· < ·) w v

namespace ValuesLE

/-- The order is reflexive. -/
theorem refl (v : List String) : ValuesLE v v :=
  .inr ⟨rfl, List.lt_irrefl v⟩

/-- The order is total. -/
theorem total (v w : List String) : ValuesLE v w ∨ ValuesLE w v := by
  rcases Nat.lt_trichotomy v.length w.length with hlt | heq | hgt
  · exact .inl (.inl hlt)
  · by_cases hlex : List.Lex (· < ·) w v
    · exact .inr (.inr ⟨heq.symm, List.lt_asymm hlex⟩)
    · exact .inl (.inr ⟨heq, hlex⟩)
  · exact .inr (.inl hgt)

/-- The order is transitive. -/
theorem trans {u v w : List String} (huv : ValuesLE u v) (hvw : ValuesLE v w) : ValuesLE u w := by
  rcases huv with hlt | ⟨heq, huv⟩
  · rcases hvw with hlt' | ⟨heq', -⟩
    · exact .inl (Nat.lt_trans hlt hlt')
    · exact .inl (heq' ▸ hlt)
  · rcases hvw with hlt' | ⟨heq', hvw⟩
    · exact .inl (heq ▸ hlt')
    · exact .inr ⟨heq.trans heq', List.le_trans huv hvw⟩

end ValuesLE

namespace Serving.Registry

end Serving.Registry

end GpuTelemetry
