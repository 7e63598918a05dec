import GpuTelemetry.Decimal.Style
import GpuTelemetry.Proofs.Number.Rounding

/-!
# Naturals written out

Around a natural of at most fifty-three bits no other number that ends in a decimal zero rounds to
the same binary64 number. So the search for its shortest decimal stops at the natural itself with
some of its zeros left out, and the positional notation puts them back: the text is that of the
natural.
-/

namespace GpuTelemetry

namespace Cell

/-- A cell around a natural, and around no other one that ends in zero. -/
structure Isolates (cell : Cell) (n : ℕ) : Prop where
  /-- There is a denominator. -/
  den_pos : 0 < cell.den
  /-- The number of the cell is the natural. -/
  value : cell.value = n * cell.den
  /-- The lower end is below it. -/
  low_lt : cell.low < cell.value
  /-- The upper end is above it. -/
  lt_high : cell.value < cell.high
  /-- No other natural in the cell is a multiple of ten. -/
  alone : ∀ x, 10 ∣ x → cell.low ≤ x * cell.den → x * cell.den ≤ cell.high → x = n

section Holds

variable {cell : Cell} {m j : ℕ}

/-- What a cell holds is between its ends. -/
theorem le_of_holds (h : cell.holds m j = true) :
    cell.low ≤ m * 10 ^ j * cell.den ∧ m * 10 ^ j * cell.den ≤ cell.high := by
  simp only [holds, Int.toNat_natCast, Int.toNat_neg_natCast, Nat.pow_eq, Nat.pow_zero,
    Nat.mul_one] at h
  split at h
  · simp only [Bool.and_eq_true, decide_eq_true_eq] at h
    exact h
  · simp only [Bool.and_eq_true, decide_eq_true_eq] at h
    exact ⟨h.1.le, h.2.le⟩

/-- What is between the ends of a cell is held. -/
theorem holds_of_lt (hlow : cell.low < m * 10 ^ j * cell.den)
    (hhigh : m * 10 ^ j * cell.den < cell.high) : cell.holds m j = true := by
  simp only [holds, Int.toNat_natCast, Int.toNat_neg_natCast, Nat.pow_eq, Nat.pow_zero,
    Nat.mul_one]
  split
  · simp only [Bool.and_eq_true, decide_eq_true_eq]
    exact ⟨hlow.le, hhigh.le⟩
  · simp only [Bool.and_eq_true, decide_eq_true_eq]
    exact ⟨hlow, hhigh⟩

end Holds

namespace Isolates

variable {cell : Cell} {n : ℕ} (h : cell.Isolates n)

include h

/-- On a grid the lower neighbour is the quotient. -/
theorem below_natCast (j : ℕ) : cell.below j = n / 10 ^ j := by
  simp only [below, Int.toNat_natCast, Int.toNat_neg_natCast, Nat.pow_eq, Nat.pow_zero,
    Nat.mul_one]
  rw [h.value, Nat.mul_comm cell.den, Nat.mul_div_mul_right _ _ h.den_pos]

/-- The cell holds the natural on every grid on which it lies. -/
theorem holds_self {m j : ℕ} (he : m * 10 ^ j = n) : cell.holds m j = true := by
  apply holds_of_lt
  · rw [he, ← h.value]
    exact h.low_lt
  · rw [he, ← h.value]
    exact h.lt_high

/-- On a coarser grid it holds nothing else. -/
theorem eq_of_holds {m j : ℕ} (hj : 0 < j) (hm : cell.holds m j = true) : m * 10 ^ j = n := by
  obtain ⟨hlow, hhigh⟩ := le_of_holds hm
  exact h.alone _ (Dvd.dvd.mul_left (dvd_pow_self 10 hj.ne') m) hlow hhigh

/-- The natural itself is the nearest hit on every grid on which it lies, and on no other grid is
there a hit. -/
theorem nearest?_eq (tie : Tie) (j : ℕ) :
    cell.nearest? tie j = if 10 ^ j ∣ n then some (n / 10 ^ j) else none := by
  unfold nearest?
  rw [h.below_natCast]
  by_cases hdvd : 10 ^ j ∣ n
  · have hself := h.holds_self (Nat.div_mul_cancel hdvd)
    have hcompare : cell.compareNeighbours j = .lt := by
      have hzero : cell.value % (cell.den * 10 ^ j) = 0 := by
        rw [h.value, Nat.mul_comm n]
        exact Nat.mod_eq_zero_of_dvd (Nat.mul_dvd_mul_left _ hdvd)
      simp only [compareNeighbours, Int.toNat_natCast, Int.toNat_neg_natCast, Nat.pow_eq,
        Nat.pow_zero, Nat.mul_one, hzero, Nat.mul_zero]
      exact Nat.compare_eq_lt.mpr (Nat.mul_pos h.den_pos (Nat.pow_pos (by decide)))
    dsimp only
    rw [if_pos hdvd, hself]
    cases cell.holds (n / 10 ^ j + 1) j with
    | false => rfl
    | true =>
      dsimp only
      rw [hcompare]
  · have hj : 0 < j := by
      rcases Nat.eq_zero_or_pos j with rfl | hpos
      · exact absurd (one_dvd n) hdvd
      · exact hpos
    have hmiss (m : ℕ) : cell.holds m j = false := by
      rw [Bool.eq_false_iff]
      intro hm
      exact hdvd ⟨m, by rw [Nat.mul_comm, h.eq_of_holds hj hm]⟩
    dsimp only
    rw [if_neg hdvd, hmiss, hmiss]

end Isolates

/-- Where the step between numbers is at most one, a cell is around no other natural. -/
theorem isolates_of_neg {s n k : ℕ} (hlow : 2 ^ 52 ≤ s) (he : s = n * 2 ^ k) :
    (ofScaled ⟨s, -k⟩).Isolates n := by
  have hpos : 0 < 2 ^ k := Nat.two_pow_pos k
  have hvalue : n * (4 * 2 ^ k) = 4 * s := by
    rw [he]
    ring
  have hbelow : 1 ≤ (if s = Binary64.hiddenBit ∧ Binary64.leastExponent < -(k : ℤ) then 1 else 2) ∧
      (if s = Binary64.hiddenBit ∧ Binary64.leastExponent < -(k : ℤ) then 1 else 2) ≤ 2 := by
    split <;> omega
  simp only [ofScaled, Int.toNat_neg_natCast, Int.neg_neg, Int.toNat_natCast, Nat.pow_eq,
    Nat.pow_zero, Nat.mul_one]
  generalize (if s = Binary64.hiddenBit ∧ Binary64.leastExponent < -(k : ℤ) then 1 else 2) = below
    at hbelow ⊢
  obtain ⟨hone, htwo⟩ := hbelow
  refine ⟨?_, ?_, ?_, ?_, fun x _ hx hx' => ?_⟩
  · exact Nat.mul_pos (by decide) hpos
  · exact hvalue.symm
  · dsimp only
    omega
  · dsimp only
    omega
  · dsimp only at hx hx'
    have hstep : x * (4 * 2 ^ k) = 4 * (x * 2 ^ k) := by ring
    have heq : x * 2 ^ k = n * 2 ^ k := by omega
    exact Nat.eq_of_mul_eq_mul_right hpos heq

/-- The one cell that reaches another natural is that of a power of two, and that natural does not
end in zero. -/
theorem isolates_of_two : (ofScaled ⟨2 ^ 52, 1⟩).Isolates (2 ^ 53) := by
  have hcell : ofScaled ⟨2 ^ 52, 1⟩ = ⟨2 ^ 55, 2 ^ 55 - 2, 2 ^ 55 + 4, 4, true⟩ := by decide
  rw [hcell]
  refine ⟨by decide, by decide, by decide, by decide, fun x hten hx hx' => ?_⟩
  dsimp only at hx hx'
  omega

/-- The cell of a natural with a significand of fifty-three bits isolates it. -/
theorem isolates_ofScaled {size : Scaled} {n : ℕ} (hlow : 2 ^ 52 ≤ size.significand)
    (hvalue : size.toRat = n) (h : n ≤ 2 ^ 53) : (ofScaled size).Isolates n := by
  obtain ⟨s, e⟩ := size
  dsimp only [Scaled.toRat] at hlow hvalue
  obtain ⟨k, rfl | rfl⟩ := Int.eq_nat_or_neg e
  · rw [zpow_natCast] at hvalue
    have he : s * 2 ^ k = n := by exact_mod_cast hvalue
    have hk : k ≤ 1 := by
      by_contra hgt
      have hfour : 2 ^ 2 ≤ 2 ^ k := Nat.pow_le_pow_right Nat.two_pos (by omega)
      have hle := Nat.mul_le_mul hlow hfour
      omega
    rcases Nat.le_one_iff_eq_zero_or_eq_one.mp hk with rfl | rfl
    · exact isolates_of_neg hlow (k := 0) (by omega)
    · have hs : s = 2 ^ 52 := by omega
      have hn : n = 2 ^ 53 := by omega
      rw [hs, hn]
      exact isolates_of_two
  · rw [zpow_neg, zpow_natCast, mul_inv_eq_iff_eq_mul₀ (by positivity)] at hvalue
    exact isolates_of_neg hlow (by exact_mod_cast hvalue)

end Cell

namespace Decimal

/-- Leaving out zeros does not change a natural. -/
theorem exists_trim (digits exponent : ℕ) :
    ∃ d e : ℕ, trim digits exponent = ⟨d, e⟩ ∧ d * 10 ^ e = digits * 10 ^ exponent := by
  induction digits using Nat.strong_induction_on generalizing exponent with
  | _ digits ih =>
    unfold trim
    by_cases h : digits % 10 = 0 ∧ 0 < digits
    · rw [if_pos h]
      obtain ⟨d, e, he, hvalue⟩ := ih (digits / 10) (by omega) (exponent + 1)
      refine ⟨d, e, ?_, ?_⟩
      · rw [← he]
        rfl
      · have hten : digits / 10 * 10 = digits := by omega
        rw [hvalue, Nat.pow_succ', ← Nat.mul_assoc, hten]
    · rw [if_neg h]
      exact ⟨digits, exponent, rfl, rfl⟩

/-- Zeros behind the digits of a natural multiply it. -/
theorem toDigits_append_replicate {d : ℕ} (hd : 0 < d) (e : ℕ) :
    Nat.toDigits 10 d ++ List.replicate e '0' = Nat.toDigits 10 (d * 10 ^ e) := by
  induction e with
  | zero => rw [List.replicate_zero, List.append_nil, Nat.pow_zero, Nat.mul_one]
  | succ e ih =>
    have hpos : 0 < d * 10 ^ e := Nat.mul_pos hd (Nat.pow_pos (by decide))
    have hzero : Nat.toDigits 10 0 = ['0'] := rfl
    have hlast := Nat.toDigits_append_toDigits (by decide : 1 < 10) hpos (by decide : 0 < 10)
    rw [List.replicate_succ', ← List.append_assoc, ih, ← hzero, hlast, Nat.pow_succ]
    congr 1
    ring

/-- A natural has no more digits than a power of ten above it. -/
theorem digitCount_le {n k : ℕ} (hk : 0 < k) (h : n < 10 ^ k) : digitCount n ≤ k := by
  induction k generalizing n with
  | zero => omega
  | succ k ih =>
    unfold digitCount
    split
    · omega
    · rename_i hn
      have hk' : 0 < k := by
        rcases Nat.eq_zero_or_pos k with rfl | hpos
        · omega
        · exact hpos
      have hlt : n / 10 < 10 ^ k := by
        rw [Nat.div_lt_iff_lt_mul (by decide), ← Nat.pow_succ]
        exact h
      have hle := ih hk' hlt
      omega

private theorem digitCount_pos (n : ℕ) : 0 < digitCount n := by
  unfold digitCount
  split
  · exact Nat.one_pos
  · exact Nat.succ_pos _

/-- Trying more and more digits finds the natural that a cell isolates. -/
theorem exists_search {cell : Cell} {n : ℕ} (h : cell.Isolates n) (tie : Tie) {position : ℕ}
    {tries count : ℕ} (hcount : count ≤ position) (htries : position < count + tries) :
    ∃ d e : ℕ, search cell tie position tries count = ⟨d, e⟩ ∧ d * 10 ^ e = n := by
  induction tries generalizing count with
  | zero => omega
  | succ tries ih =>
    have hexponent : (position : ℤ) - count = ((position - count : ℕ) : ℤ) := by omega
    unfold search
    dsimp only
    rw [hexponent, h.nearest?_eq]
    by_cases hdvd : 10 ^ (position - count) ∣ n
    · rw [if_pos hdvd]
      obtain ⟨d, e, he, hvalue⟩ := exists_trim (n / 10 ^ (position - count)) (position - count)
      exact ⟨d, e, he, hvalue.trans (Nat.div_mul_cancel hdvd)⟩
    · rw [if_neg hdvd]
      have hne : position - count ≠ 0 := by
        intro hz
        rw [hz] at hdvd
        exact hdvd (one_dvd n)
      exact ih (by omega) (by omega)

/-- The shortest decimal of a natural is the natural. -/
theorem exists_shortest (tie : Tie) {size : Scaled} {n : ℕ} (hn : n ≠ 0)
    (hlow : 2 ^ 52 ≤ size.significand) (hvalue : size.toRat = n) (h : n ≤ 2 ^ 53) :
    ∃ d e : ℕ, shortest tie size = ⟨d, e⟩ ∧ d * 10 ^ e = n := by
  have hcell := Cell.isolates_ofScaled hlow hvalue h
  have hposition : pointPosition (Cell.ofScaled size).value (Cell.ofScaled size).den =
      digitCount n := by
    have hle : (Cell.ofScaled size).den ≤ n * (Cell.ofScaled size).den :=
      Nat.le_mul_of_pos_left _ (Nat.pos_of_ne_zero hn)
    rw [pointPosition, hcell.value, if_pos hle, Nat.mul_div_cancel _ hcell.den_pos]
  have hcount : digitCount n ≤ 16 := digitCount_le (by decide) (by omega)
  unfold shortest
  dsimp only
  rw [hposition]
  exact exists_search hcell tie (digitCount_pos n) (by omega)

/-- In positional notation it has the digits of the natural. -/
theorem positional_of_mul {d e n : ℕ} (hn : n ≠ 0) (h : d * 10 ^ e = n) (integral : String) :
    positional ⟨d, e⟩ integral = toString n ++ integral := by
  have hd : 0 < d := by
    rcases Nat.eq_zero_or_pos d with rfl | hpos
    · exact absurd (h.symm.trans (Nat.zero_mul _)) hn
    · exact hpos
  have he : (0 : ℤ) ≤ e := Int.natCast_nonneg e
  simp only [positional, digitChars, if_pos he, Int.toNat_natCast]
  rw [toDigits_append_replicate hd, h, Nat.toString_eq_ofList_toDigits]

end Decimal

/-- A natural of at most fifty-three bits is written as it is, in every style that is always
positional. -/
theorem Binary64.render_ofNat {n : ℕ} (h : n ≤ 2 ^ 53) {style : NumberStyle}
    (hs : style.positional = none) : (ofNat n).render style = toString n ++ style.integral := by
  by_cases hn : n = 0
  · subst hn
    rw [render, classify_ofNat_zero]
    rfl
  · obtain ⟨size, hc, hlow, -, hvalue⟩ := classify_ofNat hn (h.trans_lt (by decide))
    rw [rounded_of_le h] at hvalue
    obtain ⟨d, e, he, hde⟩ := Decimal.exists_shortest style.tie hn hlow hvalue h
    have hnonzero : size.significand ≠ 0 := by omega
    rw [render, hc]
    simp only [Bool.false_eq_true, if_false, if_neg hnonzero, he]
    rw [Decimal.render, hs]
    exact Decimal.positional_of_mul hn hde style.integral

end GpuTelemetry
