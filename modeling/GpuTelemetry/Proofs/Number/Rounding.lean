import GpuTelemetry.Binary64
import Mathlib.Algebra.Order.Field.Power
import Mathlib.Data.Rat.Cast.Order
import Mathlib.Tactic.Linarith
import Mathlib.Tactic.Positivity
import Mathlib.Tactic.Ring

/-!
# Naturals rounded once

A natural becomes the binary64 number that is nearest to it among all numbers of fifty-three
significant bits, the one with a last bit of zero if two are equally near. So what has no more bits
keeps its value, and rounding never changes the order of two naturals.
-/

namespace GpuTelemetry

/-- The number that a scaled number stands for. -/
def Scaled.toRat (x : Scaled) : ℚ := x.significand * 2 ^ x.exponent

namespace Binary64

/-- The number that a bit pattern stands for, if it is finite. -/
def toRat? (x : Binary64) : Option ℚ :=
  match x.classify with
  | .finite negative size => some (if negative then -size.toRat else size.toRat)
  | _ => none

/-- A number that can be written with so many significant bits. -/
def HasBits (bits : ℕ) (q : ℚ) : Prop := ∃ (m : ℕ) (e : ℤ), m < 2 ^ bits ∧ q = m * 2 ^ e

/-- Rounding to fifty-three significant bits. -/
structure RoundsTo (n v : ℕ) : Prop where
  /-- The result has no more bits. -/
  bits : HasBits 53 v
  /-- No number of so many bits is nearer. -/
  nearest : ∀ w, HasBits 53 w → |(n : ℚ) - v| ≤ |(n : ℚ) - w|
  /-- If another one is as near, the last of the fifty-three bits is zero. -/
  even : ∀ w, HasBits 53 w → w ≠ v → |(n : ℚ) - w| = |(n : ℚ) - v| →
    ∃ (m : ℕ) (e : ℤ), 2 ^ 52 ≤ 2 * m ∧ 2 * m < 2 ^ 53 ∧ (v : ℚ) = (2 * m : ℕ) * 2 ^ e

/-- A natural rounded to fifty-three significant bits. -/
def rounded (n : ℕ) : ℕ :=
  Scaled.divNearest n (2 ^ (n.log2 - 52)) * 2 ^ (n.log2 - 52)

end Binary64

namespace Scaled

/-- The nearest natural is at most half away from a quotient, and even if it is just half away. -/
theorem divNearest_spec (num : ℕ) {den : ℕ} (hd : 0 < den) :
    2 * num ≤ 2 * (divNearest num den * den) + den ∧
      2 * (divNearest num den * den) ≤ 2 * num + den ∧
      (2 * num = 2 * (divNearest num den * den) + den ∨
        2 * (divNearest num den * den) = 2 * num + den → divNearest num den % 2 = 0) := by
  have hdivmod := Nat.div_add_mod' num den
  have hlt := Nat.mod_lt num hd
  have hnext := Nat.add_one_mul (num / den) den
  unfold divNearest
  dsimp only
  split
  · omega
  · split
    · rw [hnext]
      omega
    · rcases Nat.mod_two_eq_zero_or_one (num / den) with he | ho
      · rw [he, Nat.add_zero]
        omega
      · rw [ho, hnext]
        omega

private theorem divNearest_one (num : ℕ) : divNearest num 1 = num := by
  have h := divNearest_spec num Nat.one_pos
  omega

/-- The same as distances. -/
theorem abs_sub_divNearest_le (num : ℕ) {den : ℕ} (hd : 0 < den) :
    |(num : ℚ) - (divNearest num den : ℕ) * den| ≤ den / 2 ∧
      (|(num : ℚ) - (divNearest num den : ℕ) * den| = den / 2 → divNearest num den % 2 = 0) := by
  obtain ⟨hbelow, habove, heven⟩ := divNearest_spec num hd
  generalize divNearest num den = m at *
  have hbelow' : (2 * num : ℚ) ≤ 2 * (m * den) + den := by exact_mod_cast hbelow
  have habove' : (2 * (m * den) : ℚ) ≤ 2 * num + den := by exact_mod_cast habove
  constructor
  · rw [abs_le]
    constructor <;> linarith
  · intro he
    apply heven
    rcases abs_choice ((num : ℚ) - m * den) with hc | hc
    · left
      rw [hc] at he
      have : (2 * num : ℚ) = 2 * (m * den) + den := by linarith
      exact_mod_cast this
    · right
      rw [hc] at he
      have : (2 * (m * den) : ℚ) = 2 * num + den := by linarith
      exact_mod_cast this

end Scaled

namespace Binary64

open Scaled

/-- A natural with a further bit and the step between the numbers of fifty-three bits around it. -/
theorem bounds_of_log2 {n : ℕ} (h : 52 ≤ n.log2) :
    2 ^ 52 * 2 ^ (n.log2 - 52) ≤ n ∧ n < 2 ^ 53 * 2 ^ (n.log2 - 52) := by
  have hn : n ≠ 0 := by
    rintro rfl
    simp at h
  have hlow := Nat.log2_self_le hn
  have hhigh := Nat.lt_log2_self (n := n)
  rw [← Nat.pow_add, ← Nat.pow_add, Nat.add_sub_cancel' h]
  have he : 53 + (n.log2 - 52) = n.log2 + 1 := by omega
  rw [he]
  exact ⟨hlow, hhigh⟩

/-- A number of fifty-three bits is a multiple of a step or half a step below the numbers that the
step is for. -/
theorem HasBits.multiple_or_le {w : ℚ} (h : HasBits 53 w) (k : ℕ) :
    (∃ j : ℕ, w = j * (2 ^ k : ℕ)) ∨ w + (2 ^ k : ℕ) / 2 ≤ 2 ^ 52 * (2 ^ k : ℕ) := by
  obtain ⟨m, e, hm, rfl⟩ := h
  rcases le_or_gt (k : ℤ) e with he | he
  · left
    obtain ⟨i, rfl⟩ := Int.le.dest he
    refine ⟨m * 2 ^ i, ?_⟩
    push_cast
    rw [zpow_add₀ two_ne_zero, zpow_natCast, zpow_natCast]
    ring
  · right
    have hpow : (2 : ℚ) ^ e ≤ 2 ^ ((k : ℤ) - 1) := zpow_le_zpow_right₀ one_le_two (by omega)
    have hhalf : (2 : ℚ) ^ k = 2 ^ ((k : ℤ) - 1) * 2 := by
      rw [← zpow_add_one₀ two_ne_zero, sub_add_cancel, zpow_natCast]
    have hm' : (m : ℚ) ≤ 2 ^ 53 - 1 := by
      have hle : m + 1 ≤ 2 ^ 53 := hm
      have hcast : (m : ℚ) + 1 ≤ 2 ^ 53 := by exact_mod_cast hle
      linarith
    have hprod : (m : ℚ) * 2 ^ e ≤ (2 ^ 53 - 1) * 2 ^ ((k : ℤ) - 1) := by gcongr
    push_cast
    rw [hhalf]
    linarith

/-- Multiples of a step that differ are a step apart. -/
theorem step_le_abs_sub {i j : ℕ} (h : i ≠ j) {d : ℚ} (hd : 0 < d) :
    d ≤ |(i : ℚ) * d - j * d| := by
  have hone : (1 : ℚ) ≤ |(i : ℚ) - j| := by
    have hne : (i : ℤ) - j ≠ 0 := by omega
    exact_mod_cast Int.one_le_abs hne
  rw [← sub_mul, abs_mul, abs_of_pos hd]
  exact le_mul_of_one_le_left hd.le hone

/-- A natural of at most fifty-three bits is left as it is. -/
theorem rounded_of_log2 {n : ℕ} (h : n.log2 ≤ 52) : rounded n = n := by
  rw [rounded, Nat.sub_eq_zero_of_le h, Nat.pow_zero, Scaled.divNearest_one, Nat.mul_one]

/-- The result is at most half a step away, and its significand is even if it is just half a
step. -/
theorem abs_sub_rounded_le (n : ℕ) :
    |(n : ℚ) - rounded n| ≤ (2 ^ (n.log2 - 52) : ℕ) / 2 ∧
      (|(n : ℚ) - rounded n| = (2 ^ (n.log2 - 52) : ℕ) / 2 →
        Scaled.divNearest n (2 ^ (n.log2 - 52)) % 2 = 0) := by
  have hpos : 0 < 2 ^ (n.log2 - 52) := Nat.two_pow_pos _
  rw [rounded, Nat.cast_mul]
  exact Scaled.abs_sub_divNearest_le n hpos

/-- A carry into the next power of two moves the significand by one place. -/
theorem exists_significand {m : ℕ} (hlow : 2 ^ 52 ≤ m) (hhigh : m ≤ 2 ^ 53) :
    ∃ s i, 2 ^ 52 ≤ s ∧ s < 2 ^ 53 ∧ m = s * 2 ^ i ∧ (m % 2 = 0 → s % 2 = 0) := by
  rcases Nat.lt_or_eq_of_le hhigh with hlt | rfl
  · exact ⟨m, 0, hlow, hlt, (Nat.mul_one m).symm, fun he => he⟩
  · exact ⟨2 ^ 52, 1, by omega, by omega, by omega, fun _ => by omega⟩

section Long

variable {n : ℕ} (h : 52 ≤ n.log2)

include h

/-- The significand of a long natural has fifty-three bits, or it is the next power of two. -/
theorem significand_bounds :
    2 ^ 52 ≤ Scaled.divNearest n (2 ^ (n.log2 - 52)) ∧
      Scaled.divNearest n (2 ^ (n.log2 - 52)) ≤ 2 ^ 53 := by
  obtain ⟨hlow, hhigh⟩ := bounds_of_log2 h
  have hpos : 0 < 2 ^ (n.log2 - 52) := Nat.two_pow_pos _
  obtain ⟨hbelow, habove, -⟩ := Scaled.divNearest_spec n hpos
  generalize 2 ^ (n.log2 - 52) = d at *
  generalize Scaled.divNearest n d = m at *
  constructor
  · by_contra hlt
    have hle : (m + 1) * d ≤ 2 ^ 52 * d := Nat.mul_le_mul_right d (by omega)
    rw [Nat.add_one_mul m d] at hle
    omega
  · by_contra hlt
    have hle : (2 ^ 53 + 1) * d ≤ m * d := Nat.mul_le_mul_right d (by omega)
    omega

/-- Any other number of fifty-three bits is at least half a step away. -/
theorem half_le_abs_sub {w : ℚ} (hw : HasBits 53 w) (hne : w ≠ rounded n) :
    ((2 ^ (n.log2 - 52) : ℕ) : ℚ) / 2 ≤ |(n : ℚ) - w| := by
  have hnear := (abs_sub_rounded_le n).1
  have hlow : (2 ^ 52 * (2 ^ (n.log2 - 52) : ℕ) : ℚ) ≤ n := by
    exact_mod_cast (bounds_of_log2 h).1
  have hpos : (0 : ℚ) < (2 ^ (n.log2 - 52) : ℕ) := by positivity
  rcases hw.multiple_or_le (n.log2 - 52) with ⟨j, rfl⟩ | hbelow
  · have hj : j ≠ Scaled.divNearest n (2 ^ (n.log2 - 52)) := by
      rintro rfl
      exact hne (by rw [rounded, Nat.cast_mul])
    have hstep := step_le_abs_sub hj hpos
    rw [rounded, Nat.cast_mul] at hnear
    have htriangle := abs_sub_le ((j : ℚ) * (2 ^ (n.log2 - 52) : ℕ)) n
      (Scaled.divNearest n (2 ^ (n.log2 - 52)) * (2 ^ (n.log2 - 52) : ℕ))
    rw [abs_sub_comm _ (n : ℚ)] at htriangle
    linarith
  · have hle : (n : ℚ) - w ≤ |(n : ℚ) - w| := le_abs_self _
    linarith

/-- A long natural is rounded to a significand of fifty-three bits, even on a tie. -/
theorem exists_significand_rounded :
    ∃ s i : ℕ, 2 ^ 52 ≤ s ∧ s < 2 ^ 53 ∧ rounded n = s * 2 ^ i ∧
      (|(n : ℚ) - rounded n| = (2 ^ (n.log2 - 52) : ℕ) / 2 → s % 2 = 0) := by
  obtain ⟨hlow, hhigh⟩ := significand_bounds h
  obtain ⟨s, i, hs, hs', he, heven⟩ := exists_significand hlow hhigh
  refine ⟨s, i + (n.log2 - 52), hs, hs', ?_, fun htie => ?_⟩
  · rw [rounded, he, Nat.pow_add, Nat.mul_assoc]
  · exact heven ((abs_sub_rounded_le n).2 htie)

end Long

/-- Rounding finds the nearest number of fifty-three bits. -/
theorem roundsTo_rounded (n : ℕ) : RoundsTo n (rounded n) := by
  rcases Nat.lt_or_ge n.log2 52 with hshort | hlong
  · have he : rounded n = n := rounded_of_log2 hshort.le
    refine ⟨⟨n, 0, ?_, ?_⟩, fun w _ => ?_, fun w _ hne htie => ?_⟩
    · have hlt := Nat.lt_log2_self (n := n)
      exact hlt.trans_le (Nat.pow_le_pow_right Nat.two_pos (by omega))
    · rw [he, zpow_zero, mul_one]
    · rw [he, sub_self, abs_zero]
      exact abs_nonneg _
    · rw [he, sub_self, abs_zero, abs_eq_zero, sub_eq_zero] at htie
      exact absurd (htie.symm.trans (congrArg Nat.cast he.symm)) hne
  · obtain ⟨s, i, hs, hs', he, heven⟩ := exists_significand_rounded hlong
    have hnear := (abs_sub_rounded_le n).1
    have hvalue : (rounded n : ℚ) = s * 2 ^ (i : ℤ) := by
      rw [he, zpow_natCast]
      push_cast
      rfl
    refine ⟨⟨s, i, hs', hvalue⟩, fun w hw => ?_, fun w hw hne htie => ?_⟩
    · by_cases hne : w = rounded n
      · rw [hne]
      · exact hnear.trans (half_le_abs_sub hlong hw hne)
    · have hhalf := half_le_abs_sub hlong hw hne
      rw [htie] at hhalf
      have hs2 := heven (le_antisymm hnear hhalf)
      have hdouble : s = 2 * (s / 2) := by omega
      exact ⟨s / 2, i, by omega, by omega, by rw [← hdouble, hvalue]⟩

/-- What has no more than fifty-three bits is left as it is. -/
theorem rounded_of_hasBits {n : ℕ} (h : HasBits 53 n) : rounded n = n := by
  have hnear := (roundsTo_rounded n).nearest n h
  rw [sub_self, abs_zero, abs_nonpos_iff, sub_eq_zero] at hnear
  exact_mod_cast hnear.symm

/-- Up to the first power of two of more bits every natural is left as it is. -/
theorem rounded_of_le {n : ℕ} (h : n ≤ 2 ^ 53) : rounded n = n := by
  apply rounded_of_hasBits
  rcases Nat.lt_or_eq_of_le h with hlt | rfl
  · exact ⟨n, 0, hlt, by rw [zpow_zero, mul_one]⟩
  · exact ⟨1, 53, by decide, by norm_num⟩

/-- The farther of two numbers is on the other side of their middle. -/
private theorem add_le_of_abs_sub_le {a b x : ℚ} (hlt : b < a) (h : |x - a| ≤ |x - b|) :
    a + b ≤ 2 * x := by
  by_contra hlow
  have hb : |x - b| < a - x := abs_lt.mpr ⟨by linarith, by linarith⟩
  have ha : a - x ≤ |x - a| := abs_sub_comm a x ▸ le_abs_self (a - x)
  linarith

private theorem le_add_of_abs_sub_le {a b x : ℚ} (hlt : b < a) (h : |x - b| ≤ |x - a|) :
    2 * x ≤ a + b := by
  by_contra hhigh
  have ha : |x - a| < x - b := abs_lt.mpr ⟨by linarith, by linarith⟩
  have hb : x - b ≤ |x - b| := le_abs_self _
  linarith

/-- Rounding keeps the order. -/
theorem rounded_mono : Monotone rounded := by
  intro n n' hle
  rcases Nat.lt_or_eq_of_le hle with hlt | rfl
  · by_contra hgt
    have hspec := roundsTo_rounded n
    have hspec' := roundsTo_rounded n'
    have hv : (rounded n' : ℚ) < rounded n := by exact_mod_cast not_le.mp hgt
    have hn : (n : ℚ) < n' := by exact_mod_cast hlt
    have habove := add_le_of_abs_sub_le hv (hspec.nearest _ hspec'.bits)
    have hbelow := le_add_of_abs_sub_le hv (hspec'.nearest _ hspec.bits)
    linarith
  · exact le_refl _

/-- The significand with which a positive natural is held. -/
def heldSignificand (n : ℕ) : ℕ :=
  Scaled.divNearest (n * 2 ^ (52 - n.log2)) (2 ^ (n.log2 - 52))

private theorem heldSignificand_of_log2_le {n : ℕ} (h : n.log2 ≤ 52) :
    heldSignificand n = n * 2 ^ (52 - n.log2) := by
  rw [heldSignificand, Nat.sub_eq_zero_of_le h, Nat.pow_zero, Scaled.divNearest_one]

private theorem heldSignificand_of_le_log2 {n : ℕ} (h : 52 ≤ n.log2) :
    heldSignificand n = Scaled.divNearest n (2 ^ (n.log2 - 52)) := by
  rw [heldSignificand, Nat.sub_eq_zero_of_le h, Nat.pow_zero, Nat.mul_one]

/-- It has fifty-three bits, or it is the next power of two. -/
theorem heldSignificand_bounds {n : ℕ} (hn : n ≠ 0) :
    2 ^ 52 ≤ heldSignificand n ∧ heldSignificand n ≤ 2 ^ 53 := by
  rcases Nat.lt_or_ge n.log2 52 with hshort | hlong
  · have hlow := Nat.mul_le_mul_right (2 ^ (52 - n.log2)) (Nat.log2_self_le hn)
    have hhigh := Nat.mul_le_mul_right (2 ^ (52 - n.log2)) (Nat.lt_log2_self (n := n)).le
    rw [← Nat.pow_add] at hlow hhigh
    have he : n.log2 + (52 - n.log2) = 52 := by omega
    have he' : n.log2 + 1 + (52 - n.log2) = 53 := by omega
    rw [he] at hlow
    rw [he'] at hhigh
    rw [heldSignificand_of_log2_le hshort.le]
    exact ⟨hlow, hhigh⟩
  · rw [heldSignificand_of_le_log2 hlong]
    exact significand_bounds hlong

/-- With its exponent it makes the rounded natural. -/
theorem heldSignificand_mul (n : ℕ) :
    (heldSignificand n : ℚ) * 2 ^ ((n.log2 : ℤ) - 52) = rounded n := by
  rcases Nat.lt_or_ge n.log2 52 with hshort | hlong
  · have he : (n.log2 : ℤ) - 52 = -((52 - n.log2 : ℕ) : ℤ) := by omega
    rw [heldSignificand_of_log2_le hshort.le, rounded_of_log2 hshort.le, he, zpow_neg, zpow_natCast]
    push_cast
    exact mul_inv_cancel_right₀ (by positivity) _
  · have he : (n.log2 : ℤ) - 52 = ((n.log2 - 52 : ℕ) : ℤ) := by omega
    rw [heldSignificand_of_le_log2 hlong, rounded, he, zpow_natCast]
    push_cast
    rfl

/-- The logarithm by which a natural is scaled is that of its bits. -/
theorem floorLog_one {n : ℕ} (hn : n ≠ 0) : Scaled.floorLog n 1 = n.log2 := by
  have hguess : (n.log2 : ℤ) - (Nat.log2 1 : ℤ) = n.log2 := Int.sub_zero _
  have hle : 1 * Nat.pow 2 n.log2 ≤ n * Nat.pow 2 0 := by
    have hlow := Nat.log2_self_le hn
    simpa using hlow
  unfold Scaled.floorLog
  simp only [hguess, Scaled.scaleDown, Int.toNat_natCast, Int.toNat_neg_natCast, if_pos hle]

/-- The bits of a positive natural: its significand behind an exponent that is its logarithm. -/
theorem nearestBits_one {n : ℕ} (hn : n ≠ 0) (h : n.log2 < 64) :
    nearestBits n 1 = (n.log2 + 1022) * hiddenBit + heldSignificand n := by
  have hhigh := (heldSignificand_bounds hn).2
  have hexponent : roundingExponent n 1 = n.log2 - 52 := by
    rw [roundingExponent, floorLog_one hn, leastExponent]
    omega
  have hup : (-((n.log2 : ℤ) - 52)).toNat = 52 - n.log2 := by omega
  have hdown : ((n.log2 : ℤ) - 52).toNat = n.log2 - 52 := by omega
  have hplaces : ((n.log2 : ℤ) - 52 - leastExponent).toNat = n.log2 + 1022 := by
    rw [leastExponent]
    omega
  have hheld : Scaled.divNearest (Scaled.scaleDown n 1 ((n.log2 : ℤ) - 52)).1
      (Scaled.scaleDown n 1 ((n.log2 : ℤ) - 52)).2 = heldSignificand n := by
    rw [Scaled.scaleDown, hup, hdown, Nat.one_mul]
    rfl
  rw [nearestBits, if_neg hn]
  simp only [hexponent, hheld, hplaces]
  apply Nat.min_eq_right
  have hbit : hiddenBit = 4503599627370496 := rfl
  rw [hbit, infinityBits]
  omega

/-- What magnitude bits above the subnormal ones stand for: a significand of fifty-three bits, where
a carry goes over into the exponent. -/
theorem sizeOfBits_add (k : ℕ) {m : ℕ} (hlow : 2 ^ 52 ≤ m) (hhigh : m ≤ 2 ^ 53) :
    let size := sizeOfBits (k * hiddenBit + m)
    2 ^ 52 ≤ size.significand ∧ size.significand < 2 ^ 53 ∧
      size.toRat = m * 2 ^ ((k : ℤ) + leastExponent) := by
  have hbit : hiddenBit = 4503599627370496 := rfl
  have hnormal : ¬ k * hiddenBit + m < hiddenBit := by
    rw [hbit]
    omega
  rw [sizeOfBits, if_neg hnormal]
  dsimp only [Scaled.toRat]
  rcases Nat.lt_or_eq_of_le hhigh with hlt | rfl
  · have hmod : (k * hiddenBit + m) % hiddenBit = m - 2 ^ 52 := by
      rw [hbit]
      omega
    have hdiv : ((k * hiddenBit + m : ℕ) : ℤ) / (hiddenBit : ℤ) = k + 1 := by
      rw [hbit]
      omega
    have hm : hiddenBit + (m - 2 ^ 52) = m := by
      rw [hbit]
      omega
    have he : (k : ℤ) + 1 + (leastExponent - 1) = k + leastExponent := by omega
    rw [hmod, hdiv, hm, he]
    exact ⟨hlow, hlt, rfl⟩
  · have hmod : (k * hiddenBit + 2 ^ 53) % hiddenBit = 0 := by
      rw [hbit]
      omega
    have hdiv : ((k * hiddenBit + 2 ^ 53 : ℕ) : ℤ) / (hiddenBit : ℤ) = k + 2 := by
      rw [hbit]
      omega
    have he : (k : ℤ) + 2 + (leastExponent - 1) = k + leastExponent + 1 := by omega
    rw [hmod, hdiv, he, hbit]
    refine ⟨by omega, by omega, ?_⟩
    rw [zpow_add_one₀ two_ne_zero]
    push_cast
    ring

/-- The magnitude of a number that was made from one. -/
theorem classify_ofMagnitude {m : ℕ} (h : m < infinityBits) :
    (ofMagnitude false m).classify = .finite false (sizeOfBits m) := by
  have hbits : (ofMagnitude false m).bits.toNat = m := by
    rw [infinityBits] at h
    simp only [ofMagnitude, Bool.false_eq_true, if_false, Nat.zero_add, UInt64.toNat_ofNat']
    omega
  have hsign : signWeight = 9223372036854775808 := rfl
  have hmagnitude : (ofMagnitude false m).magnitude = m := by
    rw [infinityBits] at h
    rw [magnitude, hbits, hsign]
    omega
  have hnegative : (ofMagnitude false m).isNegative = false := by
    rw [infinityBits] at h
    rw [isNegative, hbits, hsign, decide_eq_false_iff_not]
    omega
  rw [classify, hmagnitude, hnegative, if_pos h]

/-- A positive natural is held by its significand and exponent. -/
theorem classify_ofNat {n : ℕ} (hn : n ≠ 0) (h : n < 2 ^ 64) :
    ∃ size : Scaled, (ofNat n).classify = .finite false size ∧
      2 ^ 52 ≤ size.significand ∧ size.significand < 2 ^ 53 ∧ size.toRat = rounded n := by
  have hlog : n.log2 < 64 := (Nat.log2_lt hn).mpr h
  obtain ⟨hlow, hhigh⟩ := heldSignificand_bounds hn
  have hfinite : nearestBits n 1 < infinityBits := by
    have hbit : hiddenBit = 4503599627370496 := rfl
    rw [nearestBits_one hn hlog, hbit, infinityBits]
    omega
  obtain ⟨hlow', hhigh', hvalue⟩ := sizeOfBits_add (n.log2 + 1022) hlow hhigh
  rw [← nearestBits_one hn hlog] at hlow' hhigh' hvalue
  refine ⟨_, classify_ofMagnitude hfinite, hlow', hhigh', ?_⟩
  have he : ((n.log2 + 1022 : ℕ) : ℤ) + leastExponent = (n.log2 : ℤ) - 52 := by
    rw [leastExponent]
    omega
  rw [hvalue, he, heldSignificand_mul]

/-- Zero has the least exponent. -/
theorem classify_ofNat_zero : (ofNat 0).classify = .finite false ⟨0, leastExponent⟩ := rfl

/-- A natural becomes the number to which it is rounded. -/
theorem toRat?_ofNat {n : ℕ} (h : n < 2 ^ 64) : (ofNat n).toRat? = some (rounded n : ℚ) := by
  rcases Nat.eq_zero_or_pos n with rfl | hpos
  · have hzero : rounded 0 = 0 := rounded_of_le (Nat.zero_le _)
    rw [toRat?, classify_ofNat_zero, hzero]
    simp [Scaled.toRat]
  · obtain ⟨size, hc, -, -, hvalue⟩ := classify_ofNat hpos.ne' h
    rw [toRat?, hc]
    simp only [Bool.false_eq_true, if_false, hvalue]

/-- A natural up to `2 ^ 53` is held as it is. -/
theorem toRat?_ofNat_of_le {n : ℕ} (h : n ≤ 2 ^ 53) : (ofNat n).toRat? = some (n : ℚ) := by
  rw [toRat?_ofNat (h.trans_lt (by decide)), rounded_of_le h]

/-- One stands for the number one. -/
theorem toRat?_one : one.toRat? = some 1 := by
  rw [one, toRat?_ofNat_of_le (by decide), Nat.cast_one]

/-- Zero of either sign stands for the number zero. -/
theorem toRat?_zero (negative : Bool) : (zero negative).toRat? = some 0 := by
  have hc : (zero negative).classify = .finite negative ⟨0, leastExponent⟩ := by
    cases negative <;> rfl
  rw [toRat?, hc]
  simp [Scaled.toRat]

end Binary64

end GpuTelemetry
