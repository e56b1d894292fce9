import FeedMonitor.Number.Binary64
import Mathlib.Algebra.Group.Nat.Defs
import Mathlib.Algebra.Order.Ring.Nat
import Mathlib.Tactic.Ring

/-!
Whole numbers that doubles hold exactly.

A number of at most fifty-three bits with zeros behind them is not rounded, whatever ratio it is
given as. Its last place is the one that leaves fifty-three bits in front of the point.
-/

namespace FeedMonitor.Binary64

/-- `x` is the whole number `n`. -/
structure IsWhole (x : Binary64) (n : Nat) : Prop where
  positive : x.negative = false
  ratio : x.numerator = n * x.denominator

theorem denominator_pos (x : Binary64) : 0 < x.denominator := Nat.pow_pos (by decide)

section

variable {x : Binary64} {n : Nat} (whole : x.IsWhole n)

include whole

theorem IsWhole.exceeds_iff (bound : Nat) : x.exceeds bound = true ↔ bound < n := by
  have positive := x.denominator_pos
  rw [exceeds, whole.positive, whole.ratio, Bool.not_false, Bool.true_and, decide_eq_true_eq]
  exact Nat.mul_lt_mul_right positive

theorem IsWhole.nearestWhole_eq : x.nearestWhole = n := by
  have positive := x.denominator_pos
  have halves : 2 * (n * x.denominator) + x.denominator =
      x.denominator + 2 * x.denominator * n := by
    ring
  rw [nearestWhole, whole.ratio, halves, Nat.add_mul_div_left _ _ (by omega),
    Nat.div_eq_of_lt (by omega), Nat.zero_add]

theorem IsWhole.isPositive_eq (some : 0 < n) : x.isPositive = true := by
  rw [isPositive_iff]
  refine ⟨whole.positive, fun zero => ?_⟩
  have nothing : x.numerator = 0 := by
    rw [numerator, significand, zero]
    exact Nat.zero_mul _
  have product := Nat.mul_pos some x.denominator_pos
  rw [← whole.ratio, nothing] at product
  contradiction

end

/-! ### Rounding -/

theorem nearestEven_mul {den : Nat} (positive : 0 < den) (n : Nat) :
    nearestEven (n * den) den = n := by
  rw [nearestEven, Nat.mul_div_cancel n positive, Nat.mul_mod_left]
  exact if_pos positive

/-- Fifty-two bits more or less on either side. -/
theorem two_pow_shift (k : Nat) : 2 ^ 52 * 2 ^ (k - 52) = 2 ^ k * 2 ^ (52 - k) := by
  rw [← Nat.pow_add, ← Nat.pow_add]
  congr 1
  omega

theorem short_iff {n den : Nat} (positive : 0 < den) (k : Nat) :
    n * den * 2 ^ (52 - k) < fractions * (den * 2 ^ (k - 52)) ↔ n < 2 ^ k := by
  have left : n * den * 2 ^ (52 - k) = n * (den * 2 ^ (52 - k)) := Nat.mul_assoc _ _ _
  have right : fractions * (den * 2 ^ (k - 52)) = 2 ^ k * (den * 2 ^ (52 - k)) := by
    have shift := two_pow_shift k
    calc fractions * (den * 2 ^ (k - 52)) = den * (2 ^ 52 * 2 ^ (k - 52)) := by
          rw [show fractions = 2 ^ 52 from rfl]
          ring
      _ = 2 ^ k * (den * 2 ^ (52 - k)) := by
          rw [shift]
          ring
  rw [left, right]
  exact Nat.mul_lt_mul_right (Nat.mul_pos positive (Nat.two_pow_pos _))

/-- The logarithms of a product and of a factor leave one guess too high at most. -/
theorem log2_mul {n den : Nat} (some : 0 < n) (positive : 0 < den) :
    (n * den).log2 = n.log2 + den.log2 ∨ (n * den).log2 = n.log2 + den.log2 + 1 := by
  have product := Nat.mul_pos some positive
  have least : 2 ^ (n.log2 + den.log2) ≤ n * den := by
    rw [Nat.pow_add]
    exact Nat.mul_le_mul (Nat.log2_self_le (by omega)) (Nat.log2_self_le (by omega))
  have most : n * den < 2 ^ (n.log2 + den.log2 + 2) := by
    have pow : 2 ^ (n.log2 + den.log2 + 2) = 2 ^ (n.log2 + 1) * 2 ^ (den.log2 + 1) := by
      rw [← Nat.pow_add]
      congr 1
      omega
    rw [pow]
    exact Nat.mul_lt_mul'' Nat.lt_log2_self Nat.lt_log2_self
  have above := (Nat.le_log2 (by omega)).mpr least
  have below := (Nat.log2_lt (by omega)).mpr most
  omega

theorem lastPlace_mul {n den : Nat} (some : 0 < n) (positive : 0 < den) :
    lastPlace (n * den) den = (n.log2 : Int) - 52 := by
  have least := Nat.log2_self_le (n := n) (by omega)
  have most := Nat.lt_log2_self (n := n)
  obtain ⟨k, place⟩ : ∃ k : Nat, (n * den).log2 = k + den.log2 :=
    ⟨(n * den).log2 - den.log2, by have := log2_mul some positive; omega⟩
  have guess : ((n * den).log2 : Int) - den.log2 - 52 = (k : Int) - 52 := by omega
  have down : (-((k : Int) - 52)).toNat = 52 - k := by omega
  have up : ((k : Int) - 52).toNat = k - 52 := by omega
  simp only [lastPlace, guess, down, up, Nat.pow_eq, short_iff positive]
  -- The guess is right, or the numerator is below the power of two that it stands for.
  rcases log2_mul some positive with exact | high
  · have same : k = n.log2 := by omega
    subst same
    rw [if_neg (by omega)]
    omega
  · have same : k = n.log2 + 1 := by omega
    subst same
    rw [if_pos most]
    omega

/-- The bits of a number in front of its last place. -/
theorem exists_significand {n zeros : Nat} (some : 0 < n) (small : n < 2 ^ (53 + zeros))
    (divides : 2 ^ zeros ∣ n) :
    ∃ q, n * 2 ^ (52 - n.log2) = q * 2 ^ (n.log2 - 52) ∧ 2 ^ 52 ≤ q ∧ q < 2 ^ 53 := by
  have few : n.log2 < 53 + zeros := (Nat.log2_lt (by omega)).mpr small
  have least := Nat.log2_self_le (n := n) (by omega)
  have most := Nat.lt_log2_self (n := n)
  have places : 2 ^ (n.log2 - 52) ∣ n := (Nat.pow_dvd_pow 2 (by omega)).trans divides
  obtain ⟨q, split⟩ := places.trans (Nat.dvd_mul_right n (2 ^ (52 - n.log2)))
  have shift := two_pow_shift n.log2
  have scale := Nat.two_pow_pos (n.log2 - 52)
  have lower := Nat.mul_le_mul_right (2 ^ (52 - n.log2)) least
  have upper := Nat.mul_lt_mul_of_pos_right most (Nat.two_pow_pos (52 - n.log2))
  rw [split, Nat.mul_comm _ q] at lower upper
  refine ⟨q, by rw [split, Nat.mul_comm], ?_, ?_⟩
  · rw [← shift] at lower
    exact Nat.le_of_mul_le_mul_right lower scale
  · have doubled : 2 ^ (n.log2 + 1) * 2 ^ (52 - n.log2) = 2 ^ 53 * 2 ^ (n.log2 - 52) := by
      rw [Nat.pow_succ, Nat.mul_right_comm, ← shift]
      ring
    rw [doubled] at upper
    exact Nat.lt_of_mul_lt_mul_right upper

theorem exists_ofRatio? (zeros : Nat) {n den : Nat} (some : 0 < n) (positive : 0 < den)
    (small : n < 2 ^ (53 + zeros)) (divides : 2 ^ zeros ∣ n) (finite : zeros ≤ 971) :
    ∃ x, ofRatio? false (n * den) den = .some x ∧ x.IsWhole n := by
  obtain ⟨q, split, least, most⟩ := exists_significand some small divides
  have few : n.log2 < 53 + zeros := (Nat.log2_lt (by omega)).mpr small
  have product := Nat.mul_pos some positive
  have up : ((n.log2 : Int) - 52).toNat = n.log2 - 52 := by omega
  have down : (-((n.log2 : Int) - 52)).toNat = 52 - n.log2 := by omega
  have biased : ((n.log2 : Int) - 52 + 1074).toNat = n.log2 + 1022 := by omega
  have scaled : n * den * 2 ^ (52 - n.log2) = q * (den * 2 ^ (n.log2 - 52)) := by
    rw [Nat.mul_right_comm, split]
    ring
  have rounded : round (n * den) den = (n.log2 + 1022) * fractions + q := by
    simp only [round, if_neg (Nat.ne_of_gt product), lastPlace_mul some positive, up, down, biased,
      Nat.pow_eq, scaled]
    rw [nearestEven_mul (Nat.mul_pos positive (Nat.two_pow_pos _))]
  have fits : (n.log2 + 1022) * fractions + q < limit := by
    simp only [limit, fractions]
    omega
  refine ⟨⟨false, _, fits⟩, ?_, rfl, ?_⟩
  · rw [ofRatio?, rounded, ofMagnitude?, dif_pos fits]
  · have normal : ¬(n.log2 + 1022) * fractions + q < fractions := by
      simp only [fractions]
      omega
    have bits : fractions + ((n.log2 + 1022) * fractions + q) % fractions = q := by
      simp only [fractions]
      omega
    have power : ((((n.log2 + 1022) * fractions + q) / fractions : Nat) : Int) - 1075 =
        (n.log2 : Int) - 52 := by
      simp only [fractions]
      omega
    simp only [numerator, denominator, significand, exponent, if_neg normal, bits, power, up, down,
      Nat.pow_eq]
    exact split.symm

end FeedMonitor.Binary64
