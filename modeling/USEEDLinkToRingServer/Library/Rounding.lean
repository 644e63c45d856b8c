import Mathlib.Data.Nat.Size
import Mathlib.Tactic.Ring

/-!
# Rounding integers to a floating-point significand

A binary format with a significand of `precision` bits holds the integers of the form `m * 2 ^ k` with
`m < 2 ^ precision`. The conversion of any other integer goes to the nearest of these, and to the one
with the even significand from halfway. Everything is integer arithmetic: no exponent range is
modelled, since every 64-bit integer is well inside that of the double format.
-/

namespace Rounding

/-- The number of low bits of `n` that a significand of `precision` bits has no room for. -/
def excess (precision n : Nat) : Nat := n.size - precision

/-- `n` rounded to the nearest number with a significand of `precision` bits, ties to even. -/
def roundNearestEven (precision n : Nat) : Nat :=
  let unit := 2 ^ excess precision n
  let quotient := n / unit
  let remainder := n % unit
  if 2 * remainder < unit ∨ 2 * remainder = unit ∧ quotient % 2 = 0 then quotient * unit
  else (quotient + 1) * unit

/-- The sign is kept and the magnitude rounded. -/
def roundIntNearestEven (precision : Nat) (n : Int) : Int :=
  n.sign * roundNearestEven precision n.natAbs

/-- `n` is a number of the format. -/
def Representable (precision n : Nat) : Prop := ∃ m k, n = m * 2 ^ k ∧ m < 2 ^ precision

theorem dvd_roundNearestEven (precision n : Nat) :
    2 ^ excess precision n ∣ roundNearestEven precision n := by
  simp only [roundNearestEven]
  split <;> exact Dvd.intro_left _ rfl

theorem roundNearestEven_of_dvd {precision n : Nat} (h : 2 ^ excess precision n ∣ n) :
    roundNearestEven precision n = n := by
  have hrem : n % 2 ^ excess precision n = 0 := Nat.mod_eq_zero_of_dvd h
  have hpos : 0 < 2 ^ excess precision n := Nat.two_pow_pos _
  simp only [roundNearestEven, hrem]
  rw [if_pos (Or.inl (by omega)), Nat.div_mul_cancel h]

theorem excess_dvd_iff (precision n : Nat) :
    2 ^ excess precision n ∣ n ↔ Representable precision n := by
  constructor
  · intro hdvd
    refine ⟨n / 2 ^ excess precision n, excess precision n, (Nat.div_mul_cancel hdvd).symm, ?_⟩
    rw [Nat.div_lt_iff_lt_mul (Nat.two_pow_pos _), ← pow_add]
    refine (Nat.lt_size_self n).trans_le (Nat.pow_le_pow_right (by decide) ?_)
    simp only [excess]
    omega
  · rintro ⟨m, k, rfl, hm⟩
    rcases Nat.eq_zero_or_pos m with rfl | hpos
    · simp
    · have hsize : (m * 2 ^ k).size ≤ k + precision := by
        rw [Nat.size_le, pow_add, Nat.mul_comm]
        exact Nat.mul_lt_mul_of_pos_left hm (Nat.two_pow_pos k)
      have hexcess : excess precision (m * 2 ^ k) ≤ k := by
        simp only [excess]
        omega
      exact (Nat.pow_dvd_pow 2 hexcess).trans (Nat.dvd_mul_left _ _)

/-- Rounding leaves exactly the numbers of the format as they are. -/
theorem roundNearestEven_eq_self_iff (precision n : Nat) :
    roundNearestEven precision n = n ↔ Representable precision n := by
  rw [← excess_dvd_iff]
  constructor
  · intro heq
    have hdvd := dvd_roundNearestEven precision n
    rwa [heq] at hdvd
  · exact roundNearestEven_of_dvd

theorem roundIntNearestEven_eq_self_iff (precision : Nat) (n : Int) :
    roundIntNearestEven precision n = n ↔ Representable precision n.natAbs := by
  rw [← roundNearestEven_eq_self_iff]
  rcases lt_trichotomy n 0 with hneg | rfl | hpos
  · rw [roundIntNearestEven, Int.sign_eq_neg_one_of_neg hneg]
    omega
  · simpa [roundIntNearestEven] using roundNearestEven_of_dvd (dvd_zero _)
  · rw [roundIntNearestEven, Int.sign_eq_one_of_pos hpos]
    omega

end Rounding
