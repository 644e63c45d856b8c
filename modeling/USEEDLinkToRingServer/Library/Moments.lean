import Mathlib.Algebra.BigOperators.Group.List.Basic
import Mathlib.Algebra.Order.BigOperators.Group.List
import Mathlib.Algebra.Order.Field.Basic
import Mathlib.Tactic.Ring

/-!
# Moments of a list of samples

The mean and the squared deviations from it, and how they come out of the number of the samples, their sum
and the sum of their squares, which can be kept as running sums.
-/

namespace Moments

variable {K : Type*} [Field K]

def sumOfSquares (xs : List K) : K := (xs.map fun x => x ^ 2).sum

def mean (xs : List K) : K := xs.sum / xs.length

/-- The sum of the squared distances from a centre. -/
def deviationsFrom (c : K) (xs : List K) : K := (xs.map fun x => (x - c) ^ 2).sum

/-- The sum of the squared deviations from the mean. -/
def squaredDeviations (xs : List K) : K := deviationsFrom (mean xs) xs

theorem sumOfSquares_append (xs ys : List K) :
    sumOfSquares (xs ++ ys) = sumOfSquares xs + sumOfSquares ys := by
  rw [sumOfSquares, List.map_append, List.sum_append]
  rfl

/-! ### The order of the samples does not matter -/

theorem sumOfSquares_perm {xs ys : List K} (h : xs.Perm ys) : sumOfSquares xs = sumOfSquares ys :=
  (h.map _).sum_eq

/-! ### The three running sums determine the moments -/

theorem deviationsFrom_eq (c : K) (xs : List K) :
    deviationsFrom c xs = sumOfSquares xs - 2 * c * xs.sum + xs.length * c ^ 2 := by
  induction xs with
  | nil => simp [deviationsFrom, sumOfSquares]
  | cons x xs ih =>
    simp only [deviationsFrom, sumOfSquares, List.map_cons, List.sum_cons, List.length_cons,
      Nat.cast_succ] at ih ⊢
    rw [ih]
    ring

section

variable [CharZero K]

theorem length_mul_mean {xs : List K} (hne : xs ≠ []) : xs.length * mean xs = xs.sum := by
  have hlength : (xs.length : K) ≠ 0 := Nat.cast_ne_zero.mpr (mt List.length_eq_zero_iff.mp hne)
  rw [mean, mul_div_cancel₀ _ hlength]

/-- The variance as the mean of the squares less the square of the mean. -/
theorem length_mul_variance {xs : List K} (hne : xs ≠ []) :
    xs.length * (sumOfSquares xs / xs.length - mean xs * mean xs) = squaredDeviations xs := by
  have hlength : (xs.length : K) ≠ 0 := Nat.cast_ne_zero.mpr (mt List.length_eq_zero_iff.mp hne)
  rw [squaredDeviations, deviationsFrom_eq, ← length_mul_mean hne, mul_sub, mul_div_cancel₀ _ hlength]
  ring

end

/-! ### When the samples do not deviate -/

section

variable [LinearOrder K] [IsStrictOrderedRing K]

theorem deviationsFrom_nonneg (c : K) (xs : List K) : 0 ≤ deviationsFrom c xs := by
  apply List.sum_nonneg
  intro d hd
  obtain ⟨x, _, rfl⟩ := List.mem_map.mp hd
  exact sq_nonneg _

theorem deviationsFrom_eq_zero_iff {c : K} {xs : List K} :
    deviationsFrom c xs = 0 ↔ ∀ x ∈ xs, x = c := by
  induction xs with
  | nil => simp [deviationsFrom]
  | cons x xs ih =>
    have hsum : deviationsFrom c (x :: xs) = (x - c) ^ 2 + deviationsFrom c xs := by
      simp [deviationsFrom]
    rw [hsum, List.forall_mem_cons, ← ih,
      add_eq_zero_iff_of_nonneg (sq_nonneg _) (deviationsFrom_nonneg c xs), sq_eq_zero_iff, sub_eq_zero]

/-- There are no deviations exactly when all samples are the same. -/
theorem squaredDeviations_eq_zero_iff {xs : List K} :
    squaredDeviations xs = 0 ↔ ∀ x ∈ xs, ∀ y ∈ xs, x = y := by
  rw [squaredDeviations, deviationsFrom_eq_zero_iff]
  constructor
  · intro hmean x hx y hy
    rw [hmean x hx, hmean y hy]
  · intro hsame x hx
    have hlength : (xs.length : K) ≠ 0 := Nat.cast_ne_zero.mpr (List.length_pos_of_mem hx).ne'
    have hsum : xs.sum = xs.length * x := by
      rw [List.sum_eq_card_nsmul xs x fun y hy => hsame y hy x hx, nsmul_eq_mul]
    rw [mean, hsum, mul_div_cancel_left₀ _ hlength]

end

end Moments
