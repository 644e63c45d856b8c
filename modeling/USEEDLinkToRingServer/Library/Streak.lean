import Mathlib.Data.List.DropRight

/-!
# Streaks

The streak of a history is the number of entries at its end that satisfy a test. A counter that is
increased when the test holds and reset otherwise counts it.
-/

namespace Streak

variable {α : Type*} {p : α → Bool}

/-- The number of entries at the end of the list that satisfy `p`. -/
def streak (p : α → Bool) (xs : List α) : Nat := (xs.rtakeWhile p).length

/-- The last `n` entries of the list satisfy `p`. -/
def EndsWith (p : α → Bool) (n : Nat) (xs : List α) : Prop :=
  ∃ earlier recent, xs = earlier ++ recent ∧ recent.length = n ∧ ∀ x ∈ recent, p x = true

@[simp] theorem streak_nil : streak p [] = 0 := rfl

theorem streak_concat (xs : List α) (x : α) :
    streak p (xs ++ [x]) = if p x then streak p xs + 1 else 0 := by
  rw [streak, List.rtakeWhile_concat]
  split <;> simp [streak]

/-- The last `n` entries satisfy the test exactly when the streak is at least that long. -/
theorem endsWith_iff (n : Nat) (xs : List α) : EndsWith p n xs ↔ n ≤ streak p xs := by
  constructor
  · rintro ⟨earlier, recent, rfl, rfl, hall⟩
    have hsuffix : recent <:+ (earlier ++ recent).rtakeWhile p := by
      rw [List.rtakeWhile, List.reverse_append, List.takeWhile_append_of_pos, List.reverse_append,
        List.reverse_reverse]
      · exact List.suffix_append _ _
      · exact fun x hx => hall x (List.mem_reverse.mp hx)
    exact hsuffix.length_le
  · intro hle
    obtain ⟨earlier, hxs⟩ := List.rtakeWhile_suffix p xs
    let recent := (xs.rtakeWhile p).drop (streak p xs - n)
    refine ⟨earlier ++ (xs.rtakeWhile p).take (streak p xs - n), recent, ?_, ?_, ?_⟩
    · rw [List.append_assoc, List.take_append_drop, hxs]
    · rw [List.length_drop, ← streak]
      omega
    · exact fun x hx => List.mem_rtakeWhile_imp (List.mem_of_mem_drop hx)

end Streak
