import Mathlib.Data.List.Basic

/-!
# Joined strings

Parts that are joined with a separator can be told apart when the separator is not in the part on one side
of it. Otherwise all that a joined string shows are the pieces between the separators, and not which of them
belong together.
-/

namespace Separated

variable {α : Type*} {sep : α} {a a' b b' : List α}

/-- The first separator ends the first part. -/
theorem eq_of_first (ha : sep ∉ a) (ha' : sep ∉ a') (h : a ++ sep :: b = a' ++ sep :: b') :
    a = a' ∧ b = b' := by
  induction a generalizing a' with
  | nil =>
    cases a' with
    | nil => exact ⟨rfl, (List.cons.inj h).2⟩
    | cons c rest => exact absurd ((List.cons.inj h).1 ▸ List.mem_cons_self) ha'
  | cons c rest ih =>
    cases a' with
    | nil => exact absurd ((List.cons.inj h).1 ▸ List.mem_cons_self) ha
    | cons c' rest' =>
      obtain ⟨rfl, htail⟩ := List.cons.inj h
      obtain ⟨rfl, heq⟩ := ih (fun hmem => ha (List.mem_cons_of_mem c hmem))
        (fun hmem => ha' (List.mem_cons_of_mem c hmem)) htail
      exact ⟨rfl, heq⟩

/-- The last separator starts the last part. -/
theorem eq_of_last (hb : sep ∉ b) (hb' : sep ∉ b') (h : a ++ sep :: b = a' ++ sep :: b') :
    a = a' ∧ b = b' := by
  have hreverse := congrArg List.reverse h
  simp only [List.reverse_append, List.reverse_cons, List.append_assoc, List.singleton_append]
    at hreverse
  obtain ⟨hlast, hfirst⟩ := eq_of_first (mt List.mem_reverse.mp hb) (mt List.mem_reverse.mp hb') hreverse
  exact ⟨List.reverse_inj.mp hfirst, List.reverse_inj.mp hlast⟩

/-! ### Parts that may contain the separator -/

section Pieces

variable [DecidableEq α] {parts parts' : List (List α)}

/-- What is between the separators when the parts are joined. -/
def pieces (sep : α) (parts : List (List α)) : List (List α) := parts.flatMap (·.splitOn sep)

/-- The number of pieces of each part. -/
def pieceCounts (sep : α) (parts : List (List α)) : List Nat :=
  parts.map fun part => (part.splitOn sep).length

theorem splitOn_injective (sep : α) : Function.Injective (List.splitOn sep) :=
  Function.LeftInverse.injective (g := [sep].intercalate) fun _ => List.intercalate_splitOn sep

theorem splitOn_intercalate (hne : parts ≠ []) : ([sep].intercalate parts).splitOn sep = pieces sep parts := by
  induction parts with
  | nil => exact absurd rfl hne
  | cons first rest ih =>
    cases rest with
    | nil => rw [List.intercalate_singleton, pieces, List.flatMap_singleton]
    | cons second rest =>
      rw [List.intercalate_cons_cons, List.append_assoc, List.singleton_append,
        List.splitOn_append_cons_self, ih (List.cons_ne_nil second rest)]
      rfl

/-- Joined strings are the same exactly when their pieces are. -/
theorem intercalate_eq_iff (hne : parts ≠ []) (hne' : parts' ≠ []) :
    [sep].intercalate parts = [sep].intercalate parts' ↔ pieces sep parts = pieces sep parts' := by
  rw [← splitOn_intercalate hne, ← splitOn_intercalate hne']
  exact (splitOn_injective sep).eq_iff.symm

/-- **The parts are the same exactly when their pieces are and belong together in the same way.** -/
theorem parts_eq_iff :
    parts = parts' ↔ pieces sep parts = pieces sep parts' ∧ pieceCounts sep parts = pieceCounts sep parts' := by
  constructor
  · rintro rfl
    exact ⟨rfl, rfl⟩
  · rintro ⟨hpieces, hcounts⟩
    induction parts generalizing parts' with
    | nil => exact (List.map_eq_nil_iff.mp hcounts.symm).symm
    | cons part rest ih =>
      cases parts' with
      | nil => exact absurd hcounts (List.cons_ne_nil _ _)
      | cons part' rest' =>
        obtain ⟨hcount, hcounts⟩ := List.cons.inj hcounts
        obtain ⟨hpart, hrest⟩ := List.append_inj hpieces hcount
        rw [splitOn_injective sep hpart, ih hrest hcounts]

end Pieces

end Separated
