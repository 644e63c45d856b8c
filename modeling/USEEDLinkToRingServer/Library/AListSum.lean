import Mathlib.Algebra.BigOperators.Group.List.Basic
import Mathlib.Algebra.Order.BigOperators.Group.List
import Mathlib.Algebra.Order.Ring.Int
import Mathlib.Algebra.Ring.Int.Defs
import Mathlib.Data.List.AList

/-!
# Sums over the entries of a map

A key that is not in the map counts for zero, so that a sum over any keys is defined, and an insertion
changes the sum over all keys by what the key counted for before and counts for after.
-/

namespace AListSum

variable {α β : Type*} [DecidableEq α]

/-- What a key of the map counts for. -/
def value (f : β → Int) (m : AList fun _ : α => β) (a : α) : Int := ((m.lookup a).map f).getD 0

def total (f : β → Int) (m : AList fun _ : α => β) : Int := (m.keys.map (value f m)).sum

variable {f : β → Int} {m : AList fun _ : α => β} {a : α} {b : β} {keys : List α}

@[simp] theorem value_insert (f : β → Int) (m : AList fun _ : α => β) (a a' : α) (b : β) :
    value f (m.insert a b) a' = if a' = a then f b else value f m a' := by
  by_cases h : a' = a
  · subst h
    simp [value]
  · simp [value, h]

/-- The order in which the keys are visited does not matter. -/
theorem sum_eq_total (h : keys.Perm m.keys) : (keys.map (value f m)).sum = total f m :=
  (h.map (value f m)).sum_eq

/-- A key that is not visited may get any value. -/
theorem sum_insert_of_notMem (h : a ∉ keys) :
    (keys.map (value f (m.insert a b))).sum = (keys.map (value f m)).sum := by
  congr 1
  apply List.map_congr_left
  intro a' ha'
  rw [value_insert, if_neg (ne_of_mem_of_not_mem ha' h)]

theorem value_add_sum_erase (m : AList fun _ : α => β) (a : α) :
    value f m a + ((m.keys.erase a).map (value f m)).sum = total f m := by
  by_cases hmem : a ∈ m.keys
  · have hperm := ((List.perm_cons_erase hmem).map (value f m)).sum_eq
    rw [total, hperm, List.map_cons, List.sum_cons]
  · have hnone : m.lookup a = none := AList.lookup_eq_none.mpr hmem
    rw [List.erase_of_not_mem hmem, value, hnone]
    exact Int.zero_add _

theorem total_insert (m : AList fun _ : α => β) (a : α) (b : β) :
    total f (m.insert a b) + value f m a = total f m + f b := by
  have hnotMem : a ∉ m.keys.erase a := m.keys_nodup.not_mem_erase
  rw [← value_add_sum_erase m a, total, AList.keys_insert, List.map_cons, List.sum_cons,
    sum_insert_of_notMem hnotMem, value_insert, if_pos rfl]
  omega

theorem total_nonneg (h : ∀ a b, m.lookup a = some b → 0 ≤ f b) : 0 ≤ total f m := by
  refine List.sum_nonneg fun x hx => ?_
  obtain ⟨a, -, rfl⟩ := List.mem_map.mp hx
  rw [value]
  cases hlookup : m.lookup a with
  | none => exact Int.le_refl _
  | some b => exact h a b hlookup

end AListSum
