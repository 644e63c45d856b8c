import Mathlib.Order.Lattice
import Mathlib.Data.List.Induction
import Mathlib.Tactic.Common

/-!
# High-water marks

Values are offered one after the other, and some of them are not eligible. A value is accepted if it is
eligible and above the mark, and the mark is then raised to it. One mark is all that is kept of the values
that came before.
-/

namespace Watermark

variable {α : Type*} [LinearOrder α]

structure Offer (α : Type*) where
  value : α
  eligible : Bool

def accepts (mark : α) (offer : Offer α) : Bool := offer.eligible && decide (mark < offer.value)

@[simp] theorem accepts_iff {mark : α} {offer : Offer α} :
    accepts mark offer = true ↔ offer.eligible = true ∧ mark < offer.value := by
  simp [accepts]

def raise (mark : α) (offer : Offer α) : α := if accepts mark offer then offer.value else mark

/-- The mark after all offers. -/
def markAfter (mark : α) (offers : List (Offer α)) : α := offers.foldl raise mark

/-- The values accepted, in the order of the offers. -/
def accepted : α → List (Offer α) → List α
  | _, [] => []
  | mark, offer :: offers =>
    if accepts mark offer then offer.value :: accepted offer.value offers else accepted mark offers

variable {mark : α} {offer : Offer α} {offers : List (Offer α)}

/-! ### One more offer -/

theorem markAfter_concat :
    markAfter mark (offers ++ [offer]) = raise (markAfter mark offers) offer := by
  simp [markAfter]

theorem accepted_concat :
    accepted mark (offers ++ [offer]) =
      accepted mark offers ++ if accepts (markAfter mark offers) offer then [offer.value] else [] := by
  induction offers generalizing mark with
  | nil => rfl
  | cons first rest ih =>
    rw [List.cons_append, accepted, accepted]
    cases hfirst : accepts mark first with
    | true =>
      have hmark : markAfter mark (first :: rest) = markAfter first.value rest := by
        simp [markAfter, raise, hfirst]
      rw [hmark, if_pos rfl, if_pos rfl, ih, List.cons_append]
    | false =>
      have hmark : markAfter mark (first :: rest) = markAfter mark rest := by
        simp [markAfter, raise, hfirst]
      rw [hmark, if_neg Bool.false_ne_true, if_neg Bool.false_ne_true, ih]

/-! ### The mark and the accepted values -/

/-- The mark is the last value accepted. -/
theorem markAfter_eq : markAfter mark offers = (accepted mark offers).getLast?.getD mark := by
  induction offers using List.reverseRecOn with
  | nil => rfl
  | append_singleton offers offer ih =>
    rw [markAfter_concat, accepted_concat, raise]
    split
    · simp
    · rw [ih, List.append_nil]

theorem le_markAfter_of_mem_accepted {value : α} (h : value ∈ accepted mark offers) :
    value ≤ markAfter mark offers := by
  induction offers using List.reverseRecOn with
  | nil => exact absurd h List.not_mem_nil
  | append_singleton offers offer ih =>
    rw [markAfter_concat, raise]
    rw [accepted_concat] at h
    split
    · next haccepts =>
      rw [if_pos haccepts, List.mem_append, List.mem_singleton] at h
      rcases h with hbefore | rfl
      · exact (ih hbefore).trans (accepts_iff.mp haccepts).2.le
      · exact le_rfl
    · next haccepts =>
      rw [if_neg haccepts, List.append_nil] at h
      exact ih h

/-- Accepted values increase strictly, so no value is accepted twice. -/
theorem accepted_pairwise : (accepted mark offers).Pairwise (· < ·) := by
  induction offers using List.reverseRecOn with
  | nil => exact List.Pairwise.nil
  | append_singleton offers offer ih =>
    rw [accepted_concat]
    split
    · next haccepts =>
      refine List.pairwise_append.mpr ⟨ih, List.pairwise_singleton _ _, fun value hvalue last hlast => ?_⟩
      rw [List.mem_singleton.mp hlast]
      exact (le_markAfter_of_mem_accepted hvalue).trans_lt (accepts_iff.mp haccepts).2
    · rwa [List.append_nil]

/-- **The mark stands for all eligible values so far**: a value is above it exactly when it is above the
first mark and above every eligible value that was offered, accepted or not. -/
theorem markAfter_lt_iff {value : α} :
    markAfter mark offers < value ↔
      mark < value ∧ ∀ offer ∈ offers, offer.eligible = true → offer.value < value := by
  induction offers using List.reverseRecOn with
  | nil => simp [markAfter]
  | append_singleton offers offer ih =>
    have hsplit : (∀ o ∈ offers ++ [offer], o.eligible = true → o.value < value) ↔
        (∀ o ∈ offers, o.eligible = true → o.value < value) ∧
          (offer.eligible = true → offer.value < value) := by
      simp only [List.mem_append, List.mem_singleton, or_imp, forall_and, forall_eq]
    rw [markAfter_concat, hsplit, ← and_assoc, ← ih, raise]
    split
    · next haccepts =>
      obtain ⟨heligible, hlt⟩ := accepts_iff.mp haccepts
      exact ⟨fun h => ⟨hlt.trans h, fun _ => h⟩, fun h => h.2 heligible⟩
    · next haccepts =>
      refine ⟨fun h => ⟨h, fun heligible => ?_⟩, And.left⟩
      exact (not_lt.mp fun hlt => haccepts (accepts_iff.mpr ⟨heligible, hlt⟩)).trans_lt h

end Watermark
