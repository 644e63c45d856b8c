import USEEDLinkToRingServer.Library.Machine
import Mathlib.Data.List.Perm.Basic

/-!
# A lossy first-in first-out channel

What a bounded queue that drops its oldest elements promises its two ends: elements come out in the
order they went in, each at most once, and every element sent is delivered, lost or still on its way.
The channel may lose any element in transit, so it is also the specification of a chain of such queues.
-/

/-- A channel with its history. -/
structure LossyFifo (α : Type*) where
  sent : List α
  inTransit : List α
  delivered : List α
  lost : List α

namespace LossyFifo

open Machine

variable {α : Type*} {β : Type*}

inductive Action (α : Type*)
  | send (x : α)
  | lose (position : Nat)
  | deliver

def empty : LossyFifo α := ⟨[], [], [], []⟩

def next (c : LossyFifo α) : Action α → Option (LossyFifo α)
  | .send x => some { c with sent := c.sent ++ [x], inTransit := c.inTransit ++ [x] }
  | .lose position =>
    c.inTransit[position]?.map fun x =>
      { c with inTransit := c.inTransit.eraseIdx position, lost := c.lost ++ [x] }
  | .deliver =>
    match c.inTransit with
    | [] => none
    | x :: rest => some { c with inTransit := rest, delivered := c.delivered ++ [x] }

/-- Order and no duplication: what was delivered, then what is in transit, is what was sent with
some elements left out. -/
def Ordered (c : LossyFifo α) : Prop :=
  (c.delivered ++ c.inTransit).Sublist c.sent

/-- No silent loss: every element sent is delivered, in transit or lost. -/
def Accounted (c : LossyFifo α) : Prop :=
  c.sent.Perm (c.delivered ++ c.inTransit ++ c.lost)

theorem next_ordered (c : LossyFifo α) (a : Action α) (c' : LossyFifo α) (h : c.Ordered)
    (hnext : c.next a = some c') : c'.Ordered := by
  cases a with
  | send x =>
    obtain rfl := Option.some.inj hnext
    simp only [Ordered, ← List.append_assoc]
    exact h.append_right [x]
  | lose position =>
    obtain ⟨x, _, rfl⟩ := Option.map_eq_some_iff.mp hnext
    exact (List.Sublist.append_left (List.eraseIdx_sublist _ _) _).trans h
  | deliver =>
    rw [next] at hnext
    split at hnext
    · cases hnext
    · next x rest heq =>
      obtain rfl := Option.some.inj hnext
      simpa only [Ordered, heq, List.append_assoc, List.singleton_append] using h

theorem next_accounted (c : LossyFifo α) (a : Action α) (c' : LossyFifo α) (h : c.Accounted)
    (hnext : c.next a = some c') : c'.Accounted := by
  cases a with
  | send x =>
    obtain rfl := Option.some.inj hnext
    have hmove : (c.delivered ++ (c.inTransit ++ [x]) ++ c.lost).Perm
        ((c.delivered ++ c.inTransit ++ c.lost) ++ [x]) := by
      rw [← List.append_assoc c.delivered, List.append_assoc _ [x], List.append_assoc _ c.lost]
      exact List.perm_append_comm.append_left _
    exact (List.Perm.append_right [x] h).trans hmove.symm
  | lose position =>
    obtain ⟨x, hx, rfl⟩ := Option.map_eq_some_iff.mp hnext
    obtain ⟨hlt, rfl⟩ := List.getElem?_eq_some_iff.mp hx
    have hsplit : c.inTransit.Perm (c.inTransit.eraseIdx position ++ [c.inTransit[position]]) :=
      (List.getElem_cons_eraseIdx_perm hlt).symm.trans (List.perm_append_singleton _ _).symm
    have hmove : (c.delivered ++ c.inTransit ++ c.lost).Perm
        (c.delivered ++ (c.inTransit.eraseIdx position ++ [c.inTransit[position]]) ++ c.lost) :=
      (hsplit.append_left _).append_right _
    apply (h.trans hmove).trans
    simp only [List.append_assoc]
    exact (List.perm_append_comm.append_left _).append_left _
  | deliver =>
    rw [next] at hnext
    split at hnext
    · cases hnext
    · next x rest heq =>
      obtain rfl := Option.some.inj hnext
      simpa only [Accounted, heq, List.append_assoc, List.singleton_append] using h

/-- Whatever the channel does, it keeps the order and accounts for every element. -/
theorem ordered_accounted_of_reaches {c : LossyFifo α} (h : Reaches next empty c) :
    c.Ordered ∧ c.Accounted := by
  obtain ⟨as, has⟩ := h
  refine ⟨invariant next_ordered ?_ has, invariant next_accounted ?_ has⟩
  · exact .refl _
  · exact .refl _

theorem reaches_lose {c : LossyFifo α} {before after : List α} {x : α}
    (h : c.inTransit = before ++ x :: after) :
    Reaches next c { c with inTransit := before ++ after, lost := c.lost ++ [x] } := by
  apply Reaches.step (a := .lose before.length) (.refl _)
  simp only [next, h, List.getElem?_append_right (Nat.le_refl _), Nat.sub_self, List.getElem?_cons_zero,
    Option.map_some, List.eraseIdx_append_of_length_le (Nat.le_refl _), List.eraseIdx_cons_zero]

theorem reaches_deliver {c : LossyFifo α} {x : α} {rest : List α} (h : c.inTransit = x :: rest) :
    Reaches next c { c with inTransit := rest, delivered := c.delivered ++ [x] } := by
  apply Reaches.step (a := .deliver) (.refl _)
  simp only [next, h]

theorem reaches_send (c : LossyFifo α) (x : α) :
    Reaches next c { c with sent := c.sent ++ [x], inTransit := c.inTransit ++ [x] } :=
  Reaches.step (a := .send x) (.refl _) rfl

/-! ### Relays

A relay turns each element it takes from the end of such channels into outputs, one at a time. -/

/-- `written` is the output of a relay that was handed `received`: the outputs of a subsequence of
what it received, in order, where only the last element's outputs may be cut short. -/
def Relays (outputs : α → List β) (received : List α) (written : List β) : Prop :=
  ∃ taken, List.Sublist taken received ∧
    (written = taken.flatMap outputs ∨
      ∃ earlier last part, taken = earlier ++ [last] ∧ part <+: outputs last ∧
        written = earlier.flatMap outputs ++ part)

theorem Relays.mono {outputs : α → List β} {received received' : List α} {written : List β}
    (h : Relays outputs received written) (hsub : received.Sublist received') :
    Relays outputs received' written := by
  obtain ⟨taken, htaken, hwritten⟩ := h
  exact ⟨taken, htaken.trans hsub, hwritten⟩

end LossyFifo
