import USEEDLinkToRingServer.Library.Machine

/-!
# A journal with a mark

Entries are taken one after the other, and the results of each are handed over before the next is taken. Now
and then the number of entries taken is written down, when nothing is pending. Who only has the mark can start
again behind it without leaving out a result.
-/

structure Journal (α β : Type*) where
  taken : List α := []
  handedOver : List β := []
  /-- The results of the last entry that are not handed over. -/
  pending : List β := []
  mark : Option ℕ := none

namespace Journal

open Machine

variable {α β : Type*} {results : α → List β}

inductive Action (α : Type*)
  | take (entry : α)
  | handOver
  | save
  | forget

def next (results : α → List β) (j : Journal α β) : Action α → Option (Journal α β)
  | .take entry =>
    match j.pending with
    | [] => some { j with taken := j.taken ++ [entry], pending := results entry }
    | _ => none
  | .handOver =>
    match j.pending with
    | [] => none
    | result :: rest => some { j with handedOver := j.handedOver ++ [result], pending := rest }
  | .save =>
    match j.pending with
    | [] => some { j with mark := some j.taken.length }
    | _ => none
  | .forget => some { j with mark := none }

variable {j j' : Journal α β} {entry : α} {result : β} {rest : List β}

theorem next_take (h : j.pending = []) :
    next results j (.take entry) = some { j with taken := j.taken ++ [entry], pending := results entry } := by
  rw [next, h]

theorem next_handOver (h : j.pending = result :: rest) :
    next results j .handOver = some { j with handedOver := j.handedOver ++ [result], pending := rest } := by
  rw [next, h]

theorem next_save (h : j.pending = []) :
    next results j .save = some { j with mark := some j.taken.length } := by
  rw [next, h]

/-- The mark is behind what was handed over. -/
structure Sound (results : α → List β) (j : Journal α β) : Prop where
  complete : j.handedOver ++ j.pending = j.taken.flatMap results
  mark_le : ∀ k, j.mark = some k → k ≤ j.taken.length
  covered : ∀ k, j.mark = some k → (j.taken.take k).flatMap results <+: j.handedOver

theorem sound_next (h : Sound results j) {action : Action α} (hnext : next results j action = some j') :
    Sound results j' := by
  have hcomplete := h.complete
  cases action with
  | take entry =>
    rw [next] at hnext
    split at hnext
    · next hpending =>
      obtain rfl := Option.some.inj hnext
      rw [hpending, List.append_nil] at hcomplete
      refine ⟨?_, fun k hk => ?_, fun k hk => ?_⟩
      · simp [hcomplete]
      · have hle := h.mark_le k hk
        rw [List.length_append]
        exact Nat.le_add_right_of_le hle
      · show ((j.taken ++ [entry]).take k).flatMap results <+: j.handedOver
        rw [List.take_append_of_le_length (h.mark_le k hk)]
        exact h.covered k hk
    · cases hnext
  | handOver =>
    rw [next] at hnext
    split at hnext
    · cases hnext
    · next result rest hpending =>
      obtain rfl := Option.some.inj hnext
      rw [hpending] at hcomplete
      refine ⟨?_, h.mark_le, fun k hk => (h.covered k hk).trans (List.prefix_append _ _)⟩
      rw [List.append_assoc]
      exact hcomplete
  | save =>
    rw [next] at hnext
    split at hnext
    · next hpending =>
      obtain rfl := Option.some.inj hnext
      refine ⟨hcomplete, fun k hk => ?_, fun k hk => ?_⟩ <;> obtain rfl := Option.some.inj hk
      · exact Nat.le_refl _
      · have hall : (j.taken.take j.taken.length).flatMap results = j.handedOver := by
          rw [List.take_length, ← hcomplete, hpending, List.append_nil]
        exact hall ▸ List.prefix_refl _
    · cases hnext
  | forget =>
    obtain rfl := Option.some.inj hnext
    exact ⟨hcomplete, nofun, nofun⟩

/-- Every journal that was begun empty is sound. -/
theorem sound_of_reaches (h : Reaches (next results) {} j) : Sound results j := by
  obtain ⟨actions, hrun⟩ := h
  have hempty : Sound results {} := ⟨rfl, fun _ hk => (by cases hk), fun _ hk => (by cases hk)⟩
  exact invariant (fun _ _ _ hs hnext => sound_next hs hnext) hempty hrun

end Journal
