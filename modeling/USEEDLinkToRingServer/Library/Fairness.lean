import Mathlib.Data.List.Basic
import Mathlib.Order.WellFounded
import USEEDLinkToRingServer.Library.Machine

/-!
# Runs without an end

A run that goes on for ever is a sequence of states with the steps between them. A rank in a well order
that no step raises is lowered only finitely often, so what lowers it cannot go on for ever.
-/

namespace Machine

universe u v w

variable {σ : Type u} {α : Type v} {next : σ → α → Option σ} {P : σ → α → Prop} {I : σ → Prop}

/-- Each state is the one before it after its step. -/
def RunsForever (next : σ → α → Option σ) (states : ℕ → σ) (steps : ℕ → α) : Prop :=
  ∀ n, next (states n) (steps n) = some (states (n + 1))

variable {states : ℕ → σ} {steps : ℕ → α}

/-- What every step preserves holds from some time on if it holds then. -/
theorem RunsForever.invariant (h : RunsForever next states steps)
    (hstep : ∀ s a s', I s → next s a = some s' → I s') {start n : ℕ} (hstart : I (states start))
    (hle : start ≤ n) : I (states n) := by
  induction n, hle using Nat.le_induction with
  | base => exact hstart
  | succ n _ ih => exact hstep _ _ _ ih (h n)

/-- Its beginnings are runs. -/
theorem RunsForever.exec_eq (h : RunsForever next states steps) (n : ℕ) :
    exec next (states 0) ((List.range n).map steps) = some (states n) := by
  induction n with
  | zero => rfl
  | succ n ih =>
    rw [List.range_succ, List.map_append, exec_append]
    exact ⟨states n, ih, exec_cons_eq_some.mpr ⟨states (n + 1), h n, rfl⟩⟩

theorem RunsForever.along_iff (h : RunsForever next states steps) (n : ℕ) :
    Along next P (states 0) ((List.range n).map steps) ↔ ∀ m < n, P (states m) (steps m) := by
  induction n with
  | zero => exact iff_of_true trivial fun m hm => absurd hm (Nat.not_lt_zero m)
  | succ n ih =>
    rw [List.range_succ, List.map_append, along_append (h.exec_eq n), ih]
    show _ ∧ Along next P (states n) [steps n] ↔ _
    rw [along_cons (h n), Nat.forall_lt_succ_right]
    exact and_congr_right fun _ => and_iff_left trivial

/-- A rank that no step raises is the highest at the start. -/
theorem RunsForever.rank_le {β : Type w} [Preorder β] (h : RunsForever next states steps) (rank : σ → β)
    (hstep : ∀ s a s', I s → next s a = some s' → I s' ∧ rank s' ≤ rank s) {start n : ℕ}
    (hstart : I (states start)) (hle : start ≤ n) : rank (states n) ≤ rank (states start) := by
  refine (h.invariant (I := fun s => I s ∧ rank s ≤ rank (states start)) ?_ ⟨hstart, le_refl _⟩ hle).2
  rintro s a s' ⟨hs, hrank⟩ hnext
  obtain ⟨hs', hrank'⟩ := hstep s a s' hs hnext
  exact ⟨hs', hrank'.trans hrank⟩

/-- The rank rule: steps that lower a rank that no step raises cannot come again and again, so if they come
again as long as the goal is not met, it is met. -/
theorem RunsForever.meets {β : Type w} [Preorder β] [WellFoundedLT β]
    (h : RunsForever next states steps) (goal : σ → Prop) (lowers : α → Prop) (rank : σ → β)
    (hstep : ∀ s a s', I s → next s a = some s' → I s' ∧ rank s' ≤ rank s)
    (hlower : ∀ s a s', I s → lowers a → next s a = some s' → rank s' < rank s)
    {start : ℕ} (hstart : I (states start))
    (hfair : ∀ n, start ≤ n → goal (states n) ∨ ∃ m, n ≤ m ∧ lowers (steps m)) :
    ∃ n, goal (states n) := by
  by_contra hnever
  have hinv (n : ℕ) (hle : start ≤ n) : I (states n) :=
    h.invariant (fun s a s' hs hnext => (hstep s a s' hs hnext).1) hstart hle
  obtain ⟨_, ⟨n, hn, rfl⟩, hlowest⟩ :=
    wellFounded_lt.has_min {b | ∃ n, start ≤ n ∧ rank (states n) = b} ⟨_, start, le_refl start, rfl⟩
  obtain ⟨m, hm, hlowers⟩ := (hfair n hn).resolve_left fun hmet => hnever ⟨n, hmet⟩
  have hstarted : start ≤ m := hn.trans hm
  have hlt := hlower _ _ _ (hinv m hstarted) hlowers (h m)
  exact hlowest _ ⟨m + 1, Nat.le_succ_of_le hstarted, rfl⟩
    (hlt.trans_le (h.rank_le rank hstep (hinv n hn) hm))

/-! ### A run that goes on -/

/-- A state before the others. -/
def startingWith (s : σ) (states : ℕ → σ) : ℕ → σ
  | 0 => s
  | n + 1 => states n

/-- A run can be continued for ever with a step that can always be taken. -/
theorem exists_runsForever {a : α} (halways : ∀ s, ∃ s', next s a = some s') {s s' : σ} {as : List α}
    (hrun : exec next s as = some s') :
    ∃ states, RunsForever next states (fun n => as.getD n a) ∧ states 0 = s ∧ states as.length = s' := by
  induction as generalizing s with
  | nil =>
    choose after hafter using halways
    refine ⟨fun n => after^[n] s, fun n => ?_, rfl, Option.some.inj hrun⟩
    show next (after^[n] s) a = some (after^[n + 1] s)
    rw [Function.iterate_succ_apply']
    exact hafter _
  | cons b as ih =>
    obtain ⟨mid, hmid, hrest⟩ := exec_cons_eq_some.mp hrun
    obtain ⟨states, hstates, hfirst, hlast⟩ := ih hrest
    refine ⟨startingWith s states, fun n => ?_, rfl, hlast⟩
    cases n with
    | zero =>
      show next s b = some (states 0)
      rw [hfirst]
      exact hmid
    | succ n => exact hstates n

end Machine
