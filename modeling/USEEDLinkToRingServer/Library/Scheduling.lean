import Mathlib.Data.List.GetD
import USEEDLinkToRingServer.Library.Fairness

/-!
# Threads that get their turns

Every step belongs to a thread, and a run may also idle. A thread that stays ready gets a turn. What each
thread does brings the goal nearer only in some states, so in each state one thread is the helper: its steps
lower the rank, and the steps of the others do not raise it and leave the helper what it is.
-/

namespace Machine

universe u v w x

variable {σ : Type u} {α : Type v} {θ : Type w} {β : Type x}

/-- A step is taken, or nothing happens. -/
def idling (next : σ → α → Option σ) (s : σ) : Option α → Option σ
  | none => some s
  | some a => next s a

/-- A thread that stays ready from some time on takes a step then. -/
def TakesTurns (thread : α → θ) (ready : θ → σ → Prop) (states : ℕ → σ) (steps : ℕ → Option α) : Prop :=
  ∀ t n, (∀ m, n ≤ m → ready t (states m)) → ∃ m, n ≤ m ∧ ∃ a, steps m = some a ∧ thread a = t

variable {next : σ → α → Option σ} {thread : α → θ} {ready : θ → σ → Prop} {states : ℕ → σ}
  {steps : ℕ → Option α} {I G : σ → Prop}

theorem idling_invariant (hstep : ∀ s a s', I s → next s a = some s' → I s') (s : σ) (a : Option α) (s' : σ)
    (hs : I s) (h : idling next s a = some s') : I s' := by
  cases a with
  | none =>
    obtain rfl := Option.some.inj h
    exact hs
  | some a => exact hstep s a s' hs h

/-- What every step preserves holds in the whole run. -/
theorem RunsForever.always (h : RunsForever (idling next) states steps)
    (hstep : ∀ s a s', I s → next s a = some s' → I s') (hstart : I (states 0)) (n : ℕ) : I (states n) :=
  h.invariant (idling_invariant hstep) hstart (Nat.zero_le n)

/-- A step of the run idles or is a step of the machine. -/
theorem RunsForever.step_cases (h : RunsForever (idling next) states steps) (n : ℕ) :
    steps n = none ∧ states (n + 1) = states n ∨
      ∃ a, steps n = some a ∧ next (states n) a = some (states (n + 1)) := by
  have hstep := h n
  cases hsteps : steps n with
  | none =>
    rw [hsteps] at hstep
    exact .inl ⟨rfl, (Option.some.inj hstep).symm⟩
  | some a =>
    rw [hsteps] at hstep
    exact .inr ⟨a, rfl, hstep⟩

/-- What no step changes before the goal is met lasts until then. -/
theorem RunsForever.until (h : RunsForever (idling next) states steps) {start : ℕ}
    (hstep : ∀ s a s', I s → ¬ G s → next s a = some s' → I s')
    (hnever : ∀ n, start ≤ n → ¬ G (states n)) (hstart : I (states start)) {n : ℕ} (hle : start ≤ n) :
    I (states n) := by
  induction n, hle using Nat.le_induction with
  | base => exact hstart
  | succ n hle ih =>
    rcases h.step_cases n with ⟨_, hidle⟩ | ⟨a, _, hnext⟩
    · rw [hidle]
      exact ih
    · exact hstep _ a _ ih (hnever n hle) hnext

/-- The helper rule: if the helper is ready as long as the goal is not met, it is met. -/
theorem TakesTurns.meets [Preorder β] [WellFoundedLT β] (hturns : TakesTurns thread ready states steps)
    (hrun : RunsForever (idling next) states steps) (helper : σ → θ) (rank : σ → β)
    (hstep : ∀ s a s', I s → ¬ G s → next s a = some s' → I s')
    (hready : ∀ s, I s → ¬ G s → ready (helper s) s)
    (hrank : ∀ s a s', I s → ¬ G s → next s a = some s' →
      rank s' < rank s ∨ thread a ≠ helper s ∧ helper s' = helper s ∧ rank s' ≤ rank s)
    {start : ℕ} (hstart : I (states start)) : ∃ n, start ≤ n ∧ G (states n) := by
  by_contra hnever
  replace hnever (n : ℕ) (hle : start ≤ n) : ¬ G (states n) := fun hmet => hnever ⟨n, hle, hmet⟩
  have hinv {n : ℕ} (hle : start ≤ n) : I (states n) := hrun.until hstep hnever hstart hle
  obtain ⟨_, ⟨n, hn, rfl⟩, hlowest⟩ :=
    wellFounded_lt.has_min {b | ∃ n, start ≤ n ∧ rank (states n) = b} ⟨_, start, le_refl start, rfl⟩
  -- from the lowest rank on nothing lowers it, so the helper stays the same
  have hstays {m : ℕ} (hm : n ≤ m) :
      helper (states m) = helper (states n) ∧ rank (states m) ≤ rank (states n) := by
    induction m, hm using Nat.le_induction with
    | base => exact ⟨rfl, le_refl _⟩
    | succ m hm ih =>
      have hstarted : start ≤ m := hn.trans hm
      rcases hrun.step_cases m with ⟨_, hidle⟩ | ⟨a, _, hnext⟩
      · rw [hidle]
        exact ih
      · rcases hrank _ a _ (hinv hstarted) (hnever m hstarted) hnext with hlower | ⟨_, hsame, hle⟩
        · exact absurd (hlower.trans_le ih.2) (hlowest _ ⟨m + 1, Nat.le_succ_of_le hstarted, rfl⟩)
        · exact ⟨hsame.trans ih.1, hle.trans ih.2⟩
  obtain ⟨m, hm, a, ha, hthread⟩ := hturns (helper (states n)) n fun m hm => by
    rw [← (hstays hm).1]
    exact hready _ (hinv (hn.trans hm)) (hnever m (hn.trans hm))
  have hstarted : start ≤ m := hn.trans hm
  have hnext := hrun m
  rw [ha] at hnext
  rcases hrank _ a _ (hinv hstarted) (hnever m hstarted) hnext with hlower | ⟨hother, _⟩
  · exact hlowest _ ⟨m + 1, Nat.le_succ_of_le hstarted, rfl⟩ (hlower.trans_le (hstays hm).2)
  · exact hother (hthread.trans (hstays hm).1.symm)

/-- A finite run after which no thread is ready is a run in which all threads get their turns. -/
theorem exists_takesTurns {s s' : σ} {as : List α} (hrun : exec next s as = some s')
    (hnone : ∀ t, ¬ ready t s') :
    ∃ states steps, RunsForever (idling next) states steps ∧ TakesTurns thread ready states steps ∧
      states 0 = s ∧ states as.length = s' := by
  have hidling : exec (idling next) s (as.map some) = some s' := by
    induction as generalizing s with
    | nil => exact hrun
    | cons a as ih =>
      obtain ⟨mid, hmid, hrest⟩ := exec_cons_eq_some.mp hrun
      exact exec_cons_eq_some.mpr ⟨mid, hmid, ih hrest⟩
  obtain ⟨states, hstates, hfirst, hlast⟩ := exists_runsForever (a := none) (fun s => ⟨s, rfl⟩) hidling
  rw [List.length_map] at hlast
  refine ⟨states, _, hstates, fun t n hready => ?_, hfirst, hlast⟩
  have hend {m : ℕ} (hm : as.length ≤ m) : states m = s' := by
    induction m, hm using Nat.le_induction with
    | base => exact hlast
    | succ m hm ih =>
      have hidle : (as.map some).getD m none = none := List.getD_eq_default _ _ (by rwa [List.length_map])
      rcases hstates.step_cases m with ⟨_, hsame⟩ | ⟨a, ha, _⟩
      · exact hsame.trans ih
      · cases hidle.symm.trans ha
  have hlater := hready (max n as.length) (le_max_left _ _)
  rw [hend (le_max_right _ _)] at hlater
  exact absurd hlater (hnone t)

end Machine
