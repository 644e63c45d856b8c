import USEEDLinkToRingServer.Library.Tokens
import Mathlib.Data.List.SplitBy

/-!
# Runs of an element

A list falls into the runs of an element and its other elements one by one. Erasing repeated elements leaves
one of each run, as far as it reaches.
-/

namespace Tokens

variable {α : Type*} {b : α}

/-- No `b` follows a `b`. -/
def NoDouble (b : α) (s : List α) : Prop := s.IsChain fun c d => ¬ (c = b ∧ d = b)

theorem noDouble_iff (s : List α) : NoDouble b s ↔ ∀ k, ¬ (s[k]? = some b ∧ s[k + 1]? = some b) := by
  rw [NoDouble, List.isChain_iff_getElem]
  constructor
  · rintro h k ⟨hthis, hnext⟩
    obtain ⟨hk, hnext⟩ := List.getElem?_eq_some_iff.mp hnext
    exact h k hk ⟨(List.getElem?_eq_some_iff.mp hthis).2, hnext⟩
  · rintro h k hk ⟨hthis, hnext⟩
    refine h k ⟨?_, ?_⟩
    · rw [← hthis]
      exact List.getElem?_eq_getElem _
    · rw [← hnext]
      exact List.getElem?_eq_getElem _

theorem noDouble_drop_iff (n : Nat) (s : List α) :
    NoDouble b (s.drop n) ↔ ∀ k, n ≤ k → ¬ (s[k]? = some b ∧ s[k + 1]? = some b) := by
  simp only [noDouble_iff, List.getElem?_drop]
  constructor
  · intro h k hk
    obtain ⟨j, rfl⟩ := Nat.exists_eq_add_of_le hk
    exact h j
  · intro h j
    exact h (n + j) (Nat.le_add_right n j)

variable [DecidableEq α]

/-- Neighbours that are in the same run of `b`. -/
def sameRun (b : α) (c d : α) : Bool := c = b ∧ d = b

/-- The first element of each run of `b`, and every other element. -/
def runHeads (b : α) (s : List α) : List α := (s.splitBy (sameRun b)).filterMap List.head?

theorem sameRun_iff {c d : α} : sameRun b c d = true ↔ c = b ∧ d = b := by
  rw [sameRun, decide_eq_true_iff]

/-! ### What squeezing leaves -/

/-- The first run of a list that starts with `b` is longer by one if another `b` is put before it. -/
theorem splitBy_cons_run (s : List α) :
    ∃ run runs, (b :: s).splitBy (sameRun b) = (b :: run) :: runs ∧
      (b :: b :: s).splitBy (sameRun b) = (b :: b :: run) :: runs := by
  have hne : (b :: s).splitBy (sameRun b) ≠ [] := List.splitBy_ne_nil.mpr (List.cons_ne_nil b s)
  obtain ⟨first, runs, hsplit⟩ := List.exists_cons_of_ne_nil hne
  obtain ⟨hflatten, hnonempty, hruns, hbetween⟩ := List.splitBy_eq_iff.mp hsplit
  cases first with
  | nil => exact absurd List.mem_cons_self hnonempty
  | cons c run =>
    obtain rfl : b = c := (List.cons.inj hflatten).1
    refine ⟨run, runs, hsplit, List.splitBy_eq_iff.mpr ⟨?_, ?_, ?_, ?_⟩⟩
    · rw [hflatten]
      rfl
    · intro hmem
      rcases List.mem_cons.mp hmem with hnil | hmem
      · cases hnil
      · exact hnonempty (List.mem_cons_of_mem _ hmem)
    · intro other hmem
      rcases List.mem_cons.mp hmem with rfl | hmem
      · exact List.isChain_cons_cons.mpr ⟨sameRun_iff.mpr ⟨rfl, rfl⟩, hruns _ List.mem_cons_self⟩
      · exact hruns other (List.mem_cons_of_mem _ hmem)
    · cases runs with
      | nil => exact List.isChain_singleton _
      | cons next runs =>
        obtain ⟨⟨hlast, hhead, hend⟩, hrest⟩ := List.isChain_cons_cons.mp hbetween
        refine List.isChain_cons_cons.mpr ⟨⟨List.cons_ne_nil _ _, hhead, ?_⟩, hrest⟩
        rw [List.getLast_cons hlast]
        exact hend

theorem runHeads_cons_cons (c d : α) (s : List α) :
    runHeads b (c :: d :: s) =
      if c = b ∧ d = b then runHeads b (d :: s) else c :: runHeads b (d :: s) := by
  split
  · next hsame =>
    obtain ⟨rfl, rfl⟩ := hsame
    obtain ⟨run, runs, hone, htwo⟩ := splitBy_cons_run (b := d) s
    rw [runHeads, runHeads, hone, htwo]
    rfl
  · next hother =>
    have hapart : ([c] ++ d :: s).splitBy (sameRun b) = [c].splitBy (sameRun b) ++ (d :: s).splitBy (sameRun b) := by
      apply List.splitBy_append_cons
      rintro x hx
      obtain rfl : c = x := Option.some.inj hx
      exact decide_eq_false hother
    show (([c] ++ d :: s).splitBy (sameRun b)).filterMap List.head? = _
    rw [hapart]
    rfl

/-- **Squeezing leaves one of each run** and every other element. -/
theorem squeeze_eq_runHeads (s : List α) : squeeze b s = runHeads b s := by
  induction s with
  | nil => rfl
  | cons c s ih =>
    cases s with
    | nil => rfl
    | cons d s => rw [squeeze, runHeads_cons_cons, ih]

theorem head?_squeeze (s : List α) : (squeeze b s).head? = s.head? := by
  induction s with
  | nil => rfl
  | cons c s ih =>
    cases s with
    | nil => rfl
    | cons d s =>
      rw [squeeze]
      split
      · next hsame => rw [ih, List.head?_cons, List.head?_cons, hsame.1, hsame.2]
      · rfl

theorem noDouble_squeeze (s : List α) : NoDouble b (squeeze b s) := by
  induction s with
  | nil => exact List.isChain_nil
  | cons c s ih =>
    cases s with
    | nil => exact List.isChain_singleton c
    | cons d s =>
      rw [squeeze]
      split
      · exact ih
      · next hother =>
        refine List.isChain_cons.mpr ⟨fun e he => ?_, ih⟩
        rw [head?_squeeze] at he
        obtain rfl : d = e := Option.some.inj he
        exact hother

/-- Only a list without doubles is left as it is. -/
theorem squeeze_eq_self_iff (s : List α) : squeeze b s = s ↔ NoDouble b s := by
  constructor
  · intro hself
    rw [← hself]
    exact noDouble_squeeze s
  · intro hsingle
    induction s with
    | nil => rfl
    | cons c s ih =>
      cases s with
      | nil => rfl
      | cons d s =>
        obtain ⟨hother, hrest⟩ := List.isChain_cons_cons.mp hsingle
        rw [squeeze, if_neg hother, ih hrest]

theorem squeeze_squeeze (s : List α) : squeeze b (squeeze b s) = squeeze b s :=
  (squeeze_eq_self_iff _).mpr (noDouble_squeeze s)

/-- Squeezing reaches far enough when there is no double whose second element is out of reach. -/
theorem squeezeTo_eq_squeeze_iff (reach : Nat) (s : List α) :
    squeezeTo b reach s = squeeze b s ↔ NoDouble b (s.drop (reach - 1)) := by
  induction reach generalizing s with
  | zero => rw [squeezeTo_zero, Nat.zero_sub, List.drop_zero, eq_comm, squeeze_eq_self_iff]
  | succ n ih =>
    rw [Nat.add_sub_cancel]
    cases n with
    | zero => rw [squeezeTo_one, List.drop_zero, eq_comm, squeeze_eq_self_iff]
    | succ n =>
      cases s with
      | nil => exact iff_of_true rfl List.isChain_nil
      | cons c s =>
        rw [List.drop_succ_cons]
        cases s with
        | nil =>
          rw [squeezeTo_singleton, List.drop_nil]
          exact iff_of_true rfl List.isChain_nil
        | cons d s =>
          refine Iff.trans ?_ (ih (d :: s))
          rw [squeezeTo_cons_cons, squeeze]
          split
          · exact Iff.rfl
          · exact List.cons_inj_right c

end Tokens
