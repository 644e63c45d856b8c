import Mathlib.Data.Option.Basic
import Mathlib.Tactic.Common

/-!
# Machines and their runs

A machine is a partial transition function: `next s a` is the state after the step `a`, or nothing
if `a` cannot be taken in `s`. Whatever is not determined by the state (which thread moves, what the
environment answers) is part of the action, so a run is a list of actions and can be evaluated.
-/

namespace Machine

universe u v

variable {σ : Type u} {α : Type v}

/-- The state after a list of steps, or nothing if one of them cannot be taken. -/
def exec (next : σ → α → Option σ) : σ → List α → Option σ
  | s, [] => some s
  | s, a :: as =>
    match next s a with
    | none => none
    | some s' => exec next s' as

/-- Every step of the run is taken from a state and with an action that `P` accepts. -/
def Along (next : σ → α → Option σ) (P : σ → α → Prop) : σ → List α → Prop
  | _, [] => True
  | s, a :: as => P s a ∧ ∀ s', next s a = some s' → Along next P s' as

/-- Whether a run is accepted can be evaluated. -/
instance decidableAlong (next : σ → α → Option σ) (P : σ → α → Prop) [∀ s a, Decidable (P s a)] :
    ∀ (s : σ) (as : List α), Decidable (Along next P s as)
  | _, [] => .isTrue trivial
  | s, a :: as =>
    match hnext : next s a with
    | none => decidable_of_iff (P s a) (by simp [Along, hnext])
    | some s' =>
      have := decidableAlong next P s' as
      decidable_of_iff (P s a ∧ Along next P s' as) (by simp [Along, hnext])

/-- A state some run from `s` ends in. -/
def Reaches (next : σ → α → Option σ) (s s' : σ) : Prop :=
  ∃ as, exec next s as = some s'

variable {next : σ → α → Option σ} {P : σ → α → Prop} {I : σ → Prop}

@[simp] theorem exec_nil (s : σ) : exec next s [] = some s := rfl

theorem exec_cons_eq_some {s s' : σ} {a : α} {as : List α} :
    exec next s (a :: as) = some s' ↔ ∃ mid, next s a = some mid ∧ exec next mid as = some s' := by
  rw [exec]
  cases next s a <;> simp

theorem exec_append {s s' : σ} {as bs : List α} :
    exec next s (as ++ bs) = some s' ↔
      ∃ mid, exec next s as = some mid ∧ exec next mid bs = some s' := by
  induction as generalizing s with
  | nil => simp
  | cons a as ih =>
    simp only [List.cons_append, exec_cons_eq_some, ih]
    constructor
    · rintro ⟨first, hfirst, mid, hmid, hend⟩
      exact ⟨mid, ⟨first, hfirst, hmid⟩, hend⟩
    · rintro ⟨mid, ⟨first, hfirst, hmid⟩, hend⟩
      exact ⟨first, hfirst, mid, hmid, hend⟩

/-- The invariant rule under a condition on the steps: what every accepted step preserves holds at
the end of every run whose steps are all accepted. -/
theorem invariant_along (hstep : ∀ s a s', P s a → I s → next s a = some s' → I s')
    {s s' : σ} {as : List α} (hinit : I s) (halong : Along next P s as)
    (hrun : exec next s as = some s') : I s' := by
  induction as generalizing s with
  | nil =>
    obtain rfl := Option.some.inj hrun
    exact hinit
  | cons a as ih =>
    obtain ⟨mid, hmid, hrest⟩ := exec_cons_eq_some.mp hrun
    exact ih (hstep s a mid halong.1 hinit hmid) (halong.2 mid hmid) hrest

/-- A condition on the steps gives another one in the states that an invariant allows. -/
theorem Along.mono {Q : σ → α → Prop} (hstep : ∀ s a s', I s → next s a = some s' → I s')
    (himp : ∀ s a, I s → P s a → Q s a) {s : σ} {as : List α} (hinit : I s)
    (h : Along next P s as) : Along next Q s as := by
  induction as generalizing s with
  | nil => trivial
  | cons a as ih =>
    exact ⟨himp s a hinit h.1, fun s' hs' => ih (hstep s a s' hinit hs') (h.2 s' hs')⟩

theorem Along.and {Q : σ → α → Prop} {s : σ} {as : List α} (h : Along next P s as)
    (h' : Along next Q s as) : Along next (fun s a => P s a ∧ Q s a) s as := by
  induction as generalizing s with
  | nil => trivial
  | cons a as ih => exact ⟨⟨h.1, h'.1⟩, fun s' hs' => ih (h.2 s' hs') (h'.2 s' hs')⟩

/-- What holds of every step holds along every run. -/
theorem along_of (h : ∀ s a, P s a) (s : σ) (as : List α) : Along next P s as := by
  induction as generalizing s with
  | nil => trivial
  | cons a as ih => exact ⟨h s a, fun s' _ => ih s'⟩

/-- A condition on the steps alone holds along a run when it holds of all of them. -/
theorem along_of_mem {Q : α → Prop} {as : List α} (h : ∀ a ∈ as, Q a) (s : σ) :
    Along next (fun _ a => Q a) s as := by
  induction as generalizing s with
  | nil => trivial
  | cons a as ih =>
    exact ⟨h a List.mem_cons_self, fun s' _ => ih (fun b hb => h b (List.mem_cons_of_mem a hb)) s'⟩

theorem along_true (s : σ) (as : List α) : Along next (fun _ _ => True) s as :=
  along_of (fun _ _ => trivial) s as

/-- The invariant rule: what every step preserves holds at the end of every run. -/
theorem invariant (hstep : ∀ s a s', I s → next s a = some s' → I s')
    {s s' : σ} {as : List α} (hinit : I s) (hrun : exec next s as = some s') : I s' :=
  invariant_along (P := fun _ _ => True) (fun s a s' _ => hstep s a s') hinit (along_true s as) hrun

theorem along_cons {s mid : σ} {a : α} {as : List α} (h : next s a = some mid) :
    Along next P s (a :: as) ↔ P s a ∧ Along next P mid as := by
  refine and_congr_right fun _ => ⟨fun hrest => hrest mid h, fun hrest t ht => ?_⟩
  rwa [← Option.some.inj (h.symm.trans ht)]

theorem along_append {s mid : σ} {as bs : List α} (hrun : exec next s as = some mid) :
    Along next P s (as ++ bs) ↔ Along next P s as ∧ Along next P mid bs := by
  induction as generalizing s with
  | nil =>
    obtain rfl := Option.some.inj hrun
    exact (and_iff_right trivial).symm
  | cons a as ih =>
    obtain ⟨first, hfirst, hrest⟩ := exec_cons_eq_some.mp hrun
    rw [List.cons_append, along_cons hfirst, along_cons hfirst, ih hrest, and_assoc]

/-- The rule of the wrong turn: while every step is accepted the invariant holds, and from the first step on
that is not, what it leads to. -/
theorem along_or_not {D : σ → Prop} (hkeep : ∀ s a s', P s a → I s → next s a = some s' → I s')
    (hturn : ∀ s a s', ¬ P s a → I s → next s a = some s' → D s')
    (hstay : ∀ s a s', D s → next s a = some s' → D s') {s s' : σ} {as : List α} (hinit : I s)
    (hrun : exec next s as = some s') :
    Along next P s as ∧ I s' ∨ ¬ Along next P s as ∧ D s' := by
  induction as generalizing s with
  | nil =>
    obtain rfl := Option.some.inj hrun
    exact .inl ⟨trivial, hinit⟩
  | cons a as ih =>
    obtain ⟨mid, hmid, hrest⟩ := exec_cons_eq_some.mp hrun
    rw [along_cons hmid]
    by_cases haccepted : P s a
    · rw [and_iff_right haccepted]
      exact ih (hkeep s a mid haccepted hinit hmid) hrest
    · refine .inr ⟨fun h => haccepted h.1, ?_⟩
      exact invariant hstay (hturn s a mid haccepted hinit hmid) hrest

/-- The counting rule: a measure that grows exactly at the steps `P` does not accept is at the end of a
run what it was at its start exactly when every step was accepted. -/
theorem along_iff_of_measure {m : σ → Int} (hkeep : ∀ s a s', P s a → next s a = some s' → m s' = m s)
    (hgrow : ∀ s a s', ¬ P s a → next s a = some s' → m s < m s') {s s' : σ} {as : List α}
    (hrun : exec next s as = some s') : m s ≤ m s' ∧ (m s' = m s ↔ Along next P s as) := by
  induction as generalizing s with
  | nil =>
    obtain rfl := Option.some.inj hrun
    exact ⟨Int.le_refl _, iff_of_true rfl trivial⟩
  | cons a as ih =>
    obtain ⟨mid, hmid, hrest⟩ := exec_cons_eq_some.mp hrun
    obtain ⟨hle, hiff⟩ := ih hrest
    rw [along_cons hmid, ← hiff]
    by_cases haccepted : P s a
    · rw [hkeep s a mid haccepted hmid] at hle ⊢
      exact ⟨hle, (and_iff_right haccepted).symm⟩
    · have hlt := hgrow s a mid haccepted hmid
      refine ⟨by omega, fun heq => absurd heq (by omega), fun h => absurd h.1 haccepted⟩

/-- The budget rule: accepted steps of a run that each cost at least what they count are paid for by the
measure. -/
theorem measure_add_countP_le {m : σ → Nat} {counts : α → Bool}
    (hstep : ∀ s a s', P s a → next s a = some s' → m s' + (if counts a then 1 else 0) ≤ m s)
    {s s' : σ} {as : List α} (halong : Along next P s as) (hrun : exec next s as = some s') :
    m s' + as.countP counts ≤ m s := by
  induction as generalizing s with
  | nil =>
    obtain rfl := Option.some.inj hrun
    exact Nat.le_refl _
  | cons a as ih =>
    obtain ⟨mid, hmid, hrest⟩ := exec_cons_eq_some.mp hrun
    have hpaid := hstep s a mid halong.1 hmid
    have hafter := ih (halong.2 mid hmid) hrest
    rw [List.countP_cons]
    omega

/-- What is seen of the steps of a run, in order. -/
def observed {β : Type*} (next : σ → α → Option σ) (observe : σ → α → Option β) : σ → List α → List β
  | _, [] => []
  | s, a :: as =>
    (observe s a).toList ++
      match next s a with
      | none => []
      | some s' => observed next observe s' as

/-- The rule of the log: if every step appends to a log what is seen of it, a run appends all that is seen. -/
theorem log_eq_observed {β : Type*} {observe : σ → α → Option β} {log : σ → List β}
    (hstep : ∀ s a s', next s a = some s' → log s' = log s ++ (observe s a).toList)
    {s s' : σ} {as : List α} (hrun : exec next s as = some s') : log s' = log s ++ observed next observe s as := by
  induction as generalizing s with
  | nil =>
    obtain rfl := Option.some.inj hrun
    exact (List.append_nil _).symm
  | cons a as ih =>
    obtain ⟨mid, hmid, hrest⟩ := exec_cons_eq_some.mp hrun
    rw [ih hrest, hstep s a mid hmid, observed, hmid, List.append_assoc]

theorem Reaches.refl (s : σ) : Reaches next s s := ⟨[], rfl⟩

theorem Reaches.step {s mid s' : σ} {a : α} (h : Reaches next s mid) (hstep : next mid a = some s') :
    Reaches next s s' := by
  obtain ⟨as, has⟩ := h
  refine ⟨as ++ [a], exec_append.mpr ⟨mid, has, ?_⟩⟩
  rw [exec, hstep]
  rfl

/-! ### Refinement

A step of the concrete machine is matched by a run of the abstract one, which is empty when the
abstract machine does not see the step. -/

section Refinement

variable {τ : Type*} {β : Type*} {spec : τ → β → Option τ}

/-- `spec` can follow every step that `next` takes from a state satisfying `I`. -/
def Refines (next : σ → α → Option σ) (spec : τ → β → Option τ) (abs : σ → τ) (I : σ → Prop) : Prop :=
  ∀ s a s', I s → next s a = some s' → Reaches spec (abs s) (abs s')

theorem Reaches.trans {t₁ t₂ t₃ : τ} (h : Reaches spec t₁ t₂) (h' : Reaches spec t₂ t₃) :
    Reaches spec t₁ t₃ := by
  obtain ⟨as, has⟩ := h
  obtain ⟨bs, hbs⟩ := h'
  exact ⟨as ++ bs, exec_append.mpr ⟨t₂, has, hbs⟩⟩

/-- The abstract machine follows whole runs. -/
theorem Refines.reaches {abs : σ → τ} (href : Refines next spec abs I)
    (hstep : ∀ s a s', I s → next s a = some s' → I s')
    {s s' : σ} {as : List α} (hinit : I s) (hrun : exec next s as = some s') :
    Reaches spec (abs s) (abs s') := by
  have hall : I s' ∧ Reaches spec (abs s) (abs s') := by
    refine invariant (I := fun t => I t ∧ Reaches spec (abs s) (abs t)) ?_ ⟨hinit, .refl _⟩ hrun
    rintro t a t' ⟨ht, hreach⟩ hnext
    exact ⟨hstep t a t' ht hnext, hreach.trans (href t a t' ht hnext)⟩
  exact hall.2

end Refinement

end Machine
