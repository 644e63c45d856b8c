import USEEDLinkToRingServer.Library.Machine
import Mathlib.Data.List.Induction
import Mathlib.Logic.Function.Basic

/-!
# Objects of a class

A class has constructors, which may throw, and calls, which change an object and then return or throw. A
client keeps objects in variables and can also copy and move them. A variable that was moved from holds no
object that may be used until it is assigned.
-/

namespace Objects

open Machine

variable {Var Init Call α ε : Type*}

structure Class (α Init Call ε : Type*) where
  make : Init → Except ε α
  call : α → Call → α × Except ε Unit

/-- A call made of a function that throws before it changes the object. -/
def attempt (a : α) (x : Except ε α) : α × Except ε Unit :=
  match x with
  | .ok a' => (a', .ok ())
  | .error e => (a, .error e)

/-- A method that changes the object statement by statement. What was changed before an exception stays. -/
def perform {α ε : Type} (a : α) (method : EStateM ε α Unit) : α × Except ε Unit :=
  match method.run a with
  | .ok _ a' => (a', .ok ())
  | .error e a' => (a', .error e)

/-- What holds before and after a function that returns holds after the call. -/
theorem attempt_keeps {I : α → Prop} {a : α} {x : Except ε α} (ha : I a) (hx : ∀ a', x = .ok a' → I a') :
    I (attempt a x).1 := by
  cases x with
  | ok a' => exact hx a' rfl
  | error e => exact ha

/-- What cannot return leaves the object as it was. -/
theorem attempt_of_ne_ok {a : α} {x : Except ε α} (h : ∀ a', x ≠ .ok a') : (attempt a x).1 = a := by
  cases x with
  | ok b => exact absurd rfl (h b)
  | error e => rfl

theorem attempt_snd (a : α) (x : Except ε α) : (attempt a x).2 = x.map fun _ => () := by
  cases x <;> rfl

/-- What throws leaves the object as it was. -/
theorem attempt_error {a : α} {x : Except ε α} {e : ε} (h : (attempt a x).2 = .error e) :
    (attempt a x).1 = a := by
  cases x with
  | ok b => cases h
  | error e => rfl

/-! ### Methods that only look

A method that checks what it is given before its first change leaves the object as it was if it throws. So does
a loop of checks, whether it throws or not. -/

section Checks

variable {α β ε σ : Type} {check : β → Except ε PUnit} {bs : List β}

/-- One check in front of the other statements. -/
theorem perform_check {a : α} {c : Prop} [Decidable c] {e : ε} {method : PUnit → EStateM ε α Unit}
    {x : Except ε α} (h : ¬ c → perform a (method ⟨⟩) = attempt a x) :
    perform a (if c then throw e >>= method else method ⟨⟩) = attempt a (if c then .error e else x) := by
  by_cases hc : c
  · rw [if_pos hc, if_pos hc]
    rfl
  · rw [if_neg hc, if_neg hc]
    exact h hc

theorem run_forM_ok (s : σ) (h : forM bs check = .ok ⟨⟩) :
    (forM bs fun b => ofExcept (check b) : EStateM ε σ PUnit) s = .ok ⟨⟩ s := by
  induction bs with
  | nil => rfl
  | cons b bs ih =>
    rw [List.forM_cons] at h ⊢
    cases hb : check b with
    | error e =>
      rw [hb] at h
      cases h
    | ok u =>
      rw [hb] at h
      exact ih h

theorem run_forM_error {e : ε} (s : σ) (h : forM bs check = .error e) :
    (forM bs fun b => ofExcept (check b) : EStateM ε σ PUnit) s = .error e s := by
  induction bs with
  | nil => cases h
  | cons b bs ih =>
    rw [List.forM_cons] at h ⊢
    cases hb : check b with
    | error e' =>
      rw [hb] at h
      cases h
      rfl
    | ok u =>
      rw [hb] at h
      exact ih h

end Checks

/-! ### The variables of a client -/

inductive Command (Var Init Call : Type*)
  | make (x : Var) (init : Init)
  | call (x : Var) (call : Call)
  | copy (x y : Var)
  | move (x y : Var)

namespace Class

variable (C : Class α Init Call ε)

/-- A step of the client. An object whose constructor throws does not come to be, and an object that is
moved to itself stays. -/
def next [DecidableEq Var] (s : Var → Option α) : Command Var Init Call → Option (Var → Option α)
  | .make x init =>
    match C.make init with
    | .ok a => some (Function.update s x (some a))
    | .error _ => some s
  | .call x call => (s x).map fun a => Function.update s x (some (C.call a call).1)
  | .copy x y => (s y).map fun a => Function.update s x (some a)
  | .move x y => some (if x = y then s else Function.update (Function.update s y none) x (s y))

/-- The object after calls. -/
def after (a : α) (calls : List Call) : α := calls.foldl (fun a call => (C.call a call).1) a

/-- An object that a client can have. -/
def Reachable (a : α) : Prop := ∃ init first calls, C.make init = .ok first ∧ C.after first calls = a

/-- A class invariant. -/
structure Keeps (I : α → Prop) : Prop where
  make : ∀ init a, C.make init = .ok a → I a
  call : ∀ a call, I a → I (C.call a call).1

variable {C} {I : α → Prop} {a b : α}

theorem after_append (a : α) (calls calls' : List Call) :
    C.after a (calls ++ calls') = C.after (C.after a calls) calls' :=
  List.foldl_append

theorem Keeps.after (h : C.Keeps I) (ha : I a) (calls : List Call) : I (C.after a calls) :=
  List.foldlRecOn calls _ ha fun b hb call _ => h.call b call hb

theorem Keeps.reachable (h : C.Keeps I) (ha : C.Reachable a) : I a := by
  obtain ⟨init, first, calls, hmake, rfl⟩ := ha
  exact h.after (h.make init first hmake) calls

theorem Reachable.call (h : C.Reachable a) (call : Call) : C.Reachable (C.call a call).1 := by
  obtain ⟨init, first, calls, hmake, rfl⟩ := h
  exact ⟨init, first, calls ++ [call], hmake, after_append first calls [call]⟩

/-- **A class invariant holds of every object in every run of a client**, whatever is copied and moved. -/
theorem Keeps.live [DecidableEq Var] (h : C.Keeps I) {s : Var → Option α}
    (hrun : Reaches C.next (fun _ => none) s) {x : Var} (hx : s x = some a) : I a := by
  obtain ⟨commands, hrun⟩ := hrun
  suffices hall : ∀ x a, s x = some a → I a from hall x a hx
  have hassign : ∀ (s : Var → Option α) (x : Var) (held : Option α), (∀ x a, s x = some a → I a) →
      (∀ a, held = some a → I a) → ∀ x' a, Function.update s x held x' = some a → I a := by
    intro s x held hs hheld x' a ha
    by_cases hx : x' = x
    · rw [hx, Function.update_self] at ha
      exact hheld a ha
    · rw [Function.update_of_ne hx] at ha
      exact hs x' a ha
  have hnone : ∀ a, (none : Option α) = some a → I a := by
    intro a ha
    cases ha
  refine invariant (I := fun s => ∀ x a, s x = some a → I a) ?_ (fun _ => hnone) hrun
  intro s command s' hs hnext
  cases command with
  | make x init =>
    rw [next] at hnext
    split at hnext
    · next b hmake =>
      obtain rfl := Option.some.inj hnext
      exact hassign s x _ hs fun a ha => Option.some.inj ha ▸ h.make init b hmake
    · obtain rfl := Option.some.inj hnext
      exact hs
  | call x call =>
    obtain ⟨b, hb, rfl⟩ := Option.map_eq_some_iff.mp hnext
    exact hassign s x _ hs fun a ha => Option.some.inj ha ▸ h.call b call (hs x b hb)
  | copy x y =>
    obtain ⟨b, hb, rfl⟩ := Option.map_eq_some_iff.mp hnext
    exact hassign s x _ hs fun a ha => Option.some.inj ha ▸ hs y b hb
  | move x y =>
    obtain rfl := Option.some.inj hnext
    split
    · exact hs
    · exact hassign _ x _ (hassign s y none hs hnone) (hs y)

/-! ### Registers

An attribute that a call either sets, to a value that depends on the call alone, or leaves as it is.
-/

section Registers

variable {β : Type*} {set : Call → Option β}

/-- The last value that the calls set. -/
def lastSet (set : Call → Option β) (calls : List Call) : Option β := (calls.filterMap set).getLast?

/-- The last value set is what a register holds, whatever came before it or was done to other attributes. -/
theorem register_after (register : α → β)
    (hcall : ∀ a call, register (C.call a call).1 = (set call).getD (register a)) (a : α) (calls : List Call) :
    register (C.after a calls) = (lastSet set calls).getD (register a) := by
  induction calls using List.reverseRecOn with
  | nil => rfl
  | append_singleton calls call ih =>
    rw [after_append]
    show register (C.call (C.after a calls) call).1 = _
    rw [hcall, ih, lastSet, lastSet, List.filterMap_append, List.getLast?_append]
    cases hset : set call with
    | none => simp [hset]
    | some b => simp [hset]

end Registers

end Class

/-! ### What can be told apart -/

/-- What can be done with an object that is there: call it, or assign another one to it. -/
inductive Action (α Call : Type*)
  | call (call : Call)
  | assign (other : α)

namespace Class

variable (C : Class α Init Call ε) {V : Type*} (view : α → V)

def act (a : α) : Action α Call → α × Except ε Unit
  | .call call => C.call a call
  | .assign other => (other, .ok ())

def afterActions (a : α) (actions : List (Action α Call)) : α :=
  actions.foldl (fun a action => (C.act a action).1) a

/-- Whether each action returned or what it threw. -/
def results : α → List (Action α Call) → List (Except ε Unit)
  | _, [] => []
  | a, action :: actions => (C.act a action).2 :: results (C.act a action).1 actions

/-- After the same actions, with the same results, two objects look the same. -/
def SameAfter (actions : List (Action α Call)) (a b : α) : Prop :=
  C.results a actions = C.results b actions ∧
    view (C.afterActions a actions) = view (C.afterActions b actions)

/-- No sequence of actions tells the two objects apart. -/
def Indistinguishable (a b : α) : Prop := ∀ actions, C.SameAfter view actions a b

variable {C view}

theorem sameAfter_cons {action : Action α Call} {actions : List (Action α Call)} {a b : α} :
    C.SameAfter view (action :: actions) a b ↔
      (C.act a action).2 = (C.act b action).2 ∧
        C.SameAfter view actions (C.act a action).1 (C.act b action).1 := by
  simp only [SameAfter, results, List.cons.injEq, and_assoc]
  rfl

/-- What is related by a relation that every call keeps, with the same result, cannot be told apart by what
related objects have in common. -/
theorem indistinguishable_of_related {R : α → α → Prop} (hview : ∀ a b, R a b → view a = view b)
    (hcall : ∀ a b call, R a b → (C.call a call).2 = (C.call b call).2 ∧
      R (C.call a call).1 (C.call b call).1) {a b : α} (h : R a b) : C.Indistinguishable view a b := by
  intro actions
  induction actions generalizing a b with
  | nil => exact ⟨rfl, hview a b h⟩
  | cons action actions ih =>
    rw [sameAfter_cons]
    cases action with
    | call call =>
      obtain ⟨hresult, hrelated⟩ := hcall a b call h
      exact ⟨hresult, ih hrelated⟩
    | assign other => exact ⟨rfl, rfl, rfl⟩

end Class

end Objects
