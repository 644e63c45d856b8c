import Mathlib.Logic.Function.Basic
import USEEDLinkToRingServer.Library.Machine

/-!
# Waiting for a flag

Threads test a flag under a mutex and block on a condition variable until it is set. Another thread sets the
flag and notifies them without holding the mutex. A notification wakes the threads that are blocked, so it
is lost on a thread that has tested the flag and not yet blocked, and on no other.
-/

/-- Where a thread is in the wait. -/
inductive Waiter
  | away
  | locking
  /-- Holds the mutex and tests the flag. -/
  | testing
  /-- Holds the mutex, and is about to release it and block. -/
  | blocking
  | blocked (notified : Bool)
deriving DecidableEq, Repr

structure Monitor (ι : Type*) where
  /-- The thread that holds the mutex. -/
  owner : Option ι := none
  flag : Bool := false
  waiter : ι → Waiter := fun _ => .away

namespace Monitor

open Machine

variable {ι : Type*}

inductive Action (ι : Type*)
  | arrive (i : ι)
  | lock (i : ι)
  | test (i : ι)
  | block (i : ι)
  /-- A blocked thread goes to lock the mutex again, with or without a notification. -/
  | wake (i : ι)
  /-- The time of a blocked thread is over: it locks the mutex again and leaves. -/
  | timeOut (i : ι)
  | setFlag
  | notifyAll

/-- All blocked threads are notified. -/
def notifyAll (m : Monitor ι) : Monitor ι :=
  { m with
    waiter := fun i =>
      match m.waiter i with
      | .blocked _ => .blocked true
      | place => place }

section

variable [DecidableEq ι]

/-- A thread goes on, and the mutex has a holder or not. -/
def goTo (m : Monitor ι) (i : ι) (place : Waiter) (owner : Option ι) : Monitor ι :=
  { m with owner, waiter := Function.update m.waiter i place }

def next (m : Monitor ι) : Action ι → Option (Monitor ι)
  | .arrive i => if m.waiter i = .away then some (m.goTo i .locking m.owner) else none
  | .lock i =>
    if m.waiter i = .locking ∧ m.owner = none then some (m.goTo i .testing (some i)) else none
  | .test i =>
    if m.waiter i = .testing then
      some (if m.flag then m.goTo i .away none else m.goTo i .blocking m.owner)
    else none
  | .block i => if m.waiter i = .blocking then some (m.goTo i (.blocked false) none) else none
  | .wake i =>
    if ∃ notified, m.waiter i = .blocked notified then some (m.goTo i .locking m.owner) else none
  | .timeOut i =>
    if (∃ notified, m.waiter i = .blocked notified) ∧ m.owner = none then
      some (m.goTo i .away m.owner)
    else none
  | .setFlag => some { m with flag := true }
  | .notifyAll => some m.notifyAll

end

/-! ### Notified for good -/

variable {m m' : Monitor ι} {i j : ι}

theorem notifyAll_blocking : m.notifyAll.waiter i = .blocking ↔ m.waiter i = .blocking := by
  simp only [notifyAll]
  cases m.waiter i <;> simp

theorem notifyAll_unnotified : m.notifyAll.waiter i ≠ .blocked false := by
  simp only [notifyAll]
  cases m.waiter i <;> simp

/-- The flag is set, and the thread has neither blocked without a notification nor is about to. -/
structure Awake (m : Monitor ι) (i : ι) : Prop where
  flag : m.flag = true
  blocking : m.waiter i ≠ .blocking
  notified : m.waiter i ≠ .blocked false

/-- A notification is lost on a thread that is about to block, and on no other. -/
theorem awake_notifyAll (hflag : m.flag = true) : m.notifyAll.Awake i ↔ m.waiter i ≠ .blocking :=
  ⟨fun h => mt notifyAll_blocking.mpr h.blocking,
    fun h => ⟨hflag, mt notifyAll_blocking.mp h, notifyAll_unnotified⟩⟩

variable [DecidableEq ι]

/-- Another thread may go anywhere, and this one anywhere but to sleep. -/
theorem Awake.goTo (h : m.Awake i) {place : Waiter} {owner : Option ι}
    (hplace : j = i → place ≠ .blocking ∧ place ≠ .blocked false) : (m.goTo j place owner).Awake i := by
  have hwaiter : (m.goTo j place owner).waiter = Function.update m.waiter j place := rfl
  by_cases heq : j = i
  · obtain ⟨hblocking, hnotified⟩ := hplace heq
    subst heq
    refine ⟨h.flag, ?_, ?_⟩
    · rwa [hwaiter, Function.update_self]
    · rwa [hwaiter, Function.update_self]
  · refine ⟨h.flag, ?_, ?_⟩
    · rw [hwaiter, Function.update_of_ne (Ne.symm heq)]
      exact h.blocking
    · rw [hwaiter, Function.update_of_ne (Ne.symm heq)]
      exact h.notified

/-- No step puts the thread to sleep again. -/
theorem Awake.next {a : Action ι} (h : m.Awake i) (hnext : m.next a = some m') : m'.Awake i := by
  cases a with
  | arrive j | lock j | wake j | timeOut j =>
    obtain ⟨_, heq⟩ := Option.ite_none_right_eq_some.mp hnext
    obtain rfl := Option.some.inj heq
    exact h.goTo fun _ => ⟨nofun, nofun⟩
  | test j =>
    obtain ⟨_, heq⟩ := Option.ite_none_right_eq_some.mp hnext
    obtain rfl := Option.some.inj heq
    rw [if_pos h.flag]
    exact h.goTo fun _ => ⟨nofun, nofun⟩
  | block j =>
    obtain ⟨hblocking, heq⟩ := Option.ite_none_right_eq_some.mp hnext
    obtain rfl := Option.some.inj heq
    refine h.goTo ?_
    rintro rfl
    exact absurd hblocking h.blocking
  | setFlag =>
    obtain rfl := Option.some.inj hnext
    exact ⟨rfl, h.blocking, h.notified⟩
  | notifyAll =>
    obtain rfl := Option.some.inj hnext
    exact (awake_notifyAll h.flag).mpr h.blocking

theorem Awake.reaches (h : m.Awake i) (hreaches : Reaches Monitor.next m m') : m'.Awake i := by
  obtain ⟨as, hrun⟩ := hreaches
  exact invariant (I := fun m => m.Awake i) (fun _ _ _ hs hnext => hs.next hnext) h hrun

end Monitor
