import Mathlib.Data.Option.Basic
import Mathlib.Logic.Function.Basic

/-!
# Cells and the pointers to them

A memory of cells, and owners that have one pointer each. What has no defined outcome, using a pointer that is
null or whose cell was freed, gives no memory. Addresses are not used again, so a stale pointer never finds
another owner's cell.

A memory that holds what a map says has no other cells, so nothing is lost and nothing is freed twice. Each
operation is an update of the map.
-/

structure Memory (ι α : Type*) where
  next : Nat := 0
  cells : Nat → Option α := fun _ => none
  /-- How often each address was freed. -/
  frees : Nat → Nat := fun _ => 0
  pointers : ι → Option Nat := fun _ => none

namespace Memory

variable {ι α : Type*}

section

variable (m : Memory ι α) (owner : ι)

/-- The owner points to a new cell. -/
def alloc [DecidableEq ι] (value : α) : Memory ι α :=
  { m with
    next := m.next + 1
    cells := Function.update m.cells m.next (some value)
    pointers := Function.update m.pointers owner (some m.next) }

def read : Option α := (m.pointers owner).bind m.cells

def write (value : α) : Option (Memory ι α) :=
  match m.pointers owner with
  | none => none
  | some address =>
    match m.cells address with
    | none => none
    | some _ => some { m with cells := Function.update m.cells address (some value) }

/-- The pointer is left as it is. -/
def free : Option (Memory ι α) :=
  match m.pointers owner with
  | none => none
  | some address =>
    match m.cells address with
    | none => none
    | some _ =>
      some { m with
        cells := Function.update m.cells address none
        frees := Function.update m.frees address (m.frees address + 1) }

def setNull [DecidableEq ι] : Memory ι α := { m with pointers := Function.update m.pointers owner none }

end

/-- The cells are those that the map says, each with its owner, and all others were freed once. -/
structure Holds (m : Memory ι α) (held : ι → Option α) : Prop where
  live : ∀ owner address, m.pointers owner = some address → ∃ value, m.cells address = some value
  read : ∀ owner, m.read owner = held owner
  unique : ∀ owner other address, m.pointers owner = some address → m.pointers other = some address →
    owner = other
  owned : ∀ address value, m.cells address = some value → ∃ owner, m.pointers owner = some address
  freed : ∀ address < m.next, m.frees address = if (m.cells address).isSome then 0 else 1
  fresh : ∀ address, m.next ≤ address → m.cells address = none ∧ m.frees address = 0

variable {m m' : Memory ι α} {held : ι → Option α} {owner : ι} {value : α}

namespace Holds

variable (h : m.Holds held)

include h

theorem lt_next {address : Nat} (hcell : m.cells address = some value) : address < m.next := by
  refine Nat.lt_of_not_le fun hge => ?_
  rw [(h.fresh address hge).1] at hcell
  cases hcell

/-- An owner's pointer is null just when it holds nothing. -/
theorem pointers_eq_none_iff : m.pointers owner = none ↔ held owner = none := by
  rw [← h.read owner, Memory.read]
  cases hpointer : m.pointers owner with
  | none => simp
  | some address =>
    obtain ⟨value, hcell⟩ := h.live owner address hpointer
    simp [hcell]

theorem exists_address (hheld : held owner = some value) :
    ∃ address, m.pointers owner = some address ∧ m.cells address = some value := by
  rw [← h.read owner, Memory.read] at hheld
  exact Option.bind_eq_some_iff.mp hheld

/-- Another owner's pointer is to another cell. -/
theorem address_ne {address : Nat} (hpointer : m.pointers owner = some address) {other : ι}
    (hother : other ≠ owner) {otherAddress : Nat} (hotherPointer : m.pointers other = some otherAddress) :
    otherAddress ≠ address := by
  rintro rfl
  exact hother (h.unique other owner otherAddress hotherPointer hpointer)

theorem alloc [DecidableEq ι] (hnothing : held owner = none) (value : α) :
    (m.alloc owner value).Holds (Function.update held owner (some value)) := by
  have hnull := h.pointers_eq_none_iff.mpr hnothing
  have hne {other : ι} {address : Nat} (hpointer : m.pointers other = some address) : address ≠ m.next := by
    obtain ⟨value, hcell⟩ := h.live other address hpointer
    exact Nat.ne_of_lt (h.lt_next hcell)
  have hcases {other : ι} {address : Nat} (hpointer : (m.alloc owner value).pointers other = some address) :
      other = owner ∧ address = m.next ∨ other ≠ owner ∧ m.pointers other = some address := by
    by_cases hother : other = owner
    · subst hother
      simp only [Memory.alloc, Function.update_self, Option.some.injEq] at hpointer
      exact .inl ⟨rfl, hpointer.symm⟩
    · simp only [Memory.alloc, Function.update_of_ne hother] at hpointer
      exact .inr ⟨hother, hpointer⟩
  refine ⟨?_, ?_, ?_, ?_, ?_, ?_⟩
  · intro other address hpointer
    rcases hcases hpointer with ⟨rfl, rfl⟩ | ⟨_, hpointer⟩
    · exact ⟨value, by simp [Memory.alloc]⟩
    · obtain ⟨value', hcell⟩ := h.live other address hpointer
      exact ⟨value', by simp [Memory.alloc, hne hpointer, hcell]⟩
  · intro other
    by_cases hother : other = owner
    · subst hother
      simp [Memory.read, Memory.alloc]
    · rw [Function.update_of_ne hother, ← h.read other]
      simp only [Memory.read, Memory.alloc, Function.update_of_ne hother]
      cases hpointer : m.pointers other with
      | none => rfl
      | some address => simp [hne hpointer]
  · intro other other' address hpointer hpointer'
    rcases hcases hpointer with ⟨hother, haddress⟩ | ⟨_, hpointer⟩ <;>
      rcases hcases hpointer' with ⟨hother', haddress'⟩ | ⟨_, hpointer'⟩
    · rw [hother, hother']
    · exact absurd haddress (hne hpointer')
    · exact absurd haddress' (hne hpointer)
    · exact h.unique other other' address hpointer hpointer'
  · intro address value' hcell
    by_cases haddress : address = m.next
    · exact ⟨owner, by simp [Memory.alloc, haddress]⟩
    · simp only [Memory.alloc, Function.update_of_ne haddress] at hcell
      obtain ⟨other, hpointer⟩ := h.owned address value' hcell
      have hother : other ≠ owner := by
        rintro rfl
        cases hnull.symm.trans hpointer
      exact ⟨other, by simp [Memory.alloc, hother, hpointer]⟩
  · intro address hlt
    by_cases haddress : address = m.next
    · subst haddress
      simpa [Memory.alloc] using (h.fresh m.next (Nat.le_refl _)).2
    · have hlt' : address < m.next := Nat.lt_of_le_of_ne (Nat.lt_succ_iff.mp hlt) haddress
      simpa [Memory.alloc, haddress] using h.freed address hlt'
  · intro address hge
    have hne : address ≠ m.next := fun heq => absurd (heq ▸ hge) (by simp [Memory.alloc])
    simpa [Memory.alloc, hne] using h.fresh address (Nat.le_of_succ_le hge)

theorem write [DecidableEq ι] (hheld : held owner = some value) (newValue : α) :
    ∃ m', m.write owner newValue = some m' ∧ m'.Holds (Function.update held owner (some newValue)) := by
  obtain ⟨address, hpointer, hcell⟩ := h.exists_address hheld
  refine ⟨_, by rw [Memory.write, hpointer]; simp [hcell]; rfl, ?_⟩
  refine ⟨?_, ?_, h.unique, ?_, ?_, ?_⟩
  · intro other address' hpointer'
    obtain ⟨value', hcell'⟩ := h.live other address' hpointer'
    by_cases haddress : address' = address
    · exact ⟨newValue, by simp [haddress]⟩
    · exact ⟨value', by simp [haddress, hcell']⟩
  · intro other
    by_cases hother : other = owner
    · subst hother
      simp [Memory.read, hpointer]
    · rw [Function.update_of_ne hother, ← h.read other]
      cases hpointer' : m.pointers other with
      | none => simp [Memory.read, hpointer']
      | some address' => simp [Memory.read, hpointer', h.address_ne hpointer hother hpointer']
  · intro address' value' hcell'
    by_cases haddress : address' = address
    · exact ⟨owner, by rw [haddress]; exact hpointer⟩
    · simp only [Function.update_of_ne haddress] at hcell'
      exact h.owned address' value' hcell'
  · intro address' hlt
    by_cases haddress : address' = address
    · subst haddress
      simpa [hcell] using h.freed address' hlt
    · simpa [haddress] using h.freed address' hlt
  · intro address' hge
    have hne : address' ≠ address := (Nat.ne_of_gt (Nat.lt_of_lt_of_le (h.lt_next hcell) hge))
    simpa [hne] using h.fresh address' hge

theorem free [DecidableEq ι] (hheld : held owner = some value) :
    ∃ m', m.free owner = some m' ∧ (m'.setNull owner).Holds (Function.update held owner none) := by
  obtain ⟨address, hpointer, hcell⟩ := h.exists_address hheld
  refine ⟨_, by rw [Memory.free, hpointer]; simp [hcell]; rfl, ?_⟩
  have hcases {other : ι} {address' : Nat}
      (hpointer' : Function.update m.pointers owner none other = some address') :
      m.pointers other = some address' ∧ address' ≠ address := by
    have hother : other ≠ owner := by
      rintro rfl
      simp at hpointer'
    rw [Function.update_of_ne hother] at hpointer'
    exact ⟨hpointer', h.address_ne hpointer hother hpointer'⟩
  refine ⟨?_, ?_, ?_, ?_, ?_, ?_⟩
  · intro other address' hpointer'
    obtain ⟨hpointer', hne⟩ := hcases hpointer'
    obtain ⟨value', hcell'⟩ := h.live other address' hpointer'
    exact ⟨value', by simp [setNull, hne, hcell']⟩
  · intro other
    by_cases hother : other = owner
    · subst hother
      simp [Memory.read, setNull]
    · rw [Function.update_of_ne hother, ← h.read other]
      cases hpointer' : m.pointers other with
      | none => simp [Memory.read, setNull, hother, hpointer']
      | some address' =>
        simp [Memory.read, setNull, hother, hpointer', h.address_ne hpointer hother hpointer']
  · intro other other' address' hpointer' hpointer''
    exact h.unique other other' address' (hcases hpointer').1 (hcases hpointer'').1
  · intro address' value' hcell'
    have hne : address' ≠ address := by
      rintro rfl
      simp [setNull] at hcell'
    simp only [setNull, Function.update_of_ne hne] at hcell'
    obtain ⟨other, hpointer'⟩ := h.owned address' value' hcell'
    have hother : other ≠ owner := by
      rintro rfl
      exact hne (Option.some.inj (hpointer'.symm.trans hpointer))
    exact ⟨other, by simp [setNull, hother, hpointer']⟩
  · intro address' hlt
    by_cases haddress : address' = address
    · subst haddress
      have hlive := h.freed address' hlt
      simp only [hcell, Option.isSome_some, if_true] at hlive
      simp [setNull, hlive]
    · simpa [setNull, haddress] using h.freed address' hlt
  · intro address' hge
    have hne : address' ≠ address := (Nat.ne_of_gt (Nat.lt_of_lt_of_le (h.lt_next hcell) hge))
    simpa [setNull, hne] using h.fresh address' hge

end Holds

end Memory
