import Mathlib.Data.List.Basic

/-!
# Fallible computations

When a chain of computations that may fail returns, and what its loops have then done.
-/

namespace Fallible

universe u v

variable {α β σ : Type u} {ε : Type v}

theorem pure_eq_ok_iff {a b : α} : (pure a : Except ε α) = .ok b ↔ a = b := by
  show Except.ok a = Except.ok b ↔ a = b
  rw [Except.ok.injEq]

theorem ok_bind (a : α) (f : α → Except ε β) : (.ok a : Except ε α) >>= f = f a := rfl

theorem bind_eq_ok_iff {x : Except ε α} {f : α → Except ε β} {b : β} :
    x >>= f = .ok b ↔ ∃ a, x = .ok a ∧ f a = .ok b := by
  cases x with
  | error e =>
    show Except.error e = Except.ok b ↔ _
    simp
  | ok a =>
    show f a = Except.ok b ↔ _
    simp

theorem map_eq_ok_iff {x : Except ε α} {f : α → β} {b : β} :
    x.map f = .ok b ↔ ∃ a, x = .ok a ∧ f a = b := by
  cases x with
  | error e => simp [Except.map]
  | ok a => simp [Except.map]

/-- A check in front of a computation. -/
theorem ite_error_eq_ok_iff {p : Prop} [Decidable p] {e : ε} {x : Except ε α} {a : α} :
    (if p then .error e else x) = .ok a ↔ ¬ p ∧ x = .ok a := by
  by_cases hp : p
  · simp [hp]
  · simp [hp]

theorem mapM_nil_eq_ok_iff {read : α → Except ε β} {bs : List β} :
    [].mapM read = .ok bs ↔ [] = bs := by
  rw [List.mapM_nil, pure_eq_ok_iff]

/-- A loop that reads each item returns when the first can be read and so can the others. -/
theorem mapM_cons_eq_ok_iff {read : α → Except ε β} {a : α} {as : List α} {bs : List β} :
    (a :: as).mapM read = .ok bs ↔
      ∃ b bs', read a = .ok b ∧ as.mapM read = .ok bs' ∧ b :: bs' = bs := by
  rw [List.mapM_cons, bind_eq_ok_iff]
  apply exists_congr
  intro b
  rw [bind_eq_ok_iff, exists_and_left]
  apply and_congr_right
  intro _
  apply exists_congr
  intro bs'
  rw [pure_eq_ok_iff]

/-- A loop that reads returns when everything can be read, and then what was read in order. -/
theorem mapM_eq_ok_iff {read : α → Except ε β} {as : List α} {bs : List β} :
    as.mapM read = .ok bs ↔ as.map read = bs.map .ok := by
  induction as generalizing bs with
  | nil =>
    rw [mapM_nil_eq_ok_iff, List.map_nil, eq_comm, eq_comm (a := []), List.map_eq_nil_iff]
  | cons a as ih =>
    rw [mapM_cons_eq_ok_iff, List.map_cons]
    constructor
    · rintro ⟨b, bs', hread, hreads, rfl⟩
      rw [List.map_cons, hread, ih.mp hreads]
    · intro h
      cases bs with
      | nil => cases h
      | cons b bs =>
        obtain ⟨hread, hreads⟩ := List.cons.inj h
        exact ⟨b, bs, hread, ih.mpr hreads, rfl⟩

/-- Where an item is read to what it says if it is accepted, all are read just when all are accepted. -/
theorem mapM_eq_ok_iff_of {read : α → Except ε β} {accepted : α → Prop} {value : α → β} {as : List α}
    {bs : List β} (hread : ∀ a ∈ as, ∀ b, read a = .ok b ↔ accepted a ∧ value a = b) :
    as.mapM read = .ok bs ↔ (∀ a ∈ as, accepted a) ∧ as.map value = bs := by
  induction as generalizing bs with
  | nil =>
    rw [mapM_nil_eq_ok_iff, List.map_nil]
    exact (and_iff_right (by simp)).symm
  | cons a as ih =>
    obtain ⟨hfirst, hrest⟩ := List.forall_mem_cons.mp hread
    simp only [mapM_cons_eq_ok_iff, hfirst, ih hrest, List.forall_mem_cons, List.map_cons]
    constructor
    · rintro ⟨b, bs', ⟨haccepted, rfl⟩, ⟨hall, rfl⟩, rfl⟩
      exact ⟨⟨haccepted, hall⟩, rfl⟩
    · rintro ⟨⟨haccepted, hall⟩, rfl⟩
      exact ⟨_, _, ⟨haccepted, rfl⟩, ⟨hall, rfl⟩, rfl⟩

/-- A loop of checks returns when every check does. -/
theorem forM_eq_ok_iff {check : α → Except ε PUnit} {as : List α} :
    forM as check = .ok ⟨⟩ ↔ ∀ a ∈ as, check a = .ok ⟨⟩ := by
  induction as with
  | nil => simp [pure_eq_ok_iff]
  | cons a as ih =>
    rw [List.forM_cons, bind_eq_ok_iff, List.forall_mem_cons, ← ih]
    exact ⟨fun ⟨_, h⟩ => h, fun h => ⟨⟨⟩, h⟩⟩

theorem foldlM_nil_eq_ok_iff {step : σ → α → Except ε σ} {s t : σ} :
    [].foldlM step s = .ok t ↔ s = t := by
  rw [List.foldlM_nil, pure_eq_ok_iff]

/-- A loop returns when its first round does and the others do from there. -/
theorem foldlM_cons_eq_ok_iff {step : σ → α → Except ε σ} {a : α} {as : List α} {s t : σ} :
    (a :: as).foldlM step s = .ok t ↔ ∃ s', step s a = .ok s' ∧ as.foldlM step s' = .ok t := by
  rw [List.foldlM_cons, bind_eq_ok_iff]

/-- A loop within a loop is one loop. -/
theorem foldlM_flatMap {step : σ → β → Except ε σ} (f : α → List β) (as : List α) (s : σ) :
    (as.flatMap f).foldlM step s = as.foldlM (fun s a => (f a).foldlM step s) s := by
  induction as generalizing s with
  | nil => rfl
  | cons a as ih =>
    rw [List.flatMap_cons, List.foldlM_append, List.foldlM_cons]
    congr 1
    funext s'
    exact ih s'

end Fallible
