import USEEDLinkToRingServer.Library.Machine

/-!
# Futures

A job is launched once and ends once, with or without an exception. Its future has a shared state from
its launch until its result is taken. Asking a future without one is a misuse.
-/

/-- Where a job is. -/
inductive Job (ε : Type*)
  | notLaunched
  | running
  | ended (exception : Option ε)
deriving DecidableEq, Repr

namespace Job

variable {ε : Type*}

/-- The exception a job has ended with. -/
def thrown : Job ε → List ε
  | .ended (some exception) => [exception]
  | _ => []

def hasEnded : Job ε → Bool
  | .ended _ => true
  | _ => false

theorem eq_ended_of_hasEnded {job : Job ε} (h : job.hasEnded = true) :
    ∃ exception, job = .ended exception := by
  cases job with
  | ended exception => exact ⟨exception, rfl⟩
  | _ => cases h

end Job

/-- A job with its future and the history of the calls. -/
structure Future (ε : Type*) where
  job : Job ε := .notLaunched
  /-- The future has a shared state. -/
  valid : Bool := false
  /-- The exceptions that taking the result has thrown. -/
  retrieved : List ε := []
  misused : Bool := false

namespace Future

open Machine

variable {ε : Type*} {f f' : Future ε}

inductive Action (ε : Type*)
  | launch
  | finish (exception : Option ε)
  | wait
  | get

/-- Taking the result waits for the end of the job. -/
def next (f : Future ε) : Action ε → Option (Future ε)
  | .launch =>
    match f.job with
    | .notLaunched => some { f with job := .running, valid := true }
    | _ => none
  | .finish exception =>
    match f.job with
    | .running => some { f with job := .ended exception }
    | _ => none
  | .wait => some { f with misused := f.misused || !f.valid }
  | .get =>
    match f.valid, f.job with
    | true, .ended exception =>
      some { f with valid := false, retrieved := f.retrieved ++ (Job.ended exception).thrown }
    | true, _ => none
    | false, _ => some { f with misused := true }

theorem reaches_launch (h : f.job = .notLaunched) :
    Reaches next f { f with job := .running, valid := true } := by
  apply Reaches.step (a := .launch) (.refl _)
  simp only [next, h]

theorem reaches_finish (h : f.job = .running) (exception : Option ε) :
    Reaches next f { f with job := .ended exception } := by
  apply Reaches.step (a := .finish exception) (.refl _)
  simp only [next, h]

theorem reaches_wait (f : Future ε) :
    Reaches next f { f with misused := f.misused || !f.valid } :=
  Reaches.step (a := .wait) (.refl _) rfl

theorem reaches_get (hvalid : f.valid = true) (hended : f.job.hasEnded = true) :
    Reaches next f { f with valid := false, retrieved := f.retrieved ++ f.job.thrown } := by
  obtain ⟨exception, hjob⟩ := Job.eq_ended_of_hasEnded hended
  apply Reaches.step (a := .get) (.refl _)
  simp only [next, hvalid, hjob]

/-- The result is taken at most once, and a future that has no shared state is of a job that was not
launched or of one whose result was taken. -/
structure Consistent (f : Future ε) : Prop where
  retrieved : f.retrieved = if f.valid then [] else f.job.thrown
  running : f.job = .running → f.valid = true

theorem next_consistent (f : Future ε) (a : Action ε) (f' : Future ε) (h : f.Consistent)
    (hnext : f.next a = some f') : f'.Consistent := by
  cases a with
  | launch =>
    rw [next] at hnext
    split at hnext
    · next hjob =>
      obtain rfl := Option.some.inj hnext
      refine ⟨?_, fun _ => rfl⟩
      have hretrieved := h.retrieved
      rw [hjob] at hretrieved
      cases hvalid : f.valid <;> simpa [hvalid, Job.thrown] using hretrieved
    · cases hnext
  | finish exception =>
    rw [next] at hnext
    split at hnext
    · next hjob =>
      obtain rfl := Option.some.inj hnext
      have hvalid := h.running hjob
      have hretrieved := h.retrieved
      rw [hvalid] at hretrieved
      refine ⟨?_, nofun⟩
      dsimp only
      rw [hvalid]
      exact hretrieved
    · cases hnext
  | wait =>
    obtain rfl := Option.some.inj hnext
    exact ⟨h.retrieved, h.running⟩
  | get =>
    rw [next] at hnext
    split at hnext
    · next exception hvalid hjob =>
      obtain rfl := Option.some.inj hnext
      have hretrieved := h.retrieved
      rw [hvalid] at hretrieved
      refine ⟨?_, fun hrunning => nomatch hjob.symm.trans hrunning⟩
      dsimp only
      rw [hretrieved, hjob]
      rfl
    · cases hnext
    · obtain rfl := Option.some.inj hnext
      exact ⟨h.retrieved, h.running⟩

theorem consistent_of_reaches (h : Reaches next {} f) : f.Consistent := by
  obtain ⟨as, has⟩ := h
  have hinit : Consistent ({} : Future ε) := ⟨rfl, fun hrunning => nomatch hrunning⟩
  exact invariant next_consistent hinit has

/-- The exception of a job is retrieved exactly once when its future has lost its shared state. -/
theorem Consistent.retrieved_eq (h : f.Consistent) (htaken : f.valid = false) :
    f.retrieved = f.job.thrown := by
  rw [h.retrieved, htaken]
  rfl

end Future
