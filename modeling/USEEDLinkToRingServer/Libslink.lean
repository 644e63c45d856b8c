import USEEDLinkToRingServer.Libmseed

/-!
# libslink

The SEEDLink library is not part of the repository either. What `sl_collect` returns is up to the environment.
What `sl_savestate` does to the state file is a parameter like the functions of libmseed.
-/

namespace USEEDLinkToRingServer

/-- The libraries that the SEEDLink client calls. -/
structure Libraries extends Libmseed where
  /-- The state file after a save: the number of payloads it covers, if it exists. What it becomes depends on
  the payloads that `sl_collect` has returned and on the file before. -/
  slSavestate : (collected : Nat) → (before : Option Nat) → Option Nat

instance : Coe Libraries Libmseed := ⟨Libraries.toLibmseed⟩

namespace Libraries

variable (lib : Libraries)

/-- A save records everything that `sl_collect` has returned. -/
def SavesState : Prop := ∀ collected before, lib.slSavestate collected before = some collected

/-- A save creates the state file if it is absent. -/
def CreatesStateFile : Prop := ∀ collected before, lib.slSavestate collected before ≠ none

theorem SavesState.createsStateFile {lib : Libraries} (h : lib.SavesState) : lib.CreatesStateFile := by
  intro collected before
  rw [h]
  exact Option.some_ne_none collected

end Libraries

end USEEDLinkToRingServer
