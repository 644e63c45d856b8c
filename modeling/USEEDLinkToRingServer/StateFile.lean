import USEEDLinkToRingServer.Known
import USEEDLinkToRingServer.SEEDLinkClient

/-!
# The life of the state file

The polling thread purges the state file at its end if it was asked to. The destructor runs after that
and saves the state once more.
-/

namespace USEEDLinkToRingServer

open Machine

namespace SEEDLinkClient

variable {lib : Libraries} {options : SEEDLinkOptions} {c c' : SEEDLinkClient}

/-- A client without a connection was destroyed: its thread has ended and it has left a state file. -/
structure LeftStateFile (c : SEEDLinkClient) : Prop where
  ended : c.poller.ended = true
  saved : c.savedState ≠ none

theorem next_leftStateFile (hcreates : lib.CreatesStateFile) (huse : options.mUseStateFile = true) {event : Event}
    (hinv : c.connected = false → c.LeftStateFile) (h : next lib options c event = some c') :
    c'.connected = false → c'.LeftStateFile := by
  intro hdisconnected
  cases event with
  | start =>
    rw [next, start] at h
    split at h
    · next hconnected _ =>
      obtain rfl := Option.some.inj h
      cases hconnected.symm.trans hdisconnected
    · cases h
  | poll answer =>
    -- a thread that has ended takes no step
    obtain ⟨hrunning, hconnected⟩ := packetToCallback_frame h
    cases hrunning.symm.trans (hinv (hconnected.symm.trans hdisconnected)).ended
  | stop =>
    obtain rfl := Option.some.inj h
    obtain ⟨hended, hsaved⟩ := hinv hdisconnected
    exact ⟨hended, hsaved⟩
  | destroy =>
    rw [next, destroy] at h
    split at h
    · next hended =>
      obtain rfl := Option.some.inj h
      refine ⟨disconnect_poller.symm ▸ hended, ?_⟩
      cases hconnected : c.connected with
      | true =>
        rw [disconnect_savedState (c := c.stop) hconnected huse]
        exact hcreates _ _
      | false =>
        rw [disconnect, if_neg (by simp [stop, hconnected])]
        exact (hinv hconnected).saved
    · cases h

/-- **The state file outlives the client**, whether or not it was to be deleted on stop: in every run to
the end of the destructor there is a state file afterwards. -/
theorem stateFile_left (lib : Libraries) (hcreates : lib.CreatesStateFile) (options : SEEDLinkOptions)
    (huse : options.mUseStateFile = true) (before : Option Nat) (as : List Event)
    (c : SEEDLinkClient) (hrun : exec (next lib options) (initializeClient options before) as = some c)
    (hdestroyed : c.connected = false) : ¬ c.savedState = none := by
  have hinit : (initializeClient options before).connected = false →
      (initializeClient options before).LeftStateFile := nofun
  exact (invariant (fun _ _ _ hs hnext => next_leftStateFile hcreates huse hs hnext) hinit hrun hdestroyed).saved

/-- A client that is to delete its state file is started, stopped and destroyed. -/
def startStopDestroy : List Event :=
  [.start, .poll {}, .poll {}, .poll {}, .stop, .poll {}, .poll {}, .poll {}, .destroy]

def deletingOnStop : SEEDLinkOptions := { stateFile := some "state", mDeleteStateFileOnStop := true }

/-- The client that was to delete its state file leaves one. -/
theorem stateFile_left_known :
    ∃ c, exec (next (.knowing knownRecord knownNames) deletingOnStop)
        (initializeClient deletingOnStop none) startStopDestroy = some c ∧ ¬ c.savedState = none := by
  have hrun : ∃ c, exec (next (.knowing knownRecord knownNames) deletingOnStop)
      (initializeClient deletingOnStop none) startStopDestroy = some c ∧ c.connected = false :=
    ⟨_, rfl, rfl⟩
  obtain ⟨c, hrun, hdestroyed⟩ := hrun
  exact ⟨c, hrun, stateFile_left _ Libraries.knowing_savesState.createsStateFile deletingOnStop rfl none _ c hrun
    hdestroyed⟩

/-- Deleting the state file on stop is not honoured. -/
theorem stateFile_not_deleted :
    ¬ ∀ (lib : Libraries), lib.CreatesStateFile → ∀ (options : SEEDLinkOptions),
      options.mUseStateFile = true → options.mDeleteStateFileOnStop = true → ∀ (before : Option Nat)
      (as : List Event) (c : SEEDLinkClient), exec (next lib options) (initializeClient options before) as = some c →
      c.connected = false → c.savedState = none := by
  intro hclaim
  have hrun : ∃ c, exec (next (.knowing knownRecord knownNames) deletingOnStop)
      (initializeClient deletingOnStop none) startStopDestroy = some c ∧ c.connected = false ∧
      c.savedState = some 0 := ⟨_, rfl, rfl, rfl⟩
  obtain ⟨c, hrun, hdestroyed, hsaved⟩ := hrun
  have hgone := hclaim _ Libraries.knowing_savesState.createsStateFile deletingOnStop rfl rfl none _ c hrun hdestroyed
  cases hsaved.symm.trans hgone

end SEEDLinkClient

end USEEDLinkToRingServer
