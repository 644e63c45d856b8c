import USEEDLinkToRingServer.Libslink
import USEEDLinkToRingServer.MiniSEED

/-!
# The SEEDLink client

The polling thread, the state file, and the thread that starts, stops and destroys the client. What
`sl_collect` returns is up to the environment, and a saved state is a number of the payloads that it has
returned.
-/

namespace USEEDLinkToRingServer

open Machine

inductive PayloadFormat
  | mseed2
  | mseed3
  | other
deriving DecidableEq, Repr

/-- What `sl_collect` returns. -/
inductive Collected
  | packet (payloadFormat : PayloadFormat) (payload : Bytes)
  | tooLarge
  | noPacket
  | terminate
  | unhandled (returnValue : Int)
deriving DecidableEq, Repr

/-- Where `packetToCallback` is. -/
inductive Poller
  | notStarted
  | recoveringState
  /-- At the test of `mKeepRunning`. -/
  | testing
  | collecting
  /-- Packets of the payload that are still to be given to the callback. -/
  | offering (packets : List Packet)
  /-- In the callback, with the packets that follow. -/
  | callingBack (rest : List Packet)
  | updatingStateFile
  | purgingStateFile
  /-- At the test of `mKeepRunning` after the loop. -/
  | leaving
  | returned
  | threw (exception : Exception)

def Poller.ended : Poller → Bool
  | .returned | .threw _ => true
  | _ => false

/-- The thread is past its loop, or never entered it. -/
def Poller.pastLoop : Poller → Bool
  | .leaving | .returned | .threw _ => true
  | _ => false

structure SEEDLinkOptions where
  /-- The path of the state file, if there is one. -/
  stateFile : Option String := none
  mStateFileUpdateInterval : Int := 100
  deleteStateFileOnStart : Bool := false
  mDeleteStateFileOnStop : Bool := false
deriving DecidableEq, Repr

def SEEDLinkOptions.mUseStateFile (options : SEEDLinkOptions) : Bool := options.stateFile.isSome

/-- What the environment answers in a step of the polling thread. -/
structure PollAnswer where
  /-- Of `sl_recoverstate`. -/
  returnCode : Int := 0
  collected : Collected := .noPacket
  /-- Whether `std::filesystem::remove` removes the file, or what it or `std::filesystem::exists` throws. -/
  removed : Except Exception Bool := .ok true
deriving DecidableEq, Repr

structure SEEDLinkClient where
  /-- There is a connection structure. -/
  connected : Bool := true
  mKeepRunning : Bool := true
  poller : Poller := .notStarted
  updateStateFile : Int := 1
  /-- The state file, if it exists. -/
  savedState : Option Nat := none
  /-- The payloads that `sl_collect` has returned. -/
  collected : List (PayloadFormat × Bytes) := []
  /-- The packets that were given to the callback. -/
  offered : List Packet := []
  /-- The number of saves made from the polling loop. -/
  loopSaves : Nat := 0

namespace SEEDLinkClient

/-- The client after its construction, if a state file may have been there before. -/
def initializeClient (options : SEEDLinkOptions) (savedState : Option Nat) : SEEDLinkClient :=
  { savedState :=
      if options.mUseStateFile && options.deleteStateFileOnStart then none else savedState }

section

variable (lib : Libraries) (options : SEEDLinkOptions) (c : SEEDLinkClient)

/-- Calls `sl_savestate` and ignores its return code. -/
def saveState : SEEDLinkClient :=
  { c with savedState := lib.slSavestate c.collected.length c.savedState }

/-- Takes a payload that `sl_collect` has returned. Nothing comes of a payload that cannot be unpacked,
and a parser that never advances keeps the thread in the record walk. -/
def collect (payloadFormat : PayloadFormat) (payload : Bytes) : Option SEEDLinkClient :=
  let c := { c with collected := c.collected ++ [(payloadFormat, payload)] }
  if payloadFormat = .mseed2 ∨ payloadFormat = .mseed3 then
    match miniSEEDToDataPackets lib payload (Int32.ofNat payload.length) with
    | none => none
    | some (.ok packets, _) => some { c with poller := .offering packets }
    | some (.error _, _) => some { c with poller := .updatingStateFile }
  else some { c with poller := .testing }

/-- The state file is saved when the counter is past the interval. -/
def countPayload : SEEDLinkClient :=
  if options.mUseStateFile then
    let c :=
      if c.updateStateFile > options.mStateFileUpdateInterval then
        { c.saveState lib with updateStateFile := 0, loopSaves := c.loopSaves + 1 }
      else c
    { c with updateStateFile := c.updateStateFile + 1 }
  else c

/-- One step of `packetToCallback`. -/
def packetToCallback (answer : PollAnswer) : Option SEEDLinkClient :=
  match c.poller with
  | .notStarted | .returned | .threw _ => none
  | .recoveringState =>
    match options.stateFile with
    | none => some { c with poller := .testing }
    | some stateFile =>
      if answer.returnCode = -1 then
        some { c with
          poller := .threw (.runtimeError ("Failed to recover state from file " ++ stateFile)) }
      else some { c with poller := .testing }
  | .testing => some { c with poller := if c.mKeepRunning then .collecting else .purgingStateFile }
  | .collecting =>
    match answer.collected with
    | .packet payloadFormat payload => c.collect lib payloadFormat payload
    | .terminate => some { c with poller := .purgingStateFile }
    | .tooLarge | .noPacket | .unhandled _ => some { c with poller := .testing }
  | .offering [] => some { c with poller := .updatingStateFile }
  | .offering (packet :: rest) =>
    some { c with poller := .callingBack rest, offered := c.offered ++ [packet] }
  | .callingBack rest => some { c with poller := .offering rest }
  | .updatingStateFile => some { c.countPayload lib options with poller := .testing }
  | .purgingStateFile =>
    match options.stateFile with
    | none => some { c with poller := .leaving }
    | some stateFile =>
      if options.mDeleteStateFileOnStop then
        match answer.removed with
        | .error exception => some { c with poller := .threw exception }
        | .ok removed =>
          if c.savedState.isSome then
            if removed then some { c with poller := .leaving, savedState := none }
            else
              some { c with poller := .threw (.runtimeError ("Failed to purge state file " ++ stateFile)) }
          else some { c with poller := .leaving }
      else some { c with poller := .leaving }
  | .leaving =>
    some { c with
      poller :=
        if c.mKeepRunning then .threw (.runtimeError "Premature end of SEEDLink import") else .returned }

def start : Option SEEDLinkClient :=
  match c.connected, c.poller with
  | true, .notStarted =>
    some { c with mKeepRunning := true, updateStateFile := 1, poller := .recoveringState }
  | _, _ => none

def stop : SEEDLinkClient := { c with mKeepRunning := false }

/-- Frees the connection. With a state file the state is saved first. -/
def disconnect : SEEDLinkClient :=
  if c.connected then
    { (if options.mUseStateFile then c.saveState lib else c) with connected := false }
  else c

/-- The destructor. `Process::stop` runs it when the polling thread has ended. -/
def destroy : Option SEEDLinkClient :=
  if c.poller.ended then some (c.stop.disconnect lib options) else none

end

inductive Event
  | start
  | poll (answer : PollAnswer)
  | stop
  | destroy
deriving DecidableEq, Repr

def next (lib : Libraries) (options : SEEDLinkOptions) (c : SEEDLinkClient) :
    Event → Option SEEDLinkClient
  | .start => c.start
  | .poll answer => c.packetToCallback lib options answer
  | .stop => some c.stop
  | .destroy => c.destroy lib options

/-! ### What the steps do -/

section

variable {lib : Libraries} {options : SEEDLinkOptions} {c c' : SEEDLinkClient}

/-- A step of the polling thread, place by place. -/
inductive LoopStep (lib : Libraries) (options : SEEDLinkOptions) (answer : PollAnswer)
    (c : SEEDLinkClient) : SEEDLinkClient → Prop
  | recovered : c.poller = .recoveringState →
      LoopStep lib options answer c { c with poller := .testing }
  | notRecovered (exception : Exception) : c.poller = .recoveringState →
      LoopStep lib options answer c { c with poller := .threw exception }
  | entered : c.poller = .testing → c.mKeepRunning = true →
      LoopStep lib options answer c { c with poller := .collecting }
  | stopped : c.poller = .testing → c.mKeepRunning = false →
      LoopStep lib options answer c { c with poller := .purgingStateFile }
  | collected (payloadFormat : PayloadFormat) (payload : Bytes) (c' : SEEDLinkClient) :
      c.poller = .collecting → answer.collected = .packet payloadFormat payload →
      c.collect lib payloadFormat payload = some c' → LoopStep lib options answer c c'
  | terminated : c.poller = .collecting → answer.collected = .terminate →
      LoopStep lib options answer c { c with poller := .purgingStateFile }
  | collectedNothing : c.poller = .collecting →
      (∀ payloadFormat payload, answer.collected ≠ .packet payloadFormat payload) →
      LoopStep lib options answer c { c with poller := .testing }
  | offeredAll : c.poller = .offering [] →
      LoopStep lib options answer c { c with poller := .updatingStateFile }
  | offered (packet : Packet) (rest : List Packet) : c.poller = .offering (packet :: rest) →
      LoopStep lib options answer c
        { c with poller := .callingBack rest, offered := c.offered ++ [packet] }
  | calledBack (rest : List Packet) : c.poller = .callingBack rest →
      LoopStep lib options answer c { c with poller := .offering rest }
  | counted : c.poller = .updatingStateFile →
      LoopStep lib options answer c { c.countPayload lib options with poller := .testing }
  | kept : c.poller = .purgingStateFile → LoopStep lib options answer c { c with poller := .leaving }
  | purged : c.poller = .purgingStateFile → options.mDeleteStateFileOnStop = true →
      LoopStep lib options answer c { c with poller := .leaving, savedState := none }
  | notPurged (exception : Exception) : c.poller = .purgingStateFile →
      LoopStep lib options answer c { c with poller := .threw exception }
  | endedEarly (exception : Exception) : c.poller = .leaving → c.mKeepRunning = true →
      LoopStep lib options answer c { c with poller := .threw exception }
  | returned : c.poller = .leaving → c.mKeepRunning = false →
      LoopStep lib options answer c { c with poller := .returned }

theorem loopStep_of_packetToCallback {answer : PollAnswer}
    (h : c.packetToCallback lib options answer = some c') : LoopStep lib options answer c c' := by
  unfold packetToCallback at h
  cases hpoller : c.poller with
  | notStarted | returned | threw exception => simp [hpoller] at h
  | recoveringState =>
    simp only [hpoller] at h
    split at h
    · obtain rfl := Option.some.inj h
      exact .recovered hpoller
    · split at h <;> obtain rfl := Option.some.inj h
      · exact .notRecovered _ hpoller
      · exact .recovered hpoller
  | testing =>
    simp only [hpoller] at h
    obtain rfl := Option.some.inj h
    split
    · next hkeep => exact .entered hpoller hkeep
    · next hkeep => exact .stopped hpoller (Bool.eq_false_iff.mpr hkeep)
  | collecting =>
    simp only [hpoller] at h
    split at h
    · next payloadFormat payload hcollected =>
      exact .collected payloadFormat payload c' hpoller hcollected h
    · next hterminate =>
      obtain rfl := Option.some.inj h
      exact .terminated hpoller hterminate
    all_goals
      next hcollected =>
      obtain rfl := Option.some.inj h
      exact .collectedNothing hpoller (by rw [hcollected]; nofun)
  | offering packets =>
    cases packets with
    | nil =>
      simp only [hpoller] at h
      obtain rfl := Option.some.inj h
      exact .offeredAll hpoller
    | cons packet rest =>
      simp only [hpoller] at h
      obtain rfl := Option.some.inj h
      exact .offered packet rest hpoller
  | callingBack rest =>
    simp only [hpoller] at h
    obtain rfl := Option.some.inj h
    exact .calledBack rest hpoller
  | updatingStateFile =>
    simp only [hpoller] at h
    obtain rfl := Option.some.inj h
    exact .counted hpoller
  | purgingStateFile =>
    simp only [hpoller] at h
    split at h
    · obtain rfl := Option.some.inj h
      exact .kept hpoller
    · split at h
      · next hdelete =>
        split at h
        · obtain rfl := Option.some.inj h
          exact .notPurged _ hpoller
        · split at h
          · split at h <;> obtain rfl := Option.some.inj h
            · exact .purged hpoller hdelete
            · exact .notPurged _ hpoller
          · obtain rfl := Option.some.inj h
            exact .kept hpoller
      · obtain rfl := Option.some.inj h
        exact .kept hpoller
  | leaving =>
    simp only [hpoller] at h
    obtain rfl := Option.some.inj h
    split
    · next hkeep => exact .endedEarly _ hpoller hkeep
    · next hkeep => exact .returned hpoller (Bool.eq_false_iff.mpr hkeep)

/-- A step of the polling thread, as far as the callback and the state file see it. -/
inductive PollStep (lib : Libraries) (options : SEEDLinkOptions) (c : SEEDLinkClient) :
    SEEDLinkClient → Prop
  /-- Control moves outside the callback. -/
  | moved (poller : Poller) : c.poller.ended = false →
      (∀ packet rest, c.poller ≠ .offering (packet :: rest)) → (∀ rest, poller ≠ .callingBack rest) →
      PollStep lib options c { c with poller }
  | collected (payloadFormat : PayloadFormat) (payload : Bytes) (c' : SEEDLinkClient) :
      c.poller = .collecting → c.collect lib payloadFormat payload = some c' → PollStep lib options c c'
  | offered (packet : Packet) (rest : List Packet) : c.poller = .offering (packet :: rest) →
      PollStep lib options c { c with poller := .callingBack rest, offered := c.offered ++ [packet] }
  | counted : c.poller = .updatingStateFile →
      PollStep lib options c { c.countPayload lib options with poller := .testing }
  | purged : c.poller = .purgingStateFile →
      PollStep lib options c { c with poller := .leaving, savedState := none }

theorem pollStep_of_packetToCallback {answer : PollAnswer}
    (h : c.packetToCallback lib options answer = some c') : PollStep lib options c c' := by
  have hmoved {before poller : Poller} (hpoller : c.poller = before) (hrunning : before.ended = false)
      (hnotOffering : ∀ packet rest, before ≠ .offering (packet :: rest))
      (hnotCalling : ∀ rest, poller ≠ .callingBack rest) : PollStep lib options c { c with poller } := by
    subst hpoller
    exact .moved poller hrunning hnotOffering hnotCalling
  cases loopStep_of_packetToCallback h with
  | collected payloadFormat payload _ hpoller _ hcollect =>
    exact .collected payloadFormat payload c' hpoller hcollect
  | offered packet rest hpoller => exact .offered packet rest hpoller
  | counted hpoller => exact .counted hpoller
  | purged hpoller _ => exact .purged hpoller
  | recovered hpoller | notRecovered _ hpoller | entered hpoller | stopped hpoller | terminated hpoller
  | collectedNothing hpoller | offeredAll hpoller | calledBack _ hpoller | kept hpoller
  | notPurged _ hpoller | endedEarly _ hpoller | returned hpoller =>
    exact hmoved hpoller rfl nofun nofun

/-- A payload is noted, and the thread goes on with its packets, to the counting or to the next test. -/
theorem collect_cases {payloadFormat : PayloadFormat} {payload : Bytes}
    (h : c.collect lib payloadFormat payload = some c') :
    ∃ poller, c' = { c with collected := c.collected ++ [(payloadFormat, payload)], poller } ∧
      ((∃ packets, poller = .offering packets) ∨ poller = .updatingStateFile ∨ poller = .testing) := by
  unfold collect at h
  dsimp only at h
  split at h
  · split at h
    · cases h
    · next packets _ _ => exact ⟨_, (Option.some.inj h).symm, .inl ⟨packets, rfl⟩⟩
    · exact ⟨_, (Option.some.inj h).symm, .inr (.inl rfl)⟩
  · exact ⟨_, (Option.some.inj h).symm, .inr (.inr rfl)⟩

theorem collect_frame {payloadFormat : PayloadFormat} {payload : Bytes}
    (h : c.collect lib payloadFormat payload = some c') :
    c'.connected = c.connected ∧ c'.offered = c.offered ∧ ∀ rest, c'.poller ≠ .callingBack rest := by
  obtain ⟨poller, rfl, ⟨_, rfl⟩ | rfl | rfl⟩ := collect_cases h
  all_goals exact ⟨rfl, rfl, nofun⟩

/-- The counting concerns the counter and the state file. -/
theorem countPayload_eq (lib : Libraries) (options : SEEDLinkOptions) (c : SEEDLinkClient) :
    ∃ updateStateFile savedState loopSaves,
      c.countPayload lib options = { c with updateStateFile, savedState, loopSaves } := by
  unfold countPayload
  split
  · dsimp only
    split
    · exact ⟨_, _, _, rfl⟩
    · exact ⟨_, _, _, rfl⟩
  · exact ⟨_, _, _, rfl⟩

theorem countPayload_frame :
    (c.countPayload lib options).connected = c.connected ∧ (c.countPayload lib options).offered = c.offered := by
  obtain ⟨_, _, _, heq⟩ := countPayload_eq lib options c
  rw [heq]
  exact ⟨rfl, rfl⟩

/-- The thread takes a step only while it has not ended, and leaves the connection alone. -/
theorem packetToCallback_frame {answer : PollAnswer}
    (h : c.packetToCallback lib options answer = some c') :
    c.poller.ended = false ∧ c'.connected = c.connected := by
  cases pollStep_of_packetToCallback h with
  | moved poller hrunning => exact ⟨hrunning, rfl⟩
  | collected _ _ _ hpoller hcollect => exact ⟨by rw [hpoller]; rfl, (collect_frame hcollect).1⟩
  | offered _ _ hpoller | purged hpoller => exact ⟨by rw [hpoller]; rfl, rfl⟩
  | counted hpoller => exact ⟨by rw [hpoller]; rfl, countPayload_frame.1⟩

/-- Only the step into the callback gives it a packet. -/
theorem packetToCallback_offered {answer : PollAnswer}
    (h : c.packetToCallback lib options answer = some c') :
    (∃ packet rest, c.poller = .offering (packet :: rest) ∧ c'.poller = .callingBack rest ∧
        c'.offered = c.offered ++ [packet]) ∨
      ((∀ packet rest, c.poller ≠ .offering (packet :: rest)) ∧
        (∀ rest, c'.poller ≠ .callingBack rest) ∧ c'.offered = c.offered) := by
  cases pollStep_of_packetToCallback h with
  | moved poller _ hnotOffering hnotCalling => exact Or.inr ⟨hnotOffering, hnotCalling, rfl⟩
  | collected _ _ _ hpoller hcollect =>
    obtain ⟨_, hoffered, hnotCalling⟩ := collect_frame hcollect
    exact Or.inr ⟨by rw [hpoller]; nofun, hnotCalling, hoffered⟩
  | offered packet rest hpoller => exact Or.inl ⟨packet, rest, hpoller, rfl, rfl⟩
  | counted hpoller => exact Or.inr ⟨by rw [hpoller]; nofun, nofun, countPayload_frame.2⟩
  | purged hpoller => exact Or.inr ⟨by rw [hpoller]; nofun, nofun, rfl⟩

theorem disconnect_savedState (hconnected : c.connected = true) (huse : options.mUseStateFile = true) :
    (c.disconnect lib options).savedState = lib.slSavestate c.collected.length c.savedState := by
  rw [disconnect, if_pos hconnected, if_pos huse]
  rfl

theorem disconnect_collected : (c.disconnect lib options).collected = c.collected := by
  unfold disconnect
  split
  · split <;> rfl
  · rfl

/-- The destructor's save covers everything that was collected. -/
theorem savedState_of_disconnect (hsaves : lib.SavesState) (hconnected : c.connected = true)
    (huse : options.mUseStateFile = true) :
    (c.disconnect lib options).savedState = some (c.disconnect lib options).collected.length := by
  rw [disconnect_savedState hconnected huse, disconnect_collected]
  exact hsaves _ _

theorem disconnect_poller : (c.disconnect lib options).poller = c.poller := by
  unfold disconnect
  split
  · split <;> rfl
  · rfl

theorem disconnect_offered : (c.disconnect lib options).offered = c.offered := by
  unfold disconnect
  split
  · split <;> rfl
  · rfl

theorem start_eq_some :
    c.start = some c' ↔ c.connected = true ∧ c.poller = .notStarted ∧
      c' = { c with mKeepRunning := true, updateStateFile := 1, poller := .recoveringState } := by
  unfold start
  split
  · next hconnected hnotStarted => simp [hconnected, hnotStarted, eq_comm]
  · next hno => exact ⟨fun h => (nomatch h), fun h => (hno h.1 h.2.1).elim⟩

end

end SEEDLinkClient

end USEEDLinkToRingServer
