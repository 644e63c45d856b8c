import USEEDLinkToRingServer.Connections
import USEEDLinkToRingServer.Shutdown
import USEEDLinkToRingServer.WorkerLifeCycle

/-!
# The connection structures over a run

The process and its structures. Each step of a thread uses the structures as the code does, and a writer learns
from its structure whether the link is up. A run has no defined outcome if one of its steps uses a structure that
is not there.
-/

namespace USEEDLinkToRingServer

open Machine

structure Connected (n : Nat) where
  process : Process n
  connections : Connections n

namespace Connected

variable {n : Nat}

section

variable (options : ProcessOptions n) (address : Fin n → Str) (x : Connected n)

/-- The writer is told whether its link is up. -/
def tell (client : Fin n) (isConnected : Bool) : Connected n :=
  { x with process := x.process.setDataLink client { x.process.dataLink client with isConnected } }

/-- The structures after a use of them. -/
def use (connections : Option (Connections n)) : Option (Connected n) :=
  connections.map fun connections => { x with connections }

/-- What a step of a writer does with its structure. The structure is closed after too many failures. -/
def runWriter (client : Fin n) (answer : Answer) : Option (Connected n) :=
  match (x.process.dataLink client).writer with
  | .checkingConnection | .recheckingConnection => (x.connections.isConnected client).map (x.tell client)
  | .connecting _ =>
    x.use ((x.connections.connect client (address client) answer.returnCode).map (·.2))
  | .writing _ (dataLinkPacket :: _) =>
    if dataLinkPacket.data.isEmpty then some x
    else if answer.returnCode < 0 ∧ (x.process.dataLink client).log.consecutiveWriteFailures + 1 ≥ 32 then
      x.use ((x.connections.dlWrite client answer.linkUp).bind (Connections.disconnect client))
    else x.use (x.connections.dlWrite client answer.linkUp)
  | _ => some x

/-- What a step of the SEEDLink thread does with its structure. -/
def pollSEEDLink : Option (Connected n) :=
  match x.process.seedLink.poller with
  | .recoveringState => if options.seedLink.mUseStateFile then x.use x.connections.useSEEDLink else some x
  | .collecting => x.use x.connections.useSEEDLink
  | .updatingStateFile =>
    if options.seedLink.mUseStateFile ∧
        x.process.seedLink.updateStateFile > options.seedLink.mStateFileUpdateInterval then
      x.use x.connections.useSEEDLink
    else some x
  | _ => some x

/-- A client that is not to keep running is not terminated again. -/
def stopSEEDLink : Option (Connections n) :=
  if x.process.seedLink.mKeepRunning then x.connections.terminate else some x.connections

/-- What a step of the main thread does with the structures. -/
def mainThread : Option (Connected n) :=
  match x.process.main with
  | .startingSEEDLink => x.use x.connections.useSEEDLink
  | .stoppingSEEDLink => x.use x.stopSEEDLink
  | .resettingSEEDLink => x.use (x.stopSEEDLink.bind Connections.disconnectSEEDLink)
  | .resettingWriter client =>
    if h : client < n then x.use (x.connections.destroyDataLinkClient ⟨client, h⟩) else some x
  | _ => some x

/-- What a step does with the structures. -/
def uses : Process.Event n → Option (Connected n)
  | .main _ => x.mainThread
  | .seedLink _ => x.pollSEEDLink options
  | .writer client answer => x.runWriter address client answer
  | .callback _ | .metrics _ => some x

end

/-- A step of the process with its structures. -/
def next (lib : Libraries) (options : ProcessOptions n) (address : Fin n → Str) (x : Connected n)
    (event : Process.Event n) : Option (Connected n) :=
  (x.uses options address event).bind fun x =>
    (Process.next lib options x.process event).map fun process => { x with process }

/-! ### Which structures there are -/

end Connected

/-- The writer is at a place from which it goes on to write. -/
def Writer.aboutToWrite : Writer → Bool
  | .dequeuing | .converting _ | .naming _ _ | .writing _ _ => true
  | _ => false

/-- The main thread has destroyed the client. -/
def Main.writerReset (client : Nat) : Main → Bool
  | .resettingWriter current => client < current
  | .stopped => true
  | _ => false

namespace Connected

variable {lib : Libraries} {options : ProcessOptions n} {address : Fin n → Str} {x : Connected n} {p' : Process n}
  {held : Owner n → Option Connection}

/-- Who holds a structure. Until it is destroyed the SEEDLink client does, and so does a writer that goes on to
write. -/
structure Holding (x : Connected n) (held : Owner n → Option Connection) : Prop where
  holds : x.connections.Holds held
  seedLink : held .seedLink = none ↔ x.process.main.seedLinkReset = true
  linkUp : ∀ client, Connections.linkUp (held (.writer client)) = (x.process.dataLink client).isConnected
  writer : ∀ client, (x.process.dataLink client).writer.aboutToWrite = true → held (.writer client) ≠ none
  reset : ∀ client : Fin n, x.process.main.writerReset client = true → held (.writer client) = none

/-- A step that neither uses a structure nor takes a writer on to writing. -/
theorem Holding.frame (h : x.Holding held) (hseedLink : p'.main.seedLinkReset = x.process.main.seedLinkReset)
    (hreset : ∀ client : Fin n, p'.main.writerReset client = true → x.process.main.writerReset client = true)
    (hwriters : ∀ client, (p'.dataLink client).isConnected = (x.process.dataLink client).isConnected ∧
      ((p'.dataLink client).writer.aboutToWrite = true → (x.process.dataLink client).writer.aboutToWrite = true)) :
    Holding { x with process := p' } held where
  holds := h.holds
  seedLink := by rw [hseedLink]; exact h.seedLink
  linkUp client := by rw [(hwriters client).1]; exact h.linkUp client
  writer client hwriting := h.writer client ((hwriters client).2 hwriting)
  reset client hafter := h.reset client (hreset client hafter)

/-- A step of a writer whose structure is then another one. -/
theorem Holding.setWriter (h : x.Holding held) {client : Fin n} {connections : Connections n}
    {connection : Option Connection} (hholds : connections.Holds (Function.update held (.writer client) connection))
    {c : DataLinkClient} (hlinkUp : Connections.linkUp connection = c.isConnected)
    (hwriting : c.writer.aboutToWrite = true → connection ≠ none)
    (hreset : x.process.main.writerReset client = true → connection = none) :
    Holding ⟨x.process.setDataLink client c, connections⟩ (Function.update held (.writer client) connection) := by
  refine ⟨hholds, h.seedLink, fun other => ?_, fun other => ?_, fun other => ?_⟩ <;>
    by_cases hother : other = client
  · subst hother
    rw [Function.update_self, Process.setDataLink_self]
    exact hlinkUp
  · rw [Function.update_of_ne (by simp [hother]), Process.setDataLink_of_ne hother]
    exact h.linkUp other
  · subst hother
    rw [Function.update_self, Process.setDataLink_self]
    exact hwriting
  · rw [Function.update_of_ne (by simp [hother]), Process.setDataLink_of_ne hother]
    exact h.writer other
  · subst hother
    rw [Function.update_self]
    exact hreset
  · rw [Function.update_of_ne (by simp [hother])]
    exact h.reset other

theorem Holding.isConnected (h : x.Holding held) (client : Fin n) :
    x.connections.isConnected client = some (x.process.dataLink client).isConnected := by
  rw [Connections.isConnected_eq h.holds, h.linkUp]

/-- What a writer is told is what it goes by anyway. -/
theorem Holding.tell (h : x.Holding held) (client : Fin n) :
    (x.connections.isConnected client).map (x.tell client) = some x := by
  rw [h.isConnected client, Option.map_some, Connected.tell, Process.setDataLink, Function.update_eq_self]

/-! ### A step of a writer -/

section

variable {client : Fin n} {answer : Answer} {c : DataLinkClient}

/-- A step of a writer that leaves its structure alone. -/
theorem Holding.keepWriter (h : x.Holding held) (hlinkUp : c.isConnected = (x.process.dataLink client).isConnected)
    (hwriting : c.writer.aboutToWrite = true → held (.writer client) ≠ none) :
    Holding ⟨x.process.setDataLink client c, x.connections⟩ held := by
  have hholds := h.holds
  rw [← Function.update_eq_self (.writer client) held] at hholds ⊢
  exact h.setWriter hholds (by rw [hlinkUp]; exact h.linkUp client) hwriting (h.reset client)

/-- A reconnection. -/
theorem Holding.connect (h : x.Holding held) (hnotReset : x.process.main.writerReset client = false)
    (mAddress : Str) (returnCode : Int) :
    ∃ connections held', x.use ((x.connections.connect client mAddress returnCode).map (·.2)) =
        some ⟨x.process, connections⟩ ∧
      ∀ writer : Writer, writer.aboutToWrite = false → Holding ⟨x.process.setDataLink client
        { x.process.dataLink client with isConnected := decide (0 ≤ returnCode), writer }, connections⟩ held' := by
  obtain ⟨connections, hconnect, hholds⟩ := Connections.connect_spec h.holds client mAddress returnCode
  refine ⟨connections, _, by rw [hconnect]; rfl, fun writer hwriter => h.setWriter hholds ?_ ?_ ?_⟩
  · by_cases hcode : 0 ≤ returnCode <;> simp [hcode, Connections.linkUp]
  · rw [hwriter]
    exact fun habout => absurd habout Bool.false_ne_true
  · rw [hnotReset]
    exact fun hreset => absurd hreset Bool.false_ne_true

/-- A call of `dl_write`. -/
theorem Holding.dlWrite (h : x.Holding held) (hwriting : (x.process.dataLink client).writer.aboutToWrite = true)
    (hnotReset : x.process.main.writerReset client = false) (up : Bool) :
    ∃ connections held', x.use (x.connections.dlWrite client up) = some ⟨x.process, connections⟩ ∧
      ∀ log writer, Holding ⟨x.process.setDataLink client
        { x.process.dataLink client with
          isConnected := (x.process.dataLink client).isConnected && up, log, writer }, connections⟩ held' := by
  obtain ⟨connection, hheld⟩ := Option.ne_none_iff_exists'.mp (h.writer client hwriting)
  have hlinkUp := h.linkUp client
  rw [hheld] at hlinkUp
  obtain ⟨connections, hwrite, hholds⟩ := Connections.dlWrite_spec h.holds hheld up
  refine ⟨connections, _, by rw [hwrite]; rfl, fun log writer => h.setWriter hholds ?_ (fun _ => by simp) ?_⟩
  · rw [← hlinkUp]
    rfl
  · rw [hnotReset]
    nofun

/-- The last call of `dl_write` of a writer that has failed too often. -/
theorem Holding.dlWrite_disconnect (h : x.Holding held)
    (hwriting : (x.process.dataLink client).writer.aboutToWrite = true)
    (hnotReset : x.process.main.writerReset client = false) (up : Bool) :
    ∃ connections held',
      x.use ((x.connections.dlWrite client up).bind (Connections.disconnect client)) =
        some ⟨x.process, connections⟩ ∧
      ∀ log writer, Holding ⟨x.process.setDataLink client
        { x.process.dataLink client with isConnected := false, log, writer }, connections⟩ held' := by
  obtain ⟨connection, hheld⟩ := Option.ne_none_iff_exists'.mp (h.writer client hwriting)
  obtain ⟨written, hwrite, hholds⟩ := Connections.dlWrite_spec h.holds hheld up
  obtain ⟨connections, hdisconnect, hholds'⟩ := Connections.disconnect_spec hholds client
  rw [Function.update_self, Option.map_some, Function.update_idem] at hholds'
  refine ⟨connections, _, by rw [hwrite, Option.bind_some, hdisconnect]; rfl,
    fun log writer => h.setWriter hholds' rfl (fun _ => by simp) ?_⟩
  rw [hnotReset]
  nofun

theorem aboutToWrite_reconnect (intervals : List Nat) :
    (DataLinkClient.reconnect intervals).aboutToWrite = false := by
  unfold DataLinkClient.reconnect
  split <;> rfl

/-- The link is closed after too many failures. -/
theorem dlWrite_eq (c : DataLinkClient) (streamIdentifier : Str) (dataLinkPacket : DataLinkPacket)
    (rest : List DataLinkPacket) (answer : Answer) :
    ∃ log writer, c.dlWrite streamIdentifier dataLinkPacket rest answer =
      { c with
        isConnected :=
          if answer.returnCode < 0 ∧ c.log.consecutiveWriteFailures + 1 ≥ 32 then false
          else c.isConnected && answer.linkUp
        log, writer } := by
  unfold DataLinkClient.dlWrite WriterLog.failedToWrite
  by_cases hfailed : answer.returnCode < 0
  · by_cases hmany : c.log.consecutiveWriteFailures + 1 ≥ 32
    · simp only [hfailed, hmany, and_self, if_true]
      exact ⟨_, _, rfl⟩
    · simp only [hfailed, hmany, and_false, if_true, if_false]
      exact ⟨_, _, rfl⟩
  · simp only [hfailed, false_and, if_false]
    exact ⟨_, _, rfl⟩

/-- A writer finds its structure where it uses it, and leaves it as the model of the process says. -/
theorem Holding.runWriter (h : x.Holding held) (hnotReset : x.process.main.writerReset client = false)
    (hstep : x.process.runWriter lib options client answer = some p') :
    ∃ connections held', x.runWriter address client answer = some ⟨x.process, connections⟩ ∧
      Holding ⟨p', connections⟩ held' := by
  obtain ⟨c, hc, rfl⟩ := Option.map_eq_some_iff.mp hstep
  unfold DataLinkClient.runWriter at hc
  have hkept (hwriting : (x.process.dataLink client).writer.aboutToWrite = true) := h.writer client hwriting
  cases hwriter : (x.process.dataLink client).writer with
  | notStarted | returned | threw => simp [hwriter] at hc
  | testing | locking | testingTerminate | blocking | blocked =>
    simp only [hwriter] at hc
    obtain rfl := Option.some.inj hc
    refine ⟨x.connections, held, by rw [Connected.runWriter, hwriter], h.keepWriter rfl fun hwriting => ?_⟩
    first | cases hwriting | (split at hwriting <;> cases hwriting)
  | checkingConnection | recheckingConnection =>
    simp only [hwriter] at hc
    obtain rfl := Option.some.inj hc
    refine ⟨x.connections, held, by rw [Connected.runWriter, hwriter]; exact h.tell client,
      h.keepWriter rfl fun hwriting hnone => ?_⟩
    have hlinkUp := h.linkUp client
    rw [hnone] at hlinkUp
    rw [← hlinkUp] at hwriting
    cases hwriting
  | connecting intervals =>
    obtain ⟨connections, held', huse, hholding⟩ := h.connect hnotReset (address client) answer.returnCode
    refine ⟨connections, held', by rw [Connected.runWriter, hwriter]; exact huse, ?_⟩
    simp only [hwriter] at hc
    split at hc <;> obtain rfl := Option.some.inj hc
    · next hcode =>
      have hfailed := hholding _ (aboutToWrite_reconnect intervals.tail)
      rwa [decide_eq_false (not_le.mpr hcode)] at hfailed
    · next hcode =>
      have hconnected := hholding .recheckingConnection rfl
      rwa [decide_eq_true (not_lt.mp hcode)] at hconnected
  | dequeuing =>
    simp only [hwriter] at hc
    split at hc <;> obtain rfl := Option.some.inj hc
    all_goals
      exact ⟨x.connections, held, by rw [Connected.runWriter, hwriter],
        h.keepWriter rfl fun _ => hkept (by rw [hwriter]; rfl)⟩
  | converting | naming =>
    simp only [hwriter] at hc
    split at hc <;> obtain rfl := Option.some.inj hc
    all_goals
      exact ⟨x.connections, held, by rw [Connected.runWriter, hwriter],
        h.keepWriter rfl fun _ => hkept (by rw [hwriter]; rfl)⟩
  | writing streamIdentifier dataLinkPackets =>
    have hwriting : (x.process.dataLink client).writer.aboutToWrite = true := by rw [hwriter]; rfl
    cases dataLinkPackets with
    | nil =>
      simp only [hwriter] at hc
      obtain rfl := Option.some.inj hc
      exact ⟨x.connections, held, by rw [Connected.runWriter, hwriter], h.keepWriter rfl fun _ => hkept hwriting⟩
    | cons dataLinkPacket rest =>
      simp only [hwriter] at hc
      rw [Connected.runWriter, hwriter]
      dsimp only
      by_cases hempty : dataLinkPacket.data.isEmpty = true
      · rw [if_pos hempty] at hc ⊢
        obtain rfl := Option.some.inj hc
        exact ⟨x.connections, held, rfl, h.keepWriter rfl fun _ => hkept hwriting⟩
      rw [if_neg hempty] at hc ⊢
      obtain rfl := Option.some.inj hc
      obtain ⟨log, writer, heq⟩ := dlWrite_eq (x.process.dataLink client) streamIdentifier dataLinkPacket rest answer
      rw [heq]
      by_cases htooMany : answer.returnCode < 0 ∧ (x.process.dataLink client).log.consecutiveWriteFailures + 1 ≥ 32
      · rw [if_pos htooMany, if_pos htooMany]
        obtain ⟨connections, held', huse, hholding⟩ := h.dlWrite_disconnect hwriting hnotReset answer.linkUp
        exact ⟨connections, held', huse, hholding log writer⟩
      · rw [if_neg htooMany, if_neg htooMany]
        obtain ⟨connections, held', huse, hholding⟩ := h.dlWrite hwriting hnotReset answer.linkUp
        exact ⟨connections, held', huse, hholding log writer⟩

end

/-! ### A step of the SEEDLink thread -/

theorem use_useSEEDLink (h : x.Holding held) (hnotReset : x.process.main.seedLinkReset = false) :
    x.use x.connections.useSEEDLink = some x := by
  rw [Connections.useSEEDLink_eq h.holds fun hnone => ?_]
  · rfl
  · cases hnotReset.symm.trans (h.seedLink.mp hnone)

theorem Holding.pollSEEDLink (h : x.Holding held) (hnotReset : x.process.main.seedLinkReset = false)
    {answer : PollAnswer} (hstep : x.process.pollSEEDLink lib options answer = some p') :
    x.pollSEEDLink options = some x ∧ Holding { x with process := p' } held := by
  have huse := use_useSEEDLink h hnotReset
  refine ⟨?_, ?_⟩
  · rw [Connected.pollSEEDLink]
    split
    · rw [huse, ite_self]
    · exact huse
    · rw [huse, ite_self]
    · rfl
  · obtain ⟨seedLink, _, hcases⟩ := Process.pollSEEDLink_cases hstep
    rcases hcases with ⟨_, _, _, _, _, rfl⟩ | ⟨_, _, rfl⟩ <;>
      exact h.frame rfl (fun _ => id) fun _ => ⟨rfl, id⟩

/-! ### A step of the main thread -/

theorem stopSEEDLink_eq (h : x.Holding held) : x.stopSEEDLink = some x.connections := by
  rw [stopSEEDLink, Connections.terminate_eq h.holds, ite_self]

theorem mainThread_of_watching (h : x.process.main.watching = true) : x.mainThread = some x := by
  rw [Connected.mainThread]
  split
  case h_5 => rfl
  all_goals
    next hmain =>
    rw [hmain] at h
    cases h

theorem Holding.resetSEEDLink (h : x.Holding held) (hmain : x.process.main = .resettingSEEDLink) :
    ∃ connections held', x.mainThread = some ⟨x.process, connections⟩ ∧
      Holding ⟨{ x.process with
        seedLink := x.process.seedLink.stop.disconnect lib options.seedLink, main := .resettingWriter 0 },
        connections⟩ held' := by
  obtain ⟨connections, hdisconnect, hholds⟩ := Connections.disconnectSEEDLink_spec h.holds
  refine ⟨connections, _, ?_, ⟨hholds, by simp [Main.seedLinkReset], h.linkUp, h.writer, fun client hreset => ?_⟩⟩
  · rw [Connected.mainThread, hmain]
    dsimp only
    rw [stopSEEDLink_eq h, Option.bind_some, hdisconnect]
    rfl
  · simp [Main.writerReset] at hreset

theorem Holding.resetWriter (h : x.Holding held) {client : Fin n}
    (hended : (x.process.dataLink client).writer.ended = true) (hmain : x.process.main = .resettingWriter client) :
    ∃ connections held', x.mainThread = some ⟨x.process, connections⟩ ∧
      Holding ⟨{ x.process.setDataLink client (x.process.dataLink client).destroy with
        main := .resettingWriter (client + 1) }, connections⟩ held' := by
  obtain ⟨connections, hdestroy, hholds⟩ := Connections.destroyDataLinkClient_spec h.holds client
  have hwriting : (x.process.dataLink client).destroy.writer.aboutToWrite = false := by
    show (x.process.dataLink client).writer.aboutToWrite = false
    cases hwriter : (x.process.dataLink client).writer <;> rw [hwriter] at hended <;> first | rfl | cases hended
  have hset := h.setWriter hholds (c := (x.process.dataLink client).destroy) rfl
    (fun hafter => nomatch hwriting.symm.trans hafter) fun _ => rfl
  refine ⟨connections, _, ?_, ⟨hset.holds, ?_, hset.linkUp, hset.writer, fun other hreset => ?_⟩⟩
  · rw [Connected.mainThread, hmain]
    dsimp only
    rw [dif_pos client.isLt, hdestroy]
    rfl
  · have hseedLink := hset.seedLink
    rw [show (Process.setDataLink x.process client (x.process.dataLink client).destroy).main = .resettingWriter client
      from hmain] at hseedLink
    exact hseedLink
  · by_cases hother : other = client
    · rw [hother]
      exact Function.update_self ..
    · apply hset.reset
      show x.process.main.writerReset other = true
      have hlt : other.val < client.val + 1 := by simpa [Main.writerReset] using hreset
      have hne : other.val ≠ client.val := Fin.val_ne_of_ne hother
      rw [hmain, Main.writerReset, decide_eq_true_iff]
      omega

theorem writerReset_of_not_reset {main : Main} (h : main.seedLinkReset = false) (client : Nat) :
    main.writerReset client = false := by
  cases main <;> first | rfl | cases h

/-- The main thread is not yet destroying the clients. -/
theorem Holding.before (h : x.Holding held) (hfrom : x.process.main.seedLinkReset = false)
    (hto : p'.main.seedLinkReset = false) (huses : x.mainThread = some x)
    (hwriters : ∀ client, (p'.dataLink client).isConnected = (x.process.dataLink client).isConnected ∧
      ((p'.dataLink client).writer.aboutToWrite = true → (x.process.dataLink client).writer.aboutToWrite = true)) :
    ∃ connections held', x.mainThread = some ⟨x.process, connections⟩ ∧ Holding ⟨p', connections⟩ held' :=
  ⟨x.connections, held, huses, h.frame (hto.trans hfrom.symm)
    (fun client hafter => nomatch (writerReset_of_not_reset hto client).symm.trans hafter) hwriters⟩

/-- Starting and stopping a writer changes nothing that its structure is used for. -/
theorem aboutToWrite_start {c c' : DataLinkClient} (h : c.start = some c') :
    c'.isConnected = c.isConnected ∧ (c'.writer.aboutToWrite = true → c.writer.aboutToWrite = true) := by
  unfold DataLinkClient.start at h
  split at h
  · obtain rfl := Option.some.inj h
    exact ⟨rfl, nofun⟩
  · cases h

theorem aboutToWrite_stop (c : DataLinkClient) :
    c.stop.isConnected = c.isConnected ∧ (c.stop.writer.aboutToWrite = true → c.writer.aboutToWrite = true) := by
  unfold DataLinkClient.stop
  split
  · exact ⟨rfl, id⟩
  · exact ⟨rfl, id⟩
  · refine ⟨rfl, ?_⟩
    dsimp only
    split
    · nofun
    · exact id

/-- The main thread finds the structures where it uses them. -/
theorem Holding.mainThread (h : x.Holding held) (hjoined : ∀ client, x.process.Joined client) {interrupted : Bool}
    (hstep : x.process.mainThread lib options interrupted = some p') :
    ∃ connections held', x.mainThread = some ⟨x.process, connections⟩ ∧ Holding ⟨p', connections⟩ held' := by
  have hbefore {main : Main} (hmain : x.process.main = main) (hnotReset : main.seedLinkReset = false) :
      x.process.main.seedLinkReset = false := by rw [hmain, hnotReset]
  have hsame (client : Fin n) : (x.process.dataLink client).isConnected = (x.process.dataLink client).isConnected ∧
      ((x.process.dataLink client).writer.aboutToWrite = true →
        (x.process.dataLink client).writer.aboutToWrite = true) := ⟨rfl, id⟩
  let R := fun c c' : DataLinkClient =>
    c'.isConnected = c.isConnected ∧ (c'.writer.aboutToWrite = true → c.writer.aboutToWrite = true)
  cases Process.mainStep_of_mainThread hstep with
  | started hmain | startedWriters _ hmain | cleared hmain | joined hmain | stoppedWriters _ hmain
  | gotSEEDLink hmain | gotWriter _ hmain | gotWriters _ hmain =>
    exact h.before (hbefore hmain rfl) rfl (by rw [Connected.mainThread, hmain]) hsame
  | watched main hfrom hto | retrievedSEEDLink main hfrom hto | retrievedWriter _ main hfrom hto =>
    exact h.before (Main.not_reset_of_watching hfrom) (Main.not_reset_of_watching hto)
      (mainThread_of_watching hfrom) hsame
  | startedWriter other c hmain hstart =>
    exact h.before (hbefore hmain rfl) rfl (by rw [Connected.mainThread, hmain])
      (Process.setDataLink_related (R := R) (fun _ => ⟨rfl, id⟩) (aboutToWrite_start hstart))
  | stoppedWriter other _ hmain =>
    exact h.before (hbefore hmain rfl) rfl (by rw [Connected.mainThread, hmain])
      (Process.setDataLink_related (R := R) (fun _ => ⟨rfl, id⟩) (aboutToWrite_stop _))
  | startedSEEDLink seedLink hmain hstart =>
    have huse := use_useSEEDLink h (hbefore hmain rfl)
    exact h.before (hbefore hmain rfl) rfl (by rw [Connected.mainThread, hmain]; exact huse) hsame
  | stoppedSEEDLink hmain =>
    refine h.before (hbefore hmain rfl) rfl ?_ hsame
    rw [Connected.mainThread, hmain]
    dsimp only
    rw [stopSEEDLink_eq h]
    rfl
  | resetSEEDLink hmain => exact h.resetSEEDLink hmain
  | resetWriter client hmain => exact h.resetWriter ((hjoined client).dataLink (by rw [hmain]; rfl)) hmain
  | finished current hmain hlast =>
    refine ⟨x.connections, held, ?_, h.frame (by rw [hmain]; rfl) (fun client _ => ?_) hsame⟩
    · rw [Connected.mainThread, hmain]
      exact dif_neg (not_lt.mpr hlast)
    · have hlt : client.val < current := Nat.lt_of_lt_of_le client.isLt hlast
      rw [hmain, Main.writerReset, decide_eq_true_iff]
      exact hlt

/-! ### Every run -/

/-- What holds in every run of the process with its structures, which goes as the process goes alone. -/
structure Follows (x : Connected n) (p : Process n) : Prop where
  process : x.process = p
  holding : ∃ held, x.Holding held
  starting : p.main = .starting → p.metrics = .notStarted
  joined : ∀ client, p.Joined client

theorem Follows.of_step {p : Process n} (h : x.Follows p) {event : Process.Event n}
    (hstep : Process.next lib options p event = some p') {connections : Connections n}
    (hholding : ∃ held, Holding ⟨p', connections⟩ held) : Follows ⟨p', connections⟩ p' where
  process := rfl
  holding := hholding
  starting hstarting := by
    by_cases hthread : ∀ interrupted, event ≠ .main interrupted
    · obtain ⟨hmain, _, _, hmetrics⟩ := Process.thread_frame hthread hstep
      exact hmetrics (h.starting (hmain ▸ hstarting))
    · obtain ⟨interrupted, heq⟩ := not_forall.mp hthread
      obtain rfl := not_not.mp heq
      exact absurd hstarting (Process.not_starting_of_mainStep (Process.mainStep_of_mainThread hstep))
  joined client := (h.joined client).next h.starting hstep

theorem writerJoined_of_writerReset {main : Main} {client : Nat} (h : main.writerReset client = true) :
    main.writerJoined client = true := by
  cases main <;> first | rfl | cases h

/-- A step of the metrics thread changes no more than the queues. -/
theorem Holding.tabulateMetrics (h : x.Holding held) {pushSucceeds : Bool}
    (hstep : x.process.tabulateMetrics options pushSucceeds = some p') : Holding { x with process := p' } held := by
  let R := fun c c' : DataLinkClient =>
    c'.isConnected = c.isConnected ∧ (c'.writer.aboutToWrite = true → c.writer.aboutToWrite = true)
  cases Process.metricsStep_of_tabulateMetrics hstep with
  | handedOver _ other queue | produced _ other queue =>
    exact h.frame rfl (fun _ => id) (Process.setDataLink_related (R := R) (fun _ => ⟨rfl, id⟩) ⟨rfl, id⟩)
  | _ => exact h.frame rfl (fun _ => id) fun _ => ⟨rfl, id⟩

/-- A step that the process can take is a use of structures that are there. -/
theorem Follows.uses (h : x.Follows x.process) (anyClient : Fin n) {event : Process.Event n}
    (hstep : Process.next lib options x.process event = some p') :
    ∃ connections held', x.uses options address event = some ⟨x.process, connections⟩ ∧
      Holding ⟨p', connections⟩ held' := by
  obtain ⟨held, hholding⟩ := h.holding
  cases event with
  | main interrupted => exact hholding.mainThread h.joined hstep
  | callback pushSucceeds =>
    obtain ⟨mImportQueue, _, rfl⟩ := Option.map_eq_some_iff.mp hstep
    exact ⟨x.connections, held, rfl, hholding.frame rfl (fun _ => id) fun _ => ⟨rfl, id⟩⟩
  | metrics pushSucceeds => exact ⟨x.connections, held, rfl, hholding.tabulateMetrics hstep⟩
  | seedLink answer =>
    have hnotReset : x.process.main.seedLinkReset = false := by
      refine Bool.eq_false_iff.mpr fun hreset => ?_
      obtain ⟨seedLink, hpoll, _⟩ := Process.pollSEEDLink_cases hstep
      have hended := (h.joined anyClient).seedLink (Main.seedLinkJoined_of_reset hreset)
      cases hended.symm.trans (SEEDLinkClient.packetToCallback_frame hpoll).1
    obtain ⟨huses, hkept⟩ := hholding.pollSEEDLink hnotReset hstep
    exact ⟨x.connections, held, huses, hkept⟩
  | writer client answer =>
    have hnotReset : x.process.main.writerReset client = false := by
      refine Bool.eq_false_iff.mpr fun hreset => ?_
      obtain ⟨c, hc, _⟩ := Option.map_eq_some_iff.mp hstep
      have hended := (h.joined client).dataLink (writerJoined_of_writerReset hreset)
      cases hended.symm.trans (DataLinkClient.writeStep_frame (DataLinkClient.writeStep_of_runWriter hc)).1
    exact hholding.runWriter hnotReset hstep

theorem process_of_use {connections : Option (Connections n)} {x₁ : Connected n}
    (h : x.use connections = some x₁) : x₁.process = x.process := by
  obtain ⟨_, _, rfl⟩ := Option.map_eq_some_iff.mp h
  rfl

/-- What is done with the structures before a step does not change what the process does. -/
theorem Holding.process_of_uses (h : x.Holding held) {event : Process.Event n} {x₁ : Connected n}
    (huses : x.uses options address event = some x₁) : x₁.process = x.process := by
  have hsame (heq : some x = some x₁) : x₁.process = x.process := by rw [Option.some.inj heq]
  cases event with
  | callback | metrics => exact hsame huses
  | main interrupted =>
    simp only [Connected.uses, Connected.mainThread] at huses
    split at huses
    · exact process_of_use huses
    · exact process_of_use huses
    · exact process_of_use huses
    · split at huses
      · exact process_of_use huses
      · exact hsame huses
    · exact hsame huses
  | seedLink answer =>
    simp only [Connected.uses, Connected.pollSEEDLink] at huses
    split at huses
    · split at huses
      · exact process_of_use huses
      · exact hsame huses
    · exact process_of_use huses
    · split at huses
      · exact process_of_use huses
      · exact hsame huses
    · exact hsame huses
  | writer client answer =>
    simp only [Connected.uses, Connected.runWriter] at huses
    split at huses
    · exact hsame ((h.tell client).symm.trans huses)
    · exact hsame ((h.tell client).symm.trans huses)
    · exact process_of_use huses
    · split at huses
      · exact hsame huses
      · split at huses <;> exact process_of_use huses
    · exact hsame huses

/-- The process with its structures takes the steps that the process takes. -/
theorem Follows.next {p : Process n} (h : x.Follows p) (anyClient : Fin n) (event : Process.Event n) :
    Option.Rel Follows (Connected.next lib options address x event) (Process.next lib options p event) := by
  obtain rfl := h.process
  obtain ⟨held, hholding⟩ := h.holding
  cases hstep : Process.next lib options x.process event with
  | some p' =>
    obtain ⟨connections, held', huses, hholding'⟩ := h.uses anyClient hstep
    rw [Connected.next, huses, Option.bind_some, hstep]
    exact .some (h.of_step hstep ⟨held', hholding'⟩)
  | none =>
    cases huses : x.uses options address event with
    | none =>
      rw [Connected.next, huses]
      exact .none
    | some x₁ =>
      rw [Connected.next, huses, Option.bind_some, hholding.process_of_uses huses, hstep]
      exact .none

/-- A run of a process that was constructed, with its structures. -/
def run (lib : Libraries) (options : ProgramOptions) (m : Connections options.dataLinkClientOptions.length)
    (savedState : Option Nat) (events : List (Process.Event options.dataLinkClientOptions.length)) :
    Option (Connected options.dataLinkClientOptions.length) :=
  exec (Connected.next lib options.forProcess (Connections.writerAddress options))
    ⟨.construct options.forProcess savedState, m⟩ events

end Connected

end USEEDLinkToRingServer
