import USEEDLinkToRingServer.BoundedQueue
import USEEDLinkToRingServer.DataLinkPacket
import USEEDLinkToRingServer.Library.Streak

/-!
# A DataLink writer

The writer's queue, its thread, and the thread that stops it, as a machine. A step of the writer thread
is the code between two points at which another thread can be noticed, or at which an answer comes from
the DataLink server.
-/

namespace USEEDLinkToRingServer

open Machine

/-- Where `runWriter` is. In the reconnect loop it still has the intervals of a list to try. -/
inductive Writer
  | notStarted
  /-- At the test of `mKeepRunning`. -/
  | testing
  | checkingConnection
  | locking (intervals : List Nat)
  /-- Holds the mutex and evaluates the predicate of the wait. -/
  | testingTerminate (intervals : List Nat)
  /-- Holds the mutex and is about to release it and block. -/
  | blocking (intervals : List Nat)
  | blocked (intervals : List Nat) (notified : Bool)
  | connecting (intervals : List Nat)
  | recheckingConnection
  | dequeuing
  | converting (packet : Packet)
  | naming (packet : Packet) (dataLinkPackets : List DataLinkPacket)
  | writing (streamIdentifier : Str) (dataLinkPackets : List DataLinkPacket)
  | returned
  | threw (exception : Exception)

/-- A packet is in work. -/
def Writer.packetInWork : Writer → Bool
  | .converting _ | .naming _ _ | .writing _ _ => true
  | _ => false

/-- The thread has ended. -/
def Writer.ended : Writer → Bool
  | .returned | .threw _ => true
  | _ => false

/-- Where a call of `stop` is. -/
inductive Stopping
  | idle
  | clearedKeepRunning
  | requestedTerminate
deriving DecidableEq, Repr

/-- A call of `dl_write`, with the number of packets that had been dequeued. -/
structure WriteCall where
  ordinal : Nat
  streamIdentifier : Str
  dataLinkPacket : DataLinkPacket
  returnCode : Int
deriving DecidableEq, Repr

/-- What the environment answers in a step of the writer. -/
structure Answer where
  /-- Of `dl_connect` or `dl_write`. -/
  returnCode : Int := 0
  /-- The link is up after a `dl_write`. -/
  linkUp : Bool := true
  /-- The wait ends because its time is over. -/
  timedOut : Bool := false
deriving DecidableEq, Repr

/-- The writer's failure counter, its metrics and what it did. -/
structure WriterLog where
  consecutiveWriteFailures : Nat := 0
  packetsWritten : Nat := 0
  failedPacketsSent : Nat := 0
  invalidPackets : Nat := 0
  /-- The `dl_write` calls so far. -/
  calls : List WriteCall := []
  /-- The packets counted as invalid, as the number of packets dequeued by then. -/
  invalid : List Nat := []
deriving DecidableEq, Repr

namespace WriterLog

def written (log : WriterLog) (call : WriteCall) : WriterLog :=
  { log with
    calls := log.calls ++ [call]
    packetsWritten := log.packetsWritten + 1
    consecutiveWriteFailures := 0 }

def failedToWrite (log : WriterLog) (call : WriteCall) : WriterLog :=
  { log with
    calls := log.calls ++ [call]
    consecutiveWriteFailures := log.consecutiveWriteFailures + 1
    failedPacketsSent := log.failedPacketsSent + 1 }

def countedInvalid (log : WriterLog) (ordinal : Nat) : WriterLog :=
  { log with
    invalidPackets := log.invalidPackets + 1
    invalid := log.invalid ++ [ordinal] }

end WriterLog

structure DataLinkClient where
  queue : BoundedQueue Packet := {}
  mKeepRunning : Bool := true
  mTerminateRequested : Bool := false
  stopping : Stopping := .idle
  writer : Writer := .notStarted
  /-- There is a connection structure and its link is up. -/
  isConnected : Bool := true
  log : WriterLog := {}

/-- The options a writer is configured with. -/
structure WriterOptions where
  packing : PackingOptions := {}
  mMaximumInternalQueueSize : Nat := 8192
deriving DecidableEq, Repr

namespace DataLinkClient

/-- The seconds to wait before each attempt to reconnect. -/
def mReconnectInterval : List Nat := [0, 5, 30, 60]

/-- The next turn of the reconnect loop. -/
def reconnect (intervals : List Nat) : Writer :=
  if intervals.isEmpty then .recheckingConnection else .locking intervals

def couldNotReconnect : Exception :=
  .runtimeError ("Could not reconnect after " ++ Nat.repr mReconnectInterval.length ++ " attempts")

def tooManyConsecutiveWriteFailures : Exception := .runtimeError "Too many consecutive write failures"

/-- The stream name of a packet. -/
def streamName (packet : Packet) : Except Exception Str := do
  let streamIdentifierReference ← packet.getStreamIdentifierReference
  toDataLinkIdentifier streamIdentifierReference

section

variable (lib : Libmseed) (options : WriterOptions) (c : DataLinkClient)

/-- The packet in work is counted as invalid and left. -/
def countInvalid : DataLinkClient :=
  { c with writer := .testing, log := c.log.countedInvalid c.queue.obtained.length }

/-- A call of `dl_write` and what follows from its return code. -/
def dlWrite (streamIdentifier : Str) (dataLinkPacket : DataLinkPacket) (rest : List DataLinkPacket)
    (answer : Answer) : DataLinkClient :=
  let call : WriteCall :=
    { ordinal := c.queue.obtained.length
      streamIdentifier
      dataLinkPacket
      returnCode := answer.returnCode }
  let isConnected := c.isConnected && answer.linkUp
  if answer.returnCode < 0 then
    let log := c.log.failedToWrite call
    if log.consecutiveWriteFailures ≥ 32 then
      { c with log, isConnected := false, writer := .threw tooManyConsecutiveWriteFailures }
    else { c with log, isConnected, writer := .writing streamIdentifier rest }
  else { c with log := c.log.written call, isConnected, writer := .writing streamIdentifier rest }

/-- One step of `runWriter`. -/
def runWriter (answer : Answer) : Option DataLinkClient :=
  match c.writer with
  | .notStarted | .returned | .threw _ => none
  | .testing => some { c with writer := if c.mKeepRunning then .checkingConnection else .returned }
  | .checkingConnection =>
    some { c with writer := if c.isConnected then .dequeuing else reconnect mReconnectInterval }
  | .locking intervals => some { c with writer := .testingTerminate intervals }
  | .testingTerminate intervals =>
    some { c with
      writer := if c.mTerminateRequested then .connecting intervals else .blocking intervals }
  | .blocking intervals => some { c with writer := .blocked intervals false }
  | .blocked intervals _ =>
    some { c with writer := if answer.timedOut then .connecting intervals else .testingTerminate intervals }
  | .connecting intervals =>
    if answer.returnCode < 0 then
      some { c with isConnected := false, writer := reconnect intervals.tail }
    else some { c with isConnected := true, writer := .recheckingConnection }
  | .recheckingConnection =>
    some { c with writer := if c.isConnected then .dequeuing else .threw couldNotReconnect }
  | .dequeuing =>
    match c.queue.take with
    | none => some { c with writer := .testing }
    | some (packet, queue) => some { c with queue, writer := .converting packet }
  | .converting packet =>
    match toDataLinkPackets lib packet options.packing with
    | .error _ => some c.countInvalid
    | .ok dataLinkPackets => some { c with writer := .naming packet dataLinkPackets }
  | .naming packet dataLinkPackets =>
    match streamName packet with
    | .error _ => some c.countInvalid
    | .ok streamIdentifier => some { c with writer := .writing streamIdentifier dataLinkPackets }
  | .writing _ [] => some { c with writer := .testing }
  | .writing streamIdentifier (dataLinkPacket :: rest) =>
    if dataLinkPacket.data.isEmpty then some { c with writer := .writing streamIdentifier rest }
    else some (c.dlWrite streamIdentifier dataLinkPacket rest answer)

/-- One step of a call of `stop`. The notification reaches the writer only if it is blocked. -/
def stop : DataLinkClient :=
  match c.stopping with
  | .idle => { c with mKeepRunning := false, stopping := .clearedKeepRunning }
  | .clearedKeepRunning => { c with mTerminateRequested := true, stopping := .requestedTerminate }
  | .requestedTerminate =>
    { c with
      stopping := .idle
      writer :=
        match c.writer with
        | .blocked intervals _ => .blocked intervals true
        | writer => writer }

/-- `start` calls `stop` before there is a thread to notice it, sets the flags and launches the thread. -/
def start : Option DataLinkClient :=
  match c.writer, c.stopping with
  | .notStarted, .idle =>
    some { c with mKeepRunning := true, mTerminateRequested := false, writer := .testing }
  | _, _ => none

/-- The destructor: `stop`, and the connection is closed and freed. -/
def destroy : DataLinkClient :=
  { c with mKeepRunning := false, mTerminateRequested := true, isConnected := false }

/-- The producer is handed a packet. -/
def enqueue (packet : Packet) : Option DataLinkClient :=
  (c.queue.call packet).map fun queue => { c with queue }

def produce (pushSucceeds : Bool) : Option DataLinkClient :=
  (c.queue.produce (USEEDLinkToRingServer.enqueue options.mMaximumInternalQueueSize) pushSucceeds).map
    fun queue => { c with queue }

end

inductive Event
  | start
  | enqueue (packet : Packet)
  | produce (pushSucceeds : Bool)
  | stop
  | write (answer : Answer)

/-- A step of the component: of the writer, of the producer of its queue or of the thread that starts
and stops it. -/
def next (lib : Libmseed) (options : WriterOptions) (c : DataLinkClient) : Event → Option DataLinkClient
  | .start => c.start
  | .enqueue packet => c.enqueue packet
  | .produce pushSucceeds => c.produce options pushSucceeds
  | .stop => some c.stop
  | .write answer => c.runWriter lib options answer

/-- The stream name and the records that a packet is written as: those that are not empty, and none if
the packet cannot be converted or named. -/
def writes (lib : Libmseed) (options : WriterOptions) (packet : Packet) :
    List (Str × DataLinkPacket) :=
  match toDataLinkPackets lib packet options.packing, streamName packet with
  | .ok dataLinkPackets, .ok streamIdentifier =>
    (dataLinkPackets.filter (!·.data.isEmpty)).map (streamIdentifier, ·)
  | _, _ => []

/-! ### What the steps do -/

/-- Everything a step of the writer does. -/
inductive WriteStep (lib : Libmseed) (options : WriterOptions) (c : DataLinkClient) :
    DataLinkClient → Prop
  /-- Control moves while no packet is in work. -/
  | moved (writer : Writer) (isConnected : Bool) :
      c.writer.packetInWork = false → writer.packetInWork = false → c.writer.ended = false →
      (writer = .returned → c.writer = .testing ∧ c.mKeepRunning = false) →
      (∀ exception, writer = .threw exception → exception = couldNotReconnect) →
      WriteStep lib options c { c with writer, isConnected }
  | took (packet : Packet) (queue : BoundedQueue Packet) :
      c.writer = .dequeuing → c.queue.take = some (packet, queue) →
      WriteStep lib options c { c with queue, writer := .converting packet }
  | refused (packet : Packet) (exception : Exception) :
      c.writer = .converting packet →
      toDataLinkPackets lib packet options.packing = .error exception →
      WriteStep lib options c c.countInvalid
  | converted (packet : Packet) (dataLinkPackets : List DataLinkPacket) :
      c.writer = .converting packet →
      toDataLinkPackets lib packet options.packing = .ok dataLinkPackets →
      WriteStep lib options c { c with writer := .naming packet dataLinkPackets }
  | unnamed (packet : Packet) (dataLinkPackets : List DataLinkPacket) (exception : Exception) :
      c.writer = .naming packet dataLinkPackets → streamName packet = .error exception →
      WriteStep lib options c c.countInvalid
  | named (packet : Packet) (dataLinkPackets : List DataLinkPacket) (streamIdentifier : Str) :
      c.writer = .naming packet dataLinkPackets → streamName packet = .ok streamIdentifier →
      WriteStep lib options c { c with writer := .writing streamIdentifier dataLinkPackets }
  | finished (streamIdentifier : Str) :
      c.writer = .writing streamIdentifier [] → WriteStep lib options c { c with writer := .testing }
  | skipped (streamIdentifier : Str) (dataLinkPacket : DataLinkPacket) (rest : List DataLinkPacket) :
      c.writer = .writing streamIdentifier (dataLinkPacket :: rest) → dataLinkPacket.data = [] →
      WriteStep lib options c { c with writer := .writing streamIdentifier rest }
  | wrote (streamIdentifier : Str) (dataLinkPacket : DataLinkPacket) (rest : List DataLinkPacket)
      (answer : Answer) :
      c.writer = .writing streamIdentifier (dataLinkPacket :: rest) → dataLinkPacket.data ≠ [] →
      WriteStep lib options c (c.dlWrite streamIdentifier dataLinkPacket rest answer)

section

variable {lib : Libmseed} {options : WriterOptions} {c c' : DataLinkClient}

/-- A step that moves control to a place with no packet in work and does not leave. -/
theorem writeStep_moved {writer : Writer} (isConnected : Bool) (hfrom : c.writer.packetInWork = false)
    (hrunning : c.writer.ended = false) (hto : writer.packetInWork = false)
    (hstays : writer.ended = false) :
    WriteStep lib options c { c with writer, isConnected } := by
  refine .moved writer isConnected hfrom hto hrunning ?_ ?_
  · rintro rfl
    cases hstays
  · rintro exception rfl
    cases hstays

theorem reconnect_stays (intervals : List Nat) :
    (reconnect intervals).packetInWork = false ∧ (reconnect intervals).ended = false := by
  unfold reconnect
  split <;> exact ⟨rfl, rfl⟩

theorem writeStep_of_runWriter {answer : Answer} (h : c.runWriter lib options answer = some c') :
    WriteStep lib options c c' := by
  unfold runWriter at h
  cases hwriter : c.writer with
  | notStarted | returned | threw exception => simp [hwriter] at h
  | testing =>
    simp only [hwriter] at h
    obtain rfl := Option.some.inj h
    refine .moved _ c.isConnected (by rw [hwriter]; rfl) ?_ (by rw [hwriter]; rfl) ?_ ?_
    · split <;> rfl
    · intro hreturned
      refine ⟨hwriter, ?_⟩
      split at hreturned
      · cases hreturned
      · next hclear => simpa using hclear
    · intro exception hthrew
      split at hthrew <;> cases hthrew
  | checkingConnection =>
    simp only [hwriter] at h
    obtain rfl := Option.some.inj h
    refine writeStep_moved c.isConnected (by rw [hwriter]; rfl) (by rw [hwriter]; rfl) ?_ ?_ <;> split
    · rfl
    · exact (reconnect_stays _).1
    · rfl
    · exact (reconnect_stays _).2
  | locking intervals | blocking intervals =>
    simp only [hwriter] at h
    obtain rfl := Option.some.inj h
    exact writeStep_moved c.isConnected (by rw [hwriter]; rfl) (by rw [hwriter]; rfl) rfl rfl
  | testingTerminate intervals | blocked intervals notified =>
    simp only [hwriter] at h
    obtain rfl := Option.some.inj h
    refine writeStep_moved c.isConnected (by rw [hwriter]; rfl) (by rw [hwriter]; rfl) ?_ ?_ <;>
      split <;> rfl
  | connecting intervals =>
    simp only [hwriter] at h
    split at h <;> obtain rfl := Option.some.inj h
    · exact writeStep_moved false (by rw [hwriter]; rfl) (by rw [hwriter]; rfl) (reconnect_stays _).1
        (reconnect_stays _).2
    · exact writeStep_moved true (by rw [hwriter]; rfl) (by rw [hwriter]; rfl) rfl rfl
  | recheckingConnection =>
    simp only [hwriter] at h
    obtain rfl := Option.some.inj h
    refine .moved _ c.isConnected (by rw [hwriter]; rfl) ?_ (by rw [hwriter]; rfl) ?_ ?_
    · split <;> rfl
    · intro hreturned
      split at hreturned <;> cases hreturned
    · intro exception hthrew
      split at hthrew
      · cases hthrew
      · exact (Writer.threw.inj hthrew).symm
  | dequeuing =>
    simp only [hwriter] at h
    split at h <;> obtain rfl := Option.some.inj h
    · exact writeStep_moved c.isConnected (by rw [hwriter]; rfl) (by rw [hwriter]; rfl) rfl rfl
    · next packet queue htake => exact .took packet queue hwriter htake
  | converting packet =>
    simp only [hwriter] at h
    split at h <;> obtain rfl := Option.some.inj h
    · next exception herror => exact .refused packet exception hwriter herror
    · next dataLinkPackets hok => exact .converted packet dataLinkPackets hwriter hok
  | naming packet dataLinkPackets =>
    simp only [hwriter] at h
    split at h <;> obtain rfl := Option.some.inj h
    · next exception herror => exact .unnamed packet dataLinkPackets exception hwriter herror
    · next streamIdentifier hok => exact .named packet dataLinkPackets streamIdentifier hwriter hok
  | writing streamIdentifier dataLinkPackets =>
    cases dataLinkPackets with
    | nil =>
      simp only [hwriter] at h
      obtain rfl := Option.some.inj h
      exact .finished streamIdentifier hwriter
    | cons dataLinkPacket rest =>
      simp only [hwriter] at h
      split at h <;> obtain rfl := Option.some.inj h
      · next hempty =>
        exact .skipped streamIdentifier dataLinkPacket rest hwriter (List.isEmpty_iff.mp hempty)
      · next hnonempty =>
        exact .wrote streamIdentifier dataLinkPacket rest answer hwriter
          (fun hnil => hnonempty (List.isEmpty_iff.mpr hnil))

/-- Everything a step of another thread does: it leaves what the writer did and the packet in work
alone, and takes nothing from the consumer's side of the queue. -/
structure OtherStep (c c' : DataLinkClient) : Prop where
  log : c'.log = c.log
  obtained : c'.queue.obtained = c.queue.obtained
  writer : c'.writer = c.writer ∨ c.writer.packetInWork = false ∧ c'.writer.packetInWork = false ∧
    c.writer.ended = false ∧ c'.writer.ended = false

/-- A step of the thread that starts, stops and destroys the writer. Nothing moves in the queue. -/
structure ControlStep (c c' : DataLinkClient) : Prop extends OtherStep c c' where
  queue : c'.queue = c.queue

theorem ControlStep.refl (c : DataLinkClient) : ControlStep c c := ⟨⟨rfl, rfl, Or.inl rfl⟩, rfl⟩

theorem controlStep_start (h : c.start = some c') : ControlStep c c' := by
  unfold start at h
  split at h
  · next hnotStarted _ =>
    obtain rfl := Option.some.inj h
    exact ⟨⟨rfl, rfl, Or.inr (by rw [hnotStarted]; exact ⟨rfl, rfl, rfl, rfl⟩)⟩, rfl⟩
  · cases h

theorem controlStep_stop : ControlStep c c.stop := by
  unfold stop
  split
  · exact ⟨⟨rfl, rfl, Or.inl rfl⟩, rfl⟩
  · exact ⟨⟨rfl, rfl, Or.inl rfl⟩, rfl⟩
  · refine ⟨⟨rfl, rfl, ?_⟩, rfl⟩
    dsimp only
    split
    · next hblocked => exact Or.inr (by rw [hblocked]; exact ⟨rfl, rfl, rfl, rfl⟩)
    · exact Or.inl rfl

theorem controlStep_destroy : ControlStep c c.destroy := ⟨⟨rfl, rfl, Or.inl rfl⟩, rfl⟩

theorem otherStep_of_next {event : Event} (hother : ∀ answer, event ≠ .write answer)
    (h : next lib options c event = some c') : OtherStep c c' := by
  cases event with
  | write answer => exact absurd rfl (hother answer)
  | stop =>
    obtain rfl := Option.some.inj h
    exact controlStep_stop.toOtherStep
  | start => exact (controlStep_start h).toOtherStep
  | enqueue packet =>
    obtain ⟨queue, hqueue, rfl⟩ := Option.map_eq_some_iff.mp h
    obtain ⟨_, rfl⟩ := BoundedQueue.call_eq_some.mp hqueue
    exact ⟨rfl, rfl, Or.inl rfl⟩
  | produce pushSucceeds =>
    obtain ⟨queue, hqueue, rfl⟩ := Option.map_eq_some_iff.mp h
    exact ⟨rfl, (BoundedQueue.produce_frame hqueue).2, Or.inl rfl⟩

theorem next_cases {event : Event} (h : next lib options c event = some c') :
    WriteStep lib options c c' ∨ OtherStep c c' := by
  cases event with
  | write answer => exact Or.inl (writeStep_of_runWriter h)
  | start | enqueue _ | produce _ | stop => exact Or.inr (otherStep_of_next (fun _ heq => by cases heq) h)

/-- The two ends of a `dl_write`. -/
theorem dlWrite_cases (streamIdentifier : Str) (dataLinkPacket : DataLinkPacket)
    (rest : List DataLinkPacket) (answer : Answer) :
    ∃ call isConnected, call = ⟨c.queue.obtained.length, streamIdentifier, dataLinkPacket,
        answer.returnCode⟩ ∧
      ((call.returnCode < 0 ∧ 32 ≤ c.log.consecutiveWriteFailures + 1 ∧
          c.dlWrite streamIdentifier dataLinkPacket rest answer =
            { c with
              log := c.log.failedToWrite call
              isConnected
              writer := .threw tooManyConsecutiveWriteFailures }) ∨
        (call.returnCode < 0 ∧ c.log.consecutiveWriteFailures + 1 < 32 ∧
          c.dlWrite streamIdentifier dataLinkPacket rest answer =
            { c with
              log := c.log.failedToWrite call
              isConnected
              writer := .writing streamIdentifier rest }) ∨
        (0 ≤ call.returnCode ∧
          c.dlWrite streamIdentifier dataLinkPacket rest answer =
            { c with
              log := c.log.written call
              isConnected
              writer := .writing streamIdentifier rest })) := by
  unfold dlWrite
  dsimp only
  split
  · next hfailed =>
    split
    · next hmany => exact ⟨_, _, rfl, Or.inl ⟨hfailed, hmany, rfl⟩⟩
    · next hfew => exact ⟨_, _, rfl, Or.inr (Or.inl ⟨hfailed, not_le.mp hfew, rfl⟩)⟩
  · next hwritten => exact ⟨_, _, rfl, Or.inr (Or.inr ⟨not_lt.mp hwritten, rfl⟩)⟩

/-- A `dl_write` is the last call of the log, with its return code. -/
theorem dlWrite_calls (streamIdentifier : Str) (dataLinkPacket : DataLinkPacket) (rest : List DataLinkPacket)
    (answer : Answer) :
    ∃ call, call.returnCode = answer.returnCode ∧
      (c.dlWrite streamIdentifier dataLinkPacket rest answer).log.calls = c.log.calls ++ [call] := by
  obtain ⟨call, _, hcall, ⟨_, _, heq⟩ | ⟨_, _, heq⟩ | ⟨_, heq⟩⟩ :=
    dlWrite_cases (c := c) streamIdentifier dataLinkPacket rest answer
  all_goals
    refine ⟨call, by rw [hcall], ?_⟩
    rw [heq]
    rfl

theorem dlWrite_frame (streamIdentifier : Str) (dataLinkPacket : DataLinkPacket)
    (rest : List DataLinkPacket) (answer : Answer) :
    (c.dlWrite streamIdentifier dataLinkPacket rest answer).queue = c.queue ∧
      (c.dlWrite streamIdentifier dataLinkPacket rest answer).mKeepRunning = c.mKeepRunning ∧
      (c.dlWrite streamIdentifier dataLinkPacket rest answer).writer ≠ .returned := by
  obtain ⟨_, _, _, ⟨_, _, heq⟩ | ⟨_, _, heq⟩ | ⟨_, heq⟩⟩ :=
    dlWrite_cases (c := c) streamIdentifier dataLinkPacket rest answer
  all_goals
    rw [heq]
    exact ⟨rfl, rfl, nofun⟩

/-- All that the writer does to its queue is to take the oldest packet. -/
theorem writeStep_queue (h : WriteStep lib options c c') :
    c'.queue = c.queue ∨
      ∃ packet, c.writer = .dequeuing ∧ c.queue.take = some (packet, c'.queue) := by
  cases h with
  | took packet queue hdequeuing htake => exact Or.inr ⟨packet, hdequeuing, htake⟩
  | wrote => exact Or.inl (dlWrite_frame _ _ _ _).1
  | _ => exact Or.inl rfl

/-- The writer hands nothing to its queue and is not its producer. -/
theorem writeStep_queue_frame (h : WriteStep lib options c c') :
    c'.queue.handedIn = c.queue.handedIn ∧ c'.queue.producer = c.queue.producer ∧
      Reaches LossyFifo.next c.queue.toFifo c'.queue.toFifo := by
  rcases writeStep_queue h with hqueue | ⟨packet, _, htake⟩
  · rw [hqueue]
    exact ⟨rfl, rfl, .refl _⟩
  · have hfifo := BoundedQueue.take_toFifo htake
    obtain ⟨_, _, hqueue⟩ := BoundedQueue.take_eq_some.mp htake
    rw [hqueue] at hfifo ⊢
    exact ⟨rfl, rfl, hfifo⟩

/-- The thread takes a step only while it has not ended, leaves the flag alone, and returns only at the
test of the flag. -/
theorem writeStep_frame (h : WriteStep lib options c c') :
    c.writer.ended = false ∧ c'.mKeepRunning = c.mKeepRunning ∧
      (c'.writer = .returned → c.writer = .testing ∧ c.mKeepRunning = false ∧ c'.queue = c.queue) := by
  cases h with
  | moved writer isConnected _ _ hrunning hreturned _ =>
    exact ⟨hrunning, rfl, fun h => ⟨(hreturned h).1, (hreturned h).2, rfl⟩⟩
  | wrote streamIdentifier dataLinkPacket rest answer hwriting _ =>
    obtain ⟨_, hkeep, hnotReturned⟩ := dlWrite_frame (c := c) streamIdentifier dataLinkPacket rest answer
    exact ⟨by rw [hwriting]; rfl, hkeep, fun h => absurd h hnotReturned⟩
  | took _ _ hwriter | refused _ _ hwriter | converted _ _ hwriter | unnamed _ _ _ hwriter
  | named _ _ _ hwriter | finished _ hwriter | skipped _ _ _ hwriter =>
    exact ⟨by rw [hwriter]; rfl, rfl, nofun⟩

end

end DataLinkClient

end USEEDLinkToRingServer
