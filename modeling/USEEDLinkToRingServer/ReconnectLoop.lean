import USEEDLinkToRingServer.DataLinkClient

/-!
# The reconnect loop

Where each step of the writer leads, with what decides it: the flags of `stop`, the answers of the server
and the failures so far.
-/

namespace USEEDLinkToRingServer

/-- The writer is in the reconnect loop. -/
def Writer.reconnecting : Writer → Bool
  | .locking _ | .testingTerminate _ | .blocking _ | .blocked _ _ | .connecting _ => true
  | _ => false

namespace DataLinkClient

/-- A step of the writer to a place, and whether there is a connection then. -/
inductive PlaceStep (c : DataLinkClient) (answer : Answer) : Writer → Bool → Prop
  | returned : c.writer = .testing → c.mKeepRunning = false →
      PlaceStep c answer .returned c.isConnected
  | entered : c.writer = .testing → c.mKeepRunning = true →
      PlaceStep c answer .checkingConnection c.isConnected
  | connected : c.writer = .checkingConnection → c.isConnected = true →
      PlaceStep c answer .dequeuing c.isConnected
  | disconnected : c.writer = .checkingConnection → c.isConnected = false →
      PlaceStep c answer (reconnect mReconnectInterval) c.isConnected
  | locked (intervals : List Nat) : c.writer = .locking intervals →
      PlaceStep c answer (.testingTerminate intervals) c.isConnected
  | skipped (intervals : List Nat) : c.writer = .testingTerminate intervals →
      c.mTerminateRequested = true → PlaceStep c answer (.connecting intervals) c.isConnected
  | waits (intervals : List Nat) : c.writer = .testingTerminate intervals →
      c.mTerminateRequested = false → PlaceStep c answer (.blocking intervals) c.isConnected
  | blocked (intervals : List Nat) : c.writer = .blocking intervals →
      PlaceStep c answer (.blocked intervals false) c.isConnected
  | woke (intervals : List Nat) (notified : Bool) : c.writer = .blocked intervals notified →
      PlaceStep c answer (.testingTerminate intervals) c.isConnected
  | timedOut (intervals : List Nat) (notified : Bool) : c.writer = .blocked intervals notified →
      PlaceStep c answer (.connecting intervals) c.isConnected
  | failed (intervals : List Nat) : c.writer = .connecting intervals → answer.returnCode < 0 →
      PlaceStep c answer (reconnect intervals.tail) false
  | reconnected (intervals : List Nat) : c.writer = .connecting intervals → 0 ≤ answer.returnCode →
      PlaceStep c answer .recheckingConnection true
  | resumed : c.writer = .recheckingConnection → c.isConnected = true →
      PlaceStep c answer .dequeuing c.isConnected
  | gaveUp : c.writer = .recheckingConnection → c.isConnected = false →
      PlaceStep c answer (.threw couldNotReconnect) c.isConnected
  | foundNothing : c.writer = .dequeuing → PlaceStep c answer .testing c.isConnected
  | took (packet : Packet) : c.writer = .dequeuing →
      PlaceStep c answer (.converting packet) c.isConnected
  | left : c.writer.packetInWork = true →
      (∀ streamIdentifier dataLinkPacket rest, c.writer ≠ .writing streamIdentifier (dataLinkPacket :: rest)) →
      PlaceStep c answer .testing c.isConnected
  | converted (packet : Packet) (dataLinkPackets : List DataLinkPacket) :
      c.writer = .converting packet → PlaceStep c answer (.naming packet dataLinkPackets) c.isConnected
  | named (packet : Packet) (dataLinkPackets : List DataLinkPacket) (streamIdentifier : Str) :
      c.writer = .naming packet dataLinkPackets →
      PlaceStep c answer (.writing streamIdentifier dataLinkPackets) c.isConnected
  | wrote (streamIdentifier : Str) (dataLinkPacket : DataLinkPacket) (rest : List DataLinkPacket)
      (isConnected : Bool) : c.writer = .writing streamIdentifier (dataLinkPacket :: rest) →
      (dataLinkPacket.data ≠ [] → answer.returnCode < 0 → c.log.consecutiveWriteFailures + 1 < 32) →
      PlaceStep c answer (.writing streamIdentifier rest) isConnected
  | killed (streamIdentifier : Str) (dataLinkPacket : DataLinkPacket) (rest : List DataLinkPacket) :
      c.writer = .writing streamIdentifier (dataLinkPacket :: rest) → dataLinkPacket.data ≠ [] →
      answer.returnCode < 0 → 32 ≤ c.log.consecutiveWriteFailures + 1 →
      PlaceStep c answer (.threw tooManyConsecutiveWriteFailures) false

variable {lib : Libmseed} {options : WriterOptions} {c c' : DataLinkClient} {answer : Answer}

theorem placeStep_dlWrite {streamIdentifier : Str} {dataLinkPacket : DataLinkPacket}
    {rest : List DataLinkPacket} (hwriter : c.writer = .writing streamIdentifier (dataLinkPacket :: rest))
    (hdata : dataLinkPacket.data ≠ []) (h : c.dlWrite streamIdentifier dataLinkPacket rest answer = c') :
    PlaceStep c answer c'.writer c'.isConnected ∧ c'.mKeepRunning = c.mKeepRunning ∧
      c'.mTerminateRequested = c.mTerminateRequested ∧ c'.stopping = c.stopping := by
  unfold dlWrite at h
  dsimp only at h
  split at h
  · next hfailed =>
    split at h <;> subst h
    · next hmany => exact ⟨.killed _ _ _ hwriter hdata hfailed hmany, rfl, rfl, rfl⟩
    · next hfew => exact ⟨.wrote _ _ _ _ hwriter fun _ _ => not_le.mp hfew, rfl, rfl, rfl⟩
  · next hwritten =>
    subst h
    exact ⟨.wrote _ _ _ _ hwriter fun _ hfailed => absurd hfailed hwritten, rfl, rfl, rfl⟩

/-- The writer takes one of these steps and leaves the flags alone. -/
theorem placeStep_of_runWriter (h : c.runWriter lib options answer = some c') :
    PlaceStep c answer c'.writer c'.isConnected ∧ c'.mKeepRunning = c.mKeepRunning ∧
      c'.mTerminateRequested = c.mTerminateRequested ∧ c'.stopping = c.stopping := by
  unfold runWriter at h
  cases hwriter : c.writer with
  | notStarted | returned | threw exception => simp [hwriter] at h
  | testing =>
    simp only [hwriter] at h
    obtain rfl := Option.some.inj h
    refine ⟨?_, rfl, rfl, rfl⟩
    cases hkeep : c.mKeepRunning
    · exact .returned hwriter hkeep
    · exact .entered hwriter hkeep
  | checkingConnection =>
    simp only [hwriter] at h
    obtain rfl := Option.some.inj h
    refine ⟨?_, rfl, rfl, rfl⟩
    dsimp only
    split
    · next hconnected => exact .connected hwriter hconnected
    · next hdisconnected => exact .disconnected hwriter (Bool.eq_false_iff.mpr hdisconnected)
  | locking intervals =>
    simp only [hwriter] at h
    obtain rfl := Option.some.inj h
    exact ⟨.locked intervals hwriter, rfl, rfl, rfl⟩
  | testingTerminate intervals =>
    simp only [hwriter] at h
    obtain rfl := Option.some.inj h
    refine ⟨?_, rfl, rfl, rfl⟩
    dsimp only
    split
    · next hset => exact .skipped intervals hwriter hset
    · next hclear => exact .waits intervals hwriter (Bool.eq_false_iff.mpr hclear)
  | blocking intervals =>
    simp only [hwriter] at h
    obtain rfl := Option.some.inj h
    exact ⟨.blocked intervals hwriter, rfl, rfl, rfl⟩
  | blocked intervals notified =>
    simp only [hwriter] at h
    obtain rfl := Option.some.inj h
    refine ⟨?_, rfl, rfl, rfl⟩
    dsimp only
    split
    · exact .timedOut intervals notified hwriter
    · exact .woke intervals notified hwriter
  | connecting intervals =>
    simp only [hwriter] at h
    split at h <;> obtain rfl := Option.some.inj h
    · next hfailed => exact ⟨.failed intervals hwriter hfailed, rfl, rfl, rfl⟩
    · next hconnected => exact ⟨.reconnected intervals hwriter (not_lt.mp hconnected), rfl, rfl, rfl⟩
  | recheckingConnection =>
    simp only [hwriter] at h
    obtain rfl := Option.some.inj h
    refine ⟨?_, rfl, rfl, rfl⟩
    dsimp only
    split
    · next hconnected => exact .resumed hwriter hconnected
    · next hdisconnected => exact .gaveUp hwriter (Bool.eq_false_iff.mpr hdisconnected)
  | dequeuing =>
    simp only [hwriter] at h
    split at h <;> obtain rfl := Option.some.inj h
    · exact ⟨.foundNothing hwriter, rfl, rfl, rfl⟩
    · exact ⟨.took _ hwriter, rfl, rfl, rfl⟩
  | converting packet =>
    simp only [hwriter] at h
    split at h <;> obtain rfl := Option.some.inj h
    · exact ⟨.left (by rw [hwriter]; rfl) (by rw [hwriter]; nofun), rfl, rfl, rfl⟩
    · exact ⟨.converted packet _ hwriter, rfl, rfl, rfl⟩
  | naming packet dataLinkPackets =>
    simp only [hwriter] at h
    split at h <;> obtain rfl := Option.some.inj h
    · exact ⟨.left (by rw [hwriter]; rfl) (by rw [hwriter]; nofun), rfl, rfl, rfl⟩
    · exact ⟨.named packet dataLinkPackets _ hwriter, rfl, rfl, rfl⟩
  | writing streamIdentifier dataLinkPackets =>
    cases dataLinkPackets with
    | nil =>
      simp only [hwriter] at h
      obtain rfl := Option.some.inj h
      exact ⟨.left (by rw [hwriter]; rfl) (by rw [hwriter]; nofun), rfl, rfl, rfl⟩
    | cons dataLinkPacket rest =>
      simp only [hwriter] at h
      split at h
      · next hempty =>
        obtain rfl := Option.some.inj h
        refine ⟨.wrote _ _ _ _ hwriter fun hdata => ?_, rfl, rfl, rfl⟩
        exact absurd (List.isEmpty_iff.mp hempty) hdata
      · next hnonempty =>
        exact placeStep_dlWrite hwriter (fun hnil => hnonempty (List.isEmpty_iff.mpr hnil))
          (Option.some.inj h)

/-- A step of another thread than a started writer moves the writer only by a notification. It may set the
flags of `stop`, and does not clear them. -/
structure AsideStep (c c' : DataLinkClient) : Prop where
  writer : c'.writer = c.writer ∨
    ∃ intervals notified, c.writer = .blocked intervals notified ∧ c'.writer = .blocked intervals true
  isConnected : c'.isConnected = c.isConnected
  mKeepRunning : c.mKeepRunning = false → c'.mKeepRunning = false
  mTerminateRequested : c.mTerminateRequested = true → c'.mTerminateRequested = true

theorem AsideStep.refl : AsideStep c c := ⟨.inl rfl, rfl, id, id⟩

theorem asideStep_queue (queue : BoundedQueue Packet) : AsideStep c { c with queue } :=
  ⟨.inl rfl, rfl, id, id⟩

theorem asideStep_stop : AsideStep c c.stop := by
  unfold stop
  split
  · exact ⟨.inl rfl, rfl, fun _ => rfl, id⟩
  · exact ⟨.inl rfl, rfl, id, fun _ => rfl⟩
  · refine ⟨?_, rfl, id, id⟩
    dsimp only
    split
    · next intervals notified hblocked => exact .inr ⟨intervals, notified, hblocked, rfl⟩
    · exact .inl rfl

theorem start_eq_none (hstarted : c.writer ≠ .notStarted) : c.start = none := by
  unfold start
  split
  · next hnotStarted _ => exact absurd hnotStarted hstarted
  · rfl

theorem asideStep_of_next {event : Event} (hstarted : c.writer ≠ .notStarted)
    (haside : ∀ answer, event ≠ .write answer) (h : next lib options c event = some c') :
    AsideStep c c' := by
  cases event with
  | write answer => exact absurd rfl (haside answer)
  | stop =>
    obtain rfl := Option.some.inj h
    exact asideStep_stop
  | start =>
    rw [next, start_eq_none hstarted] at h
    cases h
  | enqueue packet =>
    obtain ⟨queue, _, rfl⟩ := Option.map_eq_some_iff.mp h
    exact asideStep_queue queue
  | produce pushSucceeds =>
    obtain ⟨queue, _, rfl⟩ := Option.map_eq_some_iff.mp h
    exact asideStep_queue queue

/-- A step is of the writer or aside. -/
theorem step_cases {event : Event} (hstarted : c.writer ≠ .notStarted)
    (h : next lib options c event = some c') :
    (∃ answer, event = .write answer ∧ c.runWriter lib options answer = some c') ∨
      (∀ answer, event ≠ .write answer) ∧ AsideStep c c' := by
  by_cases hwrite : ∃ answer, event = .write answer
  · obtain ⟨answer, rfl⟩ := hwrite
    exact .inl ⟨answer, rfl, h⟩
  · have haside : ∀ answer, event ≠ .write answer := fun answer heq => hwrite ⟨answer, heq⟩
    exact .inr ⟨haside, asideStep_of_next hstarted haside h⟩

theorem PlaceStep.started {writer : Writer} {isConnected : Bool}
    (h : PlaceStep c answer writer isConnected) : writer ≠ .notStarted := by
  cases h with
  | disconnected | failed =>
    unfold reconnect
    split <;> nofun
  | _ => nofun

theorem AsideStep.started (h : AsideStep c c') (hstarted : c.writer ≠ .notStarted) :
    c'.writer ≠ .notStarted := by
  rcases h.writer with heq | ⟨_, _, _, heq⟩
  · rw [heq]
    exact hstarted
  · rw [heq]
    nofun

/-- A writer that has been started stays so. -/
theorem started_of_next {event : Event} (hstarted : c.writer ≠ .notStarted)
    (h : next lib options c event = some c') : c'.writer ≠ .notStarted := by
  rcases step_cases hstarted h with ⟨answer, _, hrun⟩ | ⟨_, haside⟩
  · exact (placeStep_of_runWriter hrun).1.started
  · exact haside.started hstarted

end DataLinkClient

end USEEDLinkToRingServer
