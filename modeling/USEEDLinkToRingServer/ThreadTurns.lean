import USEEDLinkToRingServer.DropOldest
import USEEDLinkToRingServer.Library.Scheduling
import USEEDLinkToRingServer.RecordWalk
import USEEDLinkToRingServer.RequestedStop

/-!
# The turns of the threads

When a thread can take a step, and how far a thread that has been told to stop is from its end. No thread
takes another farther from its end.
-/

namespace USEEDLinkToRingServer

open Machine

/-- The threads of a process. -/
inductive Thread (n : Nat)
  | main
  | metrics
  | seedLink
  | writer (client : Fin n)
deriving DecidableEq, Repr

/-- What the environment has ready for the threads: one answer for each. The payload of an answer fits the
buffer that `sl_collect` fills. -/
structure Response where
  interrupted : Bool
  poll : PollAnswer
  pushSucceeds : Bool
  answer : Answer
  fits : ∀ payloadFormat payload, poll.collected = .packet payloadFormat payload → payload.length < 2 ^ 31

/-- How far a thread is from its end: its places, the packets or records in hand, and the steps of a call. -/
abbrev Distance := ℕ ×ₗ ℕ ×ₗ ℕ

/-- The places of `tabulateMetrics` before its end, when it is told to stop. -/
def Metrics.placesLeft (n : Nat) : Metrics → Nat
  | .notStarted | .ended => 0
  | .testing => 1
  | .enqueuing _ client => 2 * (n - client) + 1
  | .propagating _ client => 2 * (n - client) + 2
  | .updating _ => 2 * n + 3
  | .dequeuing => 2 * n + 4

/-- The places of `packetToCallback` before its end, when it is told to stop. -/
def Poller.placesLeft : Poller → Nat
  | .notStarted | .returned | .threw _ => 0
  | .leaving => 1
  | .purgingStateFile => 2
  | .testing => 3
  | .updatingStateFile => 4
  | .offering _ | .callingBack _ => 5
  | .collecting => 6
  | .recoveringState => 7

/-- The packets of a payload that are not given to the callback, with the call under way. -/
def Poller.packetsLeft : Poller → Nat
  | .offering packets => 2 * packets.length
  | .callingBack rest => 2 * rest.length + 1
  | _ => 0

def Poller.hasThrown : Poller → Bool
  | .threw _ => true
  | _ => false

def Writer.hasThrown : Writer → Bool
  | .threw _ => true
  | _ => false

theorem Poller.ended_of_hasThrown {poller : Poller} (h : poller.hasThrown = true) : poller.ended = true := by
  cases poller with
  | threw => rfl
  | _ => cases h

theorem Poller.hasThrown_of_ended {poller : Poller} (hended : poller.ended = true)
    (hreturned : poller ≠ .returned) : poller.hasThrown = true := by
  cases poller with
  | threw => rfl
  | returned => exact absurd rfl hreturned
  | _ => cases hended

theorem Writer.hasThrown_of_ended {writer : Writer} (hended : writer.ended = true)
    (hreturned : writer ≠ .returned) : writer.hasThrown = true := by
  cases writer with
  | threw => rfl
  | returned => exact absurd rfl hreturned
  | _ => cases hended

theorem Writer.ended_of_hasThrown {writer : Writer} (h : writer.hasThrown = true) : writer.ended = true := by
  cases writer with
  | threw => rfl
  | _ => cases h

namespace Process

variable {n : Nat}

def Event.thread : Event n → Thread n
  | .main _ => .main
  | .seedLink _ | .callback _ => .seedLink
  | .metrics _ => .metrics
  | .writer client _ => .writer client

/-- The steps a thread may take when the environment answers it so. -/
def eventsOf (response : Response) : Thread n → List (Event n)
  | .main => [.main response.interrupted]
  | .metrics => [.metrics response.pushSucceeds]
  | .seedLink => [.seedLink response.poll, .callback response.pushSucceeds]
  | .writer client => [.writer client response.answer]

/-- The thread can take a step, whatever the environment answers. -/
def Ready (lib : Libraries) (options : ProcessOptions n) (thread : Thread n) (p : Process n) : Prop :=
  ∀ response, ∃ event ∈ eventsOf response thread, (next lib options p event).isSome = true

section

variable (options : ProcessOptions n) (p : Process n)

/-- The steps that the metrics thread has left in `enqueue` of a client. -/
def enqueueLeft : Nat :=
  match p.metrics with
  | .enqueuing _ client =>
    if h : client < n then
      (p.dataLink ⟨client, h⟩).queue.stepsLeft (enqueue (options.dataLink ⟨client, h⟩).mMaximumInternalQueueSize)
    else 0
  | _ => 0

/-- The steps that the SEEDLink thread has left in the callback. -/
def callbackLeft : Nat := p.mImportQueue.stepsLeft (addPacketCallback options.importQueueSize)

/-- How far a thread that is told to stop is from its end. -/
def distance : Thread n → Distance
  | .main => toLex (0, toLex (0, 0))
  | .metrics => toLex (p.metrics.placesLeft n, toLex (0, p.enqueueLeft options))
  | .seedLink =>
    toLex (p.seedLink.poller.placesLeft, toLex (p.seedLink.poller.packetsLeft, p.callbackLeft options))
  | .writer client =>
    toLex ((p.dataLink client).writer.placesLeft, toLex ((p.dataLink client).writer.recordsLeft, 0))

/-- A thread other than the main thread has ended. -/
def threadEnded : Thread n → Bool
  | .main => false
  | .metrics => (p.metrics matches .ended)
  | .seedLink => p.seedLink.poller.ended
  | .writer client => (p.dataLink client).writer.ended

/-- A thread with a future has ended with an exception. -/
def threw : Thread n → Bool
  | .main | .metrics => false
  | .seedLink => p.seedLink.poller.hasThrown
  | .writer client => (p.dataLink client).writer.hasThrown

end

end Process

/-- The queues have room for a packet. -/
structure ProcessOptions.HaveRoom {n : Nat} (options : ProcessOptions n) : Prop where
  importQueue : 1 ≤ options.importQueueSize
  dataLink : ∀ client, 1 ≤ (options.dataLink client).mMaximumInternalQueueSize

/-- A pop of the consumer takes a call no farther from its end. -/
theorem BoundedQueue.take_stepsLeft {α : Type} {room : MakingRoom} {q q' : BoundedQueue α} {packet : α}
    (hroom : 1 ≤ room.maximumSize) (h : q.take = some (packet, q')) :
    q'.stepsLeft room ≤ q.stepsLeft room := by
  have hnext : BoundedQueue.next room q .take = some q' := by rw [BoundedQueue.next, h]
  exact next_stepsLeft hroom rfl hnext

/-! ### Distances -/

namespace Distance

variable {places places' packets packets' steps steps' : Nat}

theorem lt_of_places (h : places < places') :
    (toLex (places, toLex (packets, steps)) : Distance) < toLex (places', toLex (packets', steps')) :=
  Prod.Lex.toLex_lt_toLex.mpr (.inl h)

theorem lt_of_packets (h : packets < packets') :
    (toLex (places, toLex (packets, steps)) : Distance) < toLex (places, toLex (packets', steps')) :=
  Prod.Lex.toLex_lt_toLex.mpr (.inr ⟨rfl, Prod.Lex.toLex_lt_toLex.mpr (.inl h)⟩)

theorem lt_of_steps (h : steps < steps') :
    (toLex (places, toLex (packets, steps)) : Distance) < toLex (places, toLex (packets, steps')) :=
  Prod.Lex.toLex_lt_toLex.mpr (.inr ⟨rfl, Prod.Lex.toLex_lt_toLex.mpr (.inr ⟨rfl, h⟩)⟩)

theorem le_of_steps (h : steps ≤ steps') :
    (toLex (places, toLex (packets, steps)) : Distance) ≤ toLex (places, toLex (packets, steps')) := by
  rcases h.lt_or_eq with hlt | rfl
  · exact (lt_of_steps hlt).le
  · exact le_refl _

theorem zero_le (distance : Distance) : toLex (0, toLex (0, 0)) ≤ distance := by
  obtain ⟨places, packets, steps⟩ := distance
  rcases Nat.eq_zero_or_pos places with rfl | hplaces
  · rcases Nat.eq_zero_or_pos packets with rfl | hpackets
    · exact le_of_steps (Nat.zero_le steps)
    · exact (lt_of_packets hpackets).le
  · exact (lt_of_places hplaces).le

end Distance

/-! ### What a thread does to itself and to the others -/

namespace Process

variable {n : Nat} {lib : Libraries} {options : ProcessOptions n} {p p' : Process n} {event : Event n}

/-- The thread has been told to stop. -/
def told (p : Process n) : Thread n → Bool
  | .main => false
  | .metrics => !p.mKeepRunning
  | .seedLink => !p.seedLink.mKeepRunning
  | .writer client => !(p.dataLink client).mKeepRunning && (p.dataLink client).mTerminateRequested

/-- What no thread other than the main thread does to a client: it sets no flag and launches no writer. -/
structure FlagsKept (c c' : DataLinkClient) : Prop where
  mKeepRunning : c'.mKeepRunning = c.mKeepRunning
  mTerminateRequested : c'.mTerminateRequested = c.mTerminateRequested
  stopping : c'.stopping = c.stopping
  started : c'.writer = .notStarted ↔ c.writer = .notStarted

theorem FlagsKept.refl (c : DataLinkClient) : FlagsKept c c := ⟨rfl, rfl, rfl, .rfl⟩

/-- A thread other than the main thread sets no flag, and launches no thread. -/
structure ThreadStep (p p' : Process n) : Prop where
  main : p'.main = p.main
  mKeepRunning : p'.mKeepRunning = p.mKeepRunning
  seedLinkFuture : p'.seedLinkFuture = p.seedLinkFuture
  dataLinkFuture : p'.dataLinkFuture = p.dataLinkFuture
  connected : p'.seedLink.connected = p.seedLink.connected
  seedLink : p'.seedLink.mKeepRunning = p.seedLink.mKeepRunning
  metricsStarted : p'.metrics = .notStarted ↔ p.metrics = .notStarted
  pollerStarted : p'.seedLink.poller = .notStarted ↔ p.seedLink.poller = .notStarted
  dataLink : ∀ client, FlagsKept (p.dataLink client) (p'.dataLink client)

theorem threadStep_of_next (hthread : event.thread ≠ .main) (h : next lib options p event = some p') :
    ThreadStep p p' := by
  cases event with
  | main interrupted => exact absurd rfl hthread
  | callback pushSucceeds =>
    obtain ⟨mImportQueue, _, rfl⟩ := Option.map_eq_some_iff.mp h
    exact ⟨rfl, rfl, rfl, rfl, rfl, rfl, .rfl, .rfl, fun _ => .refl _⟩
  | seedLink answer =>
    obtain ⟨seedLink, hpoll, hcases⟩ := pollSEEDLink_cases h
    obtain ⟨hrunning, hlaunched, hkeep, _⟩ := SEEDLinkClient.packetToCallback_job hpoll
    have hconnected := (SEEDLinkClient.packetToCallback_frame hpoll).2
    have hpoller : seedLink.poller = .notStarted ↔ p.seedLink.poller = .notStarted := by
      refine iff_of_false (fun hnot => ?_) fun hnot => ?_
      · rw [hnot] at hlaunched
        exact hlaunched rfl
      · rw [hnot] at hrunning
        cases hrunning
    rcases hcases with ⟨_, _, _, _, _, rfl⟩ | ⟨_, _, rfl⟩ <;>
      exact ⟨rfl, rfl, rfl, rfl, hconnected, hkeep, .rfl, hpoller, fun _ => .refl _⟩
  | writer client answer =>
    obtain ⟨c, hc, rfl⟩ := Option.map_eq_some_iff.mp h
    obtain ⟨hrunning, hlaunched⟩ := DataLinkClient.runWriter_job hc
    obtain ⟨_, hkeep, hterminate, hstopping⟩ := DataLinkClient.placeStep_of_runWriter hc
    have hwriter : c.writer = .notStarted ↔ (p.dataLink client).writer = .notStarted := by
      rw [← DataLinkClient.job_eq_notLaunched, ← DataLinkClient.job_eq_notLaunched]
      exact iff_of_false hlaunched (by rw [hrunning]; nofun)
    exact ⟨rfl, rfl, rfl, rfl, rfl, rfl, .rfl, .rfl,
      setDataLink_related .refl ⟨hkeep, hterminate, hstopping, hwriter⟩⟩
  | metrics pushSucceeds =>
    have hmetrics {metrics : Metrics} (hstarted : p.metrics = metrics) (hne : metrics ≠ .notStarted) :
        ¬ p.metrics = .notStarted := by rwa [hstarted]
    have hqueue {other : Fin n} {queue : BoundedQueue Packet} :
        ∀ client, FlagsKept (p.dataLink client)
          ((p.setDataLink other { p.dataLink other with queue }).dataLink client) :=
      setDataLink_related .refl ⟨rfl, rfl, rfl, .rfl⟩
    cases metricsStep_of_tabulateMetrics h with
    | handedOver _ other _ hhandedOver =>
      exact ⟨rfl, rfl, rfl, rfl, rfl, rfl, iff_of_false nofun (hmetrics hhandedOver nofun), .rfl, hqueue⟩
    | produced => exact ⟨rfl, rfl, rfl, rfl, rfl, rfl, .rfl, .rfl, hqueue⟩
    | tested hstarted | left hstarted | foundNothing hstarted | took _ _ hstarted | updated _ hstarted
    | propagated _ _ hstarted | enqueued _ _ hstarted =>
      exact ⟨rfl, rfl, rfl, rfl, rfl, rfl, iff_of_false nofun (hmetrics hstarted nofun), .rfl,
        fun _ => .refl _⟩

/-- No thread other than the main thread is told anything. -/
theorem ThreadStep.told (h : ThreadStep p p') (thread : Thread n) : p'.told thread = p.told thread := by
  cases thread with
  | main => rfl
  | metrics => rw [Process.told, h.mKeepRunning, Process.told]
  | seedLink => rw [Process.told, h.seedLink, Process.told]
  | writer client =>
    rw [Process.told, (h.dataLink client).mKeepRunning, (h.dataLink client).mTerminateRequested, Process.told]

/-! ### The thread that takes the step -/

theorem distance_metrics (hroom : options.HaveRoom) {pushSucceeds : Bool} (htold : p.told .metrics = true)
    (h : p.tabulateMetrics options pushSucceeds = some p') :
    p'.distance options .metrics < p.distance options .metrics := by
  have hcleared : p.mKeepRunning = false := by simpa [told] using htold
  have hplaces {q : Process n} {before after : Metrics} (hbefore : p.metrics = before)
      (hafter : q.metrics = after) (hlt : after.placesLeft n < before.placesLeft n) :
      q.distance options .metrics < p.distance options .metrics := by
    refine Distance.lt_of_places ?_
    rwa [hbefore, hafter]
  cases metricsStep_of_tabulateMetrics h with
  | tested _ hkeep => cases hcleared.symm.trans hkeep
  | left hmetrics | foundNothing hmetrics | took _ _ hmetrics | updated _ hmetrics =>
    refine hplaces hmetrics rfl ?_
    simp only [Metrics.placesLeft]
    omega
  | handedOver _ client _ hmetrics =>
    refine hplaces hmetrics rfl ?_
    simp only [Metrics.placesLeft]
    omega
  | propagated _ client hmetrics =>
    refine hplaces hmetrics rfl ?_
    simp only [Metrics.placesLeft]
    omega
  | enqueued _ client hmetrics =>
    have hlt := client.isLt
    refine hplaces hmetrics rfl ?_
    simp only [Metrics.placesLeft]
    omega
  | produced packet client queue hmetrics hproduce =>
    have hsteps := BoundedQueue.produce_stepsLeft (hroom.dataLink client) hproduce
    have hself := setDataLink_self (p := p) client { p.dataLink client with queue }
    have hmetrics' : (p.setDataLink client { p.dataLink client with queue }).metrics =
      .enqueuing packet client := hmetrics
    refine Distance.lt_of_steps ?_
    simp only [enqueueLeft, hmetrics, hmetrics', client.isLt, dif_pos, Fin.eta, hself]
    exact hsteps

theorem distance_seedLink {answer : PollAnswer} (htold : p.told .seedLink = true)
    (h : p.pollSEEDLink lib options answer = some p') :
    p'.distance options .seedLink < p.distance options .seedLink := by
  have hcleared : p.seedLink.mKeepRunning = false := by simpa [told] using htold
  obtain ⟨seedLink, hpoll, hcases⟩ := pollSEEDLink_cases h
  have hseedLink : p'.seedLink = seedLink := by
    rcases hcases with ⟨_, _, _, _, _, rfl⟩ | ⟨_, _, rfl⟩ <;> rfl
  have hplaces {before after : Poller} (hbefore : p.seedLink.poller = before)
      (hafter : seedLink.poller = after) (hlt : after.placesLeft < before.placesLeft) :
      p'.distance options .seedLink < p.distance options .seedLink := by
    refine Distance.lt_of_places ?_
    rwa [hseedLink, hbefore, hafter]
  have hpackets {before after : Poller} (hbefore : p.seedLink.poller = before)
      (hafter : seedLink.poller = after) (hplaces : after.placesLeft = before.placesLeft)
      (hlt : after.packetsLeft < before.packetsLeft) :
      p'.distance options .seedLink < p.distance options .seedLink := by
    simp only [distance, hseedLink, hbefore, hafter, hplaces]
    exact Distance.lt_of_packets hlt
  cases SEEDLinkClient.loopStep_of_packetToCallback hpoll with
  | entered _ hkeep => cases hcleared.symm.trans hkeep
  | endedEarly _ _ hkeep => cases hcleared.symm.trans hkeep
  | collected payloadFormat payload _ hpoller _ hcollect =>
    obtain ⟨poller, rfl, ⟨_, rfl⟩ | rfl | rfl⟩ := SEEDLinkClient.collect_cases hcollect
    all_goals exact hplaces hpoller rfl (by simp [Poller.placesLeft])
  | counted hpoller => exact hplaces hpoller rfl (by simp [Poller.placesLeft])
  | offered packet rest hpoller =>
    refine hpackets hpoller rfl rfl ?_
    simp only [Poller.packetsLeft, List.length_cons]
    omega
  | calledBack rest hpoller => exact hpackets hpoller rfl rfl (Nat.lt_succ_self _)
  | recovered hpoller | notRecovered _ hpoller | stopped hpoller | terminated hpoller | collectedNothing hpoller
  | offeredAll hpoller | kept hpoller | purged hpoller _ | notPurged _ hpoller | returned hpoller =>
    exact hplaces hpoller rfl (by simp [Poller.placesLeft])

theorem distance_callback (hroom : options.HaveRoom) {pushSucceeds : Bool}
    (h : p.callBack options pushSucceeds = some p') :
    p'.distance options .seedLink < p.distance options .seedLink := by
  obtain ⟨mImportQueue, hproduce, rfl⟩ := Option.map_eq_some_iff.mp h
  have himportQueue : 1 ≤ (addPacketCallback options.importQueueSize).maximumSize := hroom.importQueue
  exact Distance.lt_of_steps (BoundedQueue.produce_stepsLeft himportQueue hproduce)

theorem distance_writer {client : Fin n} {answer : Answer} (htold : p.told (.writer client) = true)
    (h : p.runWriter lib options client answer = some p') :
    p'.distance options (.writer client) < p.distance options (.writer client) := by
  obtain ⟨hcleared, hterminate⟩ : (p.dataLink client).mKeepRunning = false ∧
      (p.dataLink client).mTerminateRequested = true := by simpa [told] using htold
  obtain ⟨c, hc, rfl⟩ := Option.map_eq_some_iff.mp h
  obtain ⟨hplace, _⟩ := DataLinkClient.placeStep_of_runWriter hc
  have hself : (p.setDataLink client c).dataLink client = c := setDataLink_self client c
  have hrank := DataLinkClient.rank_of_placeStep hplace hcleared hterminate
  simp only [distance, hself]
  rcases Prod.Lex.toLex_lt_toLex.mp hrank with hplaces | ⟨hplaces, hrecords⟩
  · exact Distance.lt_of_places hplaces
  · have hsame : c.writer.placesLeft = (p.dataLink client).writer.placesLeft := hplaces
    rw [hsame]
    exact Distance.lt_of_packets hrecords

/-- A thread that is told to stop comes nearer to its end with each of its steps. -/
theorem distance_lt (hroom : options.HaveRoom) (htold : p.told event.thread = true)
    (h : next lib options p event = some p') :
    p'.distance options event.thread < p.distance options event.thread := by
  cases event with
  | main interrupted => cases htold
  | metrics pushSucceeds => exact distance_metrics hroom htold h
  | seedLink answer => exact distance_seedLink htold h
  | callback pushSucceeds => exact distance_callback hroom h
  | writer client answer => exact distance_writer htold h

/-! ### The threads that do not take the step -/

/-- What does not move the threads, and at most takes from the queues, takes no thread farther from its end. -/
theorem enqueueLeft_le (hroom : options.HaveRoom) (hmetrics : p'.metrics = p.metrics)
    (hqueues : ∀ client, (p'.dataLink client).queue = (p.dataLink client).queue ∨
      ∃ packet, (p.dataLink client).queue.take = some (packet, (p'.dataLink client).queue)) :
    p'.enqueueLeft options ≤ p.enqueueLeft options := by
  unfold enqueueLeft
  rw [hmetrics]
  split
  · next packet client _ =>
    split
    · next hlt =>
      rcases hqueues ⟨client, hlt⟩ with heq | ⟨packet, htake⟩
      · rw [heq]
      · exact BoundedQueue.take_stepsLeft (hroom.dataLink ⟨client, hlt⟩) htake
    · exact le_refl _
  · exact le_refl _

/-- A step takes no other thread farther from its end, and ends no other thread. -/
theorem distance_le (hroom : options.HaveRoom) (hmain : event.thread ≠ .main) {thread : Thread n}
    (hother : event.thread ≠ thread) (h : next lib options p event = some p') :
    p'.distance options thread ≤ p.distance options thread ∧ p'.threadEnded thread = p.threadEnded thread ∧
      p'.threw thread = p.threw thread := by
  cases event with
  | main interrupted => exact absurd rfl hmain
  | callback pushSucceeds =>
    obtain ⟨mImportQueue, _, rfl⟩ := Option.map_eq_some_iff.mp h
    cases thread with
    | seedLink => exact absurd rfl hother
    | _ => exact ⟨le_refl _, rfl, rfl⟩
  | seedLink answer =>
    obtain ⟨seedLink, _, hcases⟩ := pollSEEDLink_cases h
    cases thread with
    | seedLink => exact absurd rfl hother
    | _ => rcases hcases with ⟨_, _, _, _, _, rfl⟩ | ⟨_, _, rfl⟩ <;> exact ⟨le_refl _, rfl, rfl⟩
  | writer client answer =>
    obtain ⟨c, hc, rfl⟩ := Option.map_eq_some_iff.mp h
    have hqueue := DataLinkClient.writeStep_queue (DataLinkClient.writeStep_of_runWriter hc)
    cases thread with
    | main | seedLink => exact ⟨le_refl _, rfl, rfl⟩
    | metrics =>
      refine ⟨Distance.le_of_steps (enqueueLeft_le hroom rfl fun other => ?_), rfl, rfl⟩
      exact setDataLink_related (R := fun c c' => c'.queue = c.queue ∨
        ∃ packet, c.queue.take = some (packet, c'.queue)) (fun _ => .inl rfl)
        (hqueue.imp_right fun ⟨packet, _, htake⟩ => ⟨packet, htake⟩) other
    | writer other =>
      have hne : other ≠ client := fun heq => hother (by rw [heq]; rfl)
      have hsame : (p.setDataLink client c).dataLink other = p.dataLink other := setDataLink_of_ne hne c
      simp only [distance, threadEnded, threw, hsame, le_refl, and_self]
  | metrics pushSucceeds =>
    cases thread with
    | main => exact ⟨le_refl _, rfl, rfl⟩
    | metrics => exact absurd rfl hother
    | seedLink =>
      cases metricsStep_of_tabulateMetrics h with
      | took packet mImportQueue _ htake =>
        exact ⟨Distance.le_of_steps (BoundedQueue.take_stepsLeft hroom.importQueue htake), rfl, rfl⟩
      | _ => exact ⟨le_refl _, rfl, rfl⟩
    | writer client =>
      have hwriter {other : Fin n} {queue : BoundedQueue Packet} :
          ((p.setDataLink other { p.dataLink other with queue }).dataLink client).writer =
            (p.dataLink client).writer :=
        setDataLink_related (R := fun c c' => c'.writer = c.writer) (fun _ => rfl)
          (c := { p.dataLink other with queue }) rfl client
      cases metricsStep_of_tabulateMetrics h with
      | handedOver | produced =>
        simp only [distance, threadEnded, threw, hwriter, le_refl, and_self]
      | _ => exact ⟨le_refl _, rfl, rfl⟩

/-- A thread that takes a step has not ended. -/
theorem not_threadEnded_of_next {client : Fin n} (hcalling : Calling p client)
    (h : next lib options p event = some p') : p.threadEnded event.thread = false := by
  cases event with
  | main interrupted => rfl
  | seedLink answer =>
    obtain ⟨seedLink, hpoll, _⟩ := pollSEEDLink_cases h
    exact (SEEDLinkClient.packetToCallback_frame hpoll).1
  | callback pushSucceeds =>
    obtain ⟨mImportQueue, hproduce, _⟩ := Option.map_eq_some_iff.mp h
    rcases hcalling.importing with hidle | ⟨rest, hpoller⟩
    · rw [BoundedQueue.produce, hidle] at hproduce
      cases hproduce
    · simp only [threadEnded, Event.thread, hpoller, Poller.ended]
  | writer client answer =>
    obtain ⟨c, hc, rfl⟩ := Option.map_eq_some_iff.mp h
    exact (DataLinkClient.writeStep_frame (DataLinkClient.writeStep_of_runWriter hc)).1
  | metrics pushSucceeds =>
    cases metricsStep_of_tabulateMetrics h with
    | tested hmetrics | left hmetrics | foundNothing hmetrics | took _ _ hmetrics | updated _ hmetrics
    | propagated _ _ hmetrics | enqueued _ _ hmetrics | handedOver _ _ _ hmetrics | produced _ _ _ hmetrics =>
      simp only [threadEnded, Event.thread, hmetrics]

/-! ### When a thread can take a step -/

theorem ready_metrics (hcalling : ∀ client, Calling p client) (hstarted : p.metrics ≠ .notStarted)
    (hended : p.threadEnded .metrics = false)
    (hinRange : ∀ packet client, p.metrics = .enqueuing packet client → client < n) :
    Ready lib options .metrics p := by
  intro response
  refine ⟨.metrics response.pushSucceeds, List.mem_singleton_self _, ?_⟩
  show (p.tabulateMetrics options response.pushSucceeds).isSome = true
  unfold tabulateMetrics
  cases hmetrics : p.metrics with
  | notStarted => exact absurd hmetrics hstarted
  | ended => simp [threadEnded, hmetrics] at hended
  | testing | updating => rfl
  | dequeuing =>
    dsimp only
    split <;> rfl
  | propagating packet client =>
    dsimp only
    split
    · next hlt =>
      have hidle : (p.dataLink ⟨client, hlt⟩).queue.producer = .idle := by
        refine (hcalling ⟨client, hlt⟩).exporting.resolve_right ?_
        rintro ⟨packet', henqueuing⟩
        cases hmetrics.symm.trans henqueuing
      rw [Option.isSome_map, DataLinkClient.enqueue, Option.isSome_map, BoundedQueue.call, hidle]
      rfl
    · rfl
  | enqueuing packet client =>
    have hlt := hinRange packet client hmetrics
    simp only [hlt, dif_pos]
    split
    · rfl
    · next hbusy =>
      rw [Option.isSome_map, DataLinkClient.produce, Option.isSome_map]
      exact BoundedQueue.produce_isSome hbusy _

theorem collect_isSome (hlib : lib.ReportsLength) {c : SEEDLinkClient} {payloadFormat : PayloadFormat}
    {payload : Bytes} (hfits : payload.length < 2 ^ 31) :
    (c.collect lib payloadFormat payload).isSome = true := by
  have hsize : (0 : Int) ≤ (Int32.ofNat payload.length).toInt := by
    rw [Int32.toInt_ofNat_of_lt hfits]
    exact Int.natCast_nonneg _
  have hdone : miniSEEDToDataPackets lib payload (Int32.ofNat payload.length) ≠ none :=
    miniSEEDToDataPackets_ne_none hlib hsize
  unfold SEEDLinkClient.collect
  dsimp only
  split
  · split
    · next hnone => exact absurd hnone hdone
    · rfl
    · rfl
  · rfl

theorem packetToCallback_isSome (hlib : lib.ReportsLength) (seedLinkOptions : SEEDLinkOptions)
    {seedLink : SEEDLinkClient} (hstarted : seedLink.poller ≠ .notStarted)
    (hended : seedLink.poller.ended = false) (response : Response) :
    (seedLink.packetToCallback lib seedLinkOptions response.poll).isSome = true := by
  unfold SEEDLinkClient.packetToCallback
  cases hpoller : seedLink.poller with
  | notStarted => exact absurd hpoller hstarted
  | returned | threw =>
    rw [hpoller] at hended
    cases hended
  | recoveringState =>
    dsimp only
    split
    · rfl
    · split <;> rfl
  | collecting =>
    cases hcollected : response.poll.collected with
    | packet payloadFormat payload =>
      exact collect_isSome hlib (response.fits payloadFormat payload hcollected)
    | _ => rfl
  | offering packets => cases packets <;> rfl
  | purgingStateFile =>
    dsimp only
    split
    · rfl
    · split
      · split
        · rfl
        · split
          · split <;> rfl
          · rfl
      · rfl
  | _ => rfl

theorem ready_seedLink (hlib : lib.ReportsLength) (hstarted : p.seedLink.poller ≠ .notStarted)
    (hended : p.threadEnded .seedLink = false) :
    Ready lib options .seedLink p := by
  intro response
  -- in a call the thread takes its step in the callback
  by_cases hbusy : p.mImportQueue.producer = .idle
  · refine ⟨.seedLink response.poll, List.mem_cons_self, ?_⟩
    show (p.pollSEEDLink lib options response.poll).isSome = true
    obtain ⟨seedLink, hpoll⟩ := Option.isSome_iff_exists.mp
      (packetToCallback_isSome hlib options.seedLink hstarted hended response)
    unfold pollSEEDLink
    rw [hpoll]
    dsimp only
    split
    · rw [Option.isSome_map, BoundedQueue.call, hbusy]
      rfl
    · rw [hbusy]
      rfl
    · rfl
  · refine ⟨.callback response.pushSucceeds, List.mem_cons_of_mem _ List.mem_cons_self, ?_⟩
    show (p.callBack options response.pushSucceeds).isSome = true
    rw [callBack, Option.isSome_map]
    exact BoundedQueue.produce_isSome hbusy _

theorem ready_writer {client : Fin n} (hstarted : (p.dataLink client).writer ≠ .notStarted)
    (hended : p.threadEnded (.writer client) = false) : Ready lib options (.writer client) p := by
  intro response
  refine ⟨.writer client response.answer, List.mem_singleton_self _, ?_⟩
  show (p.runWriter lib options client response.answer).isSome = true
  rw [runWriter, Option.isSome_map]
  have hrunning : (p.dataLink client).writer.ended = false := hended
  unfold DataLinkClient.runWriter
  cases hwriter : (p.dataLink client).writer with
  | notStarted => exact absurd hwriter hstarted
  | returned | threw =>
    rw [hwriter] at hrunning
    cases hrunning
  | dequeuing | converting | naming | connecting =>
    dsimp only
    split <;> rfl
  | writing streamIdentifier dataLinkPackets =>
    cases dataLinkPackets with
    | nil => rfl
    | cons dataLinkPacket rest =>
      dsimp only
      split <;> rfl
  | _ => rfl

end Process

end USEEDLinkToRingServer
