import USEEDLinkToRingServer.Known
import USEEDLinkToRingServer.Process
import USEEDLinkToRingServer.WriterRelay

/-!
# The flow of packets

From the callback through the import queue, the metrics thread and a writer's queue to `dl_write`. Each
queue is a lossy channel, the metrics thread hands every packet it obtains to every writer, and a writer
is a relay.
-/

namespace USEEDLinkToRingServer

open Machine

/-- The packet that the metrics thread still has to hand to a client. -/
def Metrics.pendingFor (client : Nat) : Metrics → List Packet
  | .updating packet => [packet]
  | .propagating packet first => if first ≤ client then [packet] else []
  | .enqueuing packet current => if current < client then [packet] else []
  | _ => []

namespace Process

variable {n : Nat} {lib : Libraries} {options : ProcessOptions n} {p p' : Process n} {client : Fin n}

/-- The way of the packets to one writer. -/
structure Flows (lib : Libraries) (options : ProcessOptions n) (p : Process n) (client : Fin n) :
    Prop where
  offered : p.mImportQueue.handedIn = p.seedLink.offered
  imported : Reaches LossyFifo.next .empty p.mImportQueue.toFifo
  exported : Reaches LossyFifo.next .empty (p.dataLink client).queue.toFifo
  forwarded : p.mImportQueue.obtained =
    (p.dataLink client).queue.handedIn ++ p.metrics.pendingFor client
  relays : ∃ pending,
    DataLinkClient.RelaysWith lib (options.dataLink client) (p.dataLink client) pending
  starting : p.main = .starting → p.metrics = .notStarted

/-! ### Every thread keeps the flow -/

theorem Flows.pollSEEDLink {answer : PollAnswer} (h : Flows lib options p client)
    (hstep : p.pollSEEDLink lib options answer = some p') : Flows lib options p' client := by
  obtain ⟨seedLink, hpoll, hcases⟩ := pollSEEDLink_cases hstep
  have hoffers := SEEDLinkClient.packetToCallback_offered hpoll
  rcases hcases with ⟨packet, rest, mImportQueue, hoffering, hcall, rfl⟩ | ⟨_, hnotOffering, rfl⟩
  · rcases hoffers with ⟨packet', rest', hoffering', _, hoffered⟩ | ⟨hnot, _⟩
    · have hsame : packet' = packet := by
        rw [hoffering] at hoffering'
        exact (List.cons.inj (Poller.offering.inj hoffering')).1.symm
      have himported := h.imported.trans (BoundedQueue.call_toFifo hcall)
      obtain ⟨_, rfl⟩ := BoundedQueue.call_eq_some.mp hcall
      exact { h with
        offered := by rw [hoffered, hsame, ← h.offered]
        imported := himported }
    · exact absurd hoffering (hnot packet rest)
  · rcases hoffers with ⟨packet', rest', hoffering', _⟩ | ⟨_, _, hoffered⟩
    · exact absurd hoffering' (hnotOffering packet' rest')
    · exact { h with offered := h.offered.trans hoffered.symm }

theorem Flows.callBack {pushSucceeds : Bool} (h : Flows lib options p client)
    (hstep : p.callBack options pushSucceeds = some p') : Flows lib options p' client := by
  obtain ⟨mImportQueue, hproduce, rfl⟩ := Option.map_eq_some_iff.mp hstep
  obtain ⟨hhandedIn, hobtained⟩ := BoundedQueue.produce_frame hproduce
  exact { h with
    offered := hhandedIn.trans h.offered
    imported := h.imported.trans (BoundedQueue.produce_toFifo hproduce)
    forwarded := hobtained.trans h.forwarded }

/-- A step that leaves the import queue and the metrics thread alone and moves nothing into the writer's
queue. -/
theorem Flows.of_writer (h : Flows lib options p client)
    (hoffered : p'.seedLink.offered = p.seedLink.offered) (hqueue : p'.mImportQueue = p.mImportQueue)
    (hpending : p'.metrics.pendingFor client = p.metrics.pendingFor client)
    (hstarting : p'.main = .starting → p'.metrics = .notStarted)
    (hfifo : Reaches LossyFifo.next (p.dataLink client).queue.toFifo (p'.dataLink client).queue.toFifo)
    (hhandedIn : (p'.dataLink client).queue.handedIn = (p.dataLink client).queue.handedIn)
    (hrelays : ∃ pending,
      DataLinkClient.RelaysWith lib (options.dataLink client) (p'.dataLink client) pending) :
    Flows lib options p' client where
  offered := by rw [hqueue, hoffered, h.offered]
  imported := by rw [hqueue]; exact h.imported
  exported := h.exported.trans hfifo
  forwarded := by rw [hqueue, hhandedIn, hpending, h.forwarded]
  relays := hrelays
  starting := hstarting

theorem Flows.runWriter {other : Fin n} {answer : Answer} (h : Flows lib options p client)
    (hstep : p.runWriter lib options other answer = some p') : Flows lib options p' client := by
  obtain ⟨c, hc, rfl⟩ := Option.map_eq_some_iff.mp hstep
  have hwrite := DataLinkClient.writeStep_of_runWriter hc
  by_cases heq : client = other
  · subst heq
    obtain ⟨pending, hrelays⟩ := h.relays
    obtain ⟨hhandedIn, _, hfifo⟩ := DataLinkClient.writeStep_queue_frame hwrite
    refine h.of_writer rfl rfl rfl h.starting ?_ ?_ ?_ <;> rw [setDataLink_self]
    · exact hfifo
    · exact hhandedIn
    · exact hrelays.write hwrite
  · refine h.of_writer rfl rfl rfl h.starting ?_ ?_ ?_ <;> rw [setDataLink_of_ne heq]
    · exact .refl _
    · exact h.relays

theorem Flows.mainThread {interrupted : Bool} (h : Flows lib options p client)
    (hstep : p.mainThread lib options interrupted = some p') : Flows lib options p' client := by
  have hframe := movesNothing_of_mainStep client (mainStep_of_mainThread hstep)
  obtain ⟨pending, hrelays⟩ := h.relays
  refine h.of_writer hframe.offered hframe.importQueue ?_ (absurd · hframe.started) ?_ ?_
    ⟨pending, hrelays.other hframe.control.toOtherStep⟩
  · rcases hframe.metrics with heq | ⟨hstarting, heq⟩
    · rw [heq]
    · rw [heq, h.starting hstarting]
      rfl
  · rw [hframe.control.queue]
    exact .refl _
  · rw [hframe.control.queue]

/-- A step of the metrics thread at the queue of one writer. -/
theorem Flows.of_queue {other : Fin n} {queue : BoundedQueue Packet} {metrics : Metrics}
    (h : Flows lib options p client) (hmain : p.main ≠ .starting)
    (hfifo : Reaches LossyFifo.next (p.dataLink other).queue.toFifo queue.toFifo)
    (hobtained : queue.obtained = (p.dataLink other).queue.obtained)
    (hforwarded : (p.dataLink other).queue.handedIn ++ p.metrics.pendingFor other =
      queue.handedIn ++ metrics.pendingFor other)
    (hothers : client ≠ other → metrics.pendingFor client = p.metrics.pendingFor client) :
    Flows lib options { p.setDataLink other { p.dataLink other with queue } with metrics } client := by
  by_cases heq : client = other
  · subst heq
    have hself : (p.setDataLink client { p.dataLink client with queue }).dataLink client =
      { p.dataLink client with queue } := setDataLink_self client _
    obtain ⟨pending, hrelays⟩ := h.relays
    refine ⟨h.offered, h.imported, ?_, ?_, ⟨pending, ?_⟩, (absurd · hmain)⟩ <;> dsimp only <;> rw [hself]
    · exact h.exported.trans hfifo
    · exact h.forwarded.trans hforwarded
    · exact hrelays.of_same rfl hobtained hrelays.writer
  · have hother : (p.setDataLink other { p.dataLink other with queue }).dataLink client =
      p.dataLink client := setDataLink_of_ne heq _
    refine h.of_writer rfl rfl (hothers heq) (absurd · hmain) ?_ ?_ ?_ <;> dsimp only <;> rw [hother]
    · exact .refl _
    · exact h.relays

theorem Flows.tabulateMetrics {pushSucceeds : Bool} (h : Flows lib options p client)
    (hstep : p.tabulateMetrics options pushSucceeds = some p') : Flows lib options p' client := by
  have hmain {metrics : Metrics} (hmetrics : p.metrics = metrics) (hne : metrics ≠ .notStarted) :
      p.main ≠ .starting :=
    fun hstarting => hne (hmetrics.symm.trans (h.starting hstarting))
  have hlocal {metrics : Metrics} (hrunning : p.main ≠ .starting)
      (hpending : metrics.pendingFor client = p.metrics.pendingFor client) :
      Flows lib options { p with metrics } client :=
    h.of_writer rfl rfl hpending (absurd · hrunning) (.refl _) rfl h.relays
  cases metricsStep_of_tabulateMetrics hstep with
  | tested hmetrics | left hmetrics | foundNothing hmetrics =>
    exact hlocal (hmain hmetrics nofun) (by rw [hmetrics]; rfl)
  | took packet mImportQueue hmetrics htake =>
    have himported := h.imported.trans (BoundedQueue.take_toFifo htake)
    obtain ⟨_, _, rfl⟩ := BoundedQueue.take_eq_some.mp htake
    have hforwarded := h.forwarded
    simp only [hmetrics, Metrics.pendingFor, List.append_nil] at hforwarded
    exact { h with
      imported := himported
      forwarded := congrArg (· ++ [packet]) hforwarded
      starting := (absurd · (hmain hmetrics nofun)) }
  | updated packet hmetrics =>
    apply hlocal (hmain hmetrics nofun)
    simp only [hmetrics, Metrics.pendingFor]
    rw [if_pos (Nat.zero_le _)]
  | handedOver packet other queue hmetrics hcall =>
    have hfifo := BoundedQueue.call_toFifo hcall
    obtain ⟨_, rfl⟩ := BoundedQueue.call_eq_some.mp hcall
    refine h.of_queue (hmain hmetrics nofun) hfifo rfl ?_ fun hne => ?_ <;>
      simp only [hmetrics, Metrics.pendingFor]
    · rw [if_pos (Nat.le_refl _), if_neg (Nat.lt_irrefl _), List.append_nil]
    · have hval : (client : Nat) ≠ other := fun heq => hne (Fin.ext heq)
      exact if_congr (by omega) rfl rfl
  | propagated packet current hmetrics hlast =>
    apply hlocal (hmain hmetrics nofun)
    simp only [hmetrics, Metrics.pendingFor]
    rw [if_neg (by omega)]
  | enqueued packet other hmetrics _ =>
    apply hlocal (hmain hmetrics nofun)
    simp only [hmetrics, Metrics.pendingFor]
    by_cases hlater : (other : Nat) < client
    · -- a packet is moved only when there is no later client
      have hmany : ¬ n == 1 := by
        have := client.isLt
        simp only [beq_iff_eq]
        omega
      rw [if_pos hlater, if_pos (by omega), if_neg hmany]
    · rw [if_neg hlater, if_neg (by omega)]
  | produced packet other queue hmetrics hproduce =>
    obtain ⟨hhandedIn, hobtained⟩ := BoundedQueue.produce_frame hproduce
    exact h.of_queue (hmain hmetrics nofun) (BoundedQueue.produce_toFifo hproduce) hobtained
      (by rw [hhandedIn]) fun _ => rfl

theorem Flows.next (h : Flows lib options p client) {event : Event n}
    (hstep : Process.next lib options p event = some p') : Flows lib options p' client := by
  cases event with
  | main interrupted => exact h.mainThread hstep
  | seedLink answer => exact h.pollSEEDLink hstep
  | callback pushSucceeds => exact h.callBack hstep
  | metrics pushSucceeds => exact h.tabulateMetrics hstep
  | writer other answer => exact h.runWriter hstep

theorem flows_construct (savedState : Option Nat) :
    Flows lib options (construct options savedState) client where
  offered := rfl
  imported := .refl _
  exported := .refl _
  forwarded := rfl
  relays := ⟨[], rfl, rfl, Or.inl rfl⟩
  starting := fun _ => rfl

theorem flows_of_exec {savedState : Option Nat} {as : List (Event n)}
    (hrun : exec (Process.next lib options) (construct options savedState) as = some p) :
    Flows lib options p client :=
  invariant (I := fun p => Flows lib options p client) (fun _ _ _ h hstep => h.next hstep)
    (flows_construct savedState) hrun

/-- What a writer has taken is what was handed to the callback, in order, less what was lost on the
way. -/
theorem Flows.received (h : Flows lib options p client) :
    (p.dataLink client).queue.obtained.Sublist p.mImportQueue.handedIn := by
  have himport := (LossyFifo.ordered_accounted_of_reaches h.imported).1
  have hexport := (LossyFifo.ordered_accounted_of_reaches h.exported).1
  have hhandedOver : (p.dataLink client).queue.handedIn.Sublist p.mImportQueue.obtained := by
    rw [h.forwarded]
    exact List.sublist_append_left _ _
  exact ((List.sublist_append_left _ _).trans hexport).trans
    (hhandedOver.trans ((List.sublist_append_left _ _).trans himport))

/-- **End-to-end order.** In every run of the threads, the records that a writer has passed to `dl_write`
are those of a subsequence of the packets that were handed to the callback, in order, where only the
last packet's may be cut short. -/
theorem forwarded_in_order (lib : Libraries) (options : ProcessOptions n) (savedState : Option Nat)
    (as : List (Event n)) (p : Process n)
    (hrun : exec (Process.next lib options) (construct options savedState) as = some p)
    (client : Fin n) :
    p.mImportQueue.handedIn = p.seedLink.offered ∧
      LossyFifo.Relays (DataLinkClient.writes lib (options.dataLink client)) p.mImportQueue.handedIn
        ((p.dataLink client).log.calls.map (·.written)) := by
  have hflows : Flows lib options p client := flows_of_exec hrun
  obtain ⟨pending, hrelays⟩ := hflows.relays
  exact ⟨hflows.offered, hrelays.relays.mono hflows.received⟩

/-- A process with one writer is started and receives one record. -/
def receiveOne : List (Event 1) :=
  List.replicate 4 (.main false) ++ [.seedLink {}, .seedLink {}] ++
    [.seedLink { collected := .packet .mseed3 knownRecordOnSecond.bytes }, .seedLink {}, .callback true,
      .callback true]

/-- Steps of the only writer. -/
def writerSteps (steps : Nat) : List (Event 1) := List.replicate steps (.writer 0 {})

/-- The other threads do their part for the record. -/
def forwardOne : List (Event 1) :=
  receiveOne ++ List.replicate 7 (.metrics true) ++ writerSteps 6

/-- An import queue with room for one packet, and two writers. -/
def narrow : ProcessOptions 2 := { importQueueSize := 1 }

/-- Two records are received before the metrics thread takes a packet, so that the first one is evicted. -/
def receiveTwo : List (Event 2) :=
  let collect : Event 2 := .seedLink { collected := .packet .mseed3 knownRecordOnSecond.bytes }
  List.replicate 5 (.main false) ++ [.seedLink {}, .seedLink {}, collect, .seedLink {}] ++
    List.replicate 2 (.callback true) ++ List.replicate 4 (.seedLink {}) ++ [collect, .seedLink {}] ++
    List.replicate 6 (.callback true)

/-- Steps of the first writer and then of the second, with the answers that they get. -/
def bothWriters (first second : List Answer) : List (Event 2) := first.map (.writer 0) ++ second.map (.writer 1)

/-- The second one is forwarded to both writers. -/
def forwardSecond : List (Event 2) :=
  receiveTwo ++ List.replicate 11 (.metrics true) ++ bothWriters (List.replicate 6 {}) (List.replicate 6 {})

/-- One of two packets reaches the two writers. -/
theorem forwarded_in_order_known :
    ∃ p, exec (Process.next (.knowing knownRecordOnSecond knownNames) narrow) (construct narrow none)
        forwardSecond = some p ∧
      p.mImportQueue.handedIn.length = 2 ∧ p.mImportQueue.lost.length = 1 ∧
      ∀ client, (p.dataLink client).log.calls.length = 1 ∧
        LossyFifo.Relays (DataLinkClient.writes (.knowing knownRecordOnSecond knownNames) {})
          p.mImportQueue.handedIn ((p.dataLink client).log.calls.map (·.written)) := by
  have hrun : ∃ p, exec (Process.next (.knowing knownRecordOnSecond knownNames) narrow) (construct narrow none)
      forwardSecond = some p ∧ p.mImportQueue.handedIn.length = 2 ∧ p.mImportQueue.lost.length = 1 ∧
      (p.dataLink 0).log.calls.length = 1 ∧ (p.dataLink 1).log.calls.length = 1 :=
    ⟨_, rfl, rfl, rfl, rfl, rfl⟩
  obtain ⟨p, hrun, hhandedIn, hlost, hfirst, hsecond⟩ := hrun
  have hcalls : ∀ client, (p.dataLink client).log.calls.length = 1 := Fin.forall_fin_two.mpr ⟨hfirst, hsecond⟩
  exact ⟨p, hrun, hhandedIn, hlost, fun client =>
    ⟨hcalls client, (forwarded_in_order _ narrow none _ p hrun client).2⟩⟩

end Process

end USEEDLinkToRingServer
