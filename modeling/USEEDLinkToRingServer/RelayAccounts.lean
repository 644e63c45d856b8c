import Mathlib.Algebra.BigOperators.Fin
import Mathlib.Algebra.Order.BigOperators.Group.Finset
import USEEDLinkToRingServer.PacketFlow
import USEEDLinkToRingServer.WriterCounters

/-!
# The accounts of the relay

Where each packet is that the callback was handed, and what the counters say that all writers share. A packet is in
one queue, in one hand or lost at one queue until a writer has taken it, and a writer counts it as invalid, calls
`dl_write` for it or has nothing to write.
-/

namespace USEEDLinkToRingServer

open Machine

namespace DataLinkClient

variable {lib : Libmseed} {options : WriterOptions} {c c' : DataLinkClient} {pending : List (Str × DataLinkPacket)}

/-! ### What a writer has done with the packets it took -/

/-- One for a packet in work that is not accepted and not counted yet. -/
def uncounted (lib : Libmseed) (options : WriterOptions) : Writer → Nat
  | .converting packet | .naming packet _ => if Accepted lib options packet then 0 else 1
  | _ => 0

theorem uncounted_eq_zero {writer : Writer} (h : writer.packetInWork = false) : uncounted lib options writer = 0 := by
  cases writer <;> first | rfl | cases h

/-- The packets counted as invalid, and one that will be, are those taken that are not accepted. -/
def CountsInvalid (lib : Libmseed) (options : WriterOptions) (c : DataLinkClient) : Prop :=
  c.log.invalid.length + uncounted lib options c.writer =
    c.queue.obtained.countP fun packet => ¬ Accepted lib options packet

/-- A step that counts nothing and takes nothing. -/
theorem CountsInvalid.of_same (h : CountsInvalid lib options c) (hinvalid : c'.log.invalid = c.log.invalid)
    (hobtained : c'.queue.obtained = c.queue.obtained)
    (huncounted : uncounted lib options c'.writer = uncounted lib options c.writer) :
    CountsInvalid lib options c' := by
  rw [CountsInvalid, hinvalid, hobtained, huncounted]
  exact h

/-- The packet in work is not accepted and is counted. -/
theorem CountsInvalid.countInvalid (h : CountsInvalid lib options c)
    (huncounted : uncounted lib options c.writer = 1) : CountsInvalid lib options c.countInvalid := by
  rw [CountsInvalid, huncounted] at h
  rw [CountsInvalid, uncounted_eq_zero rfl]
  simpa [DataLinkClient.countInvalid, WriterLog.countedInvalid] using h

theorem CountsInvalid.write (h : CountsInvalid lib options c) (hrelays : RelaysWith lib options c pending)
    (hstep : WriteStep lib options c c') : CountsInvalid lib options c' := by
  cases hstep with
  | moved writer isConnected hfrom hto =>
    exact h.of_same rfl rfl (by rw [uncounted_eq_zero hfrom, uncounted_eq_zero hto])
  | took packet queue hdequeuing htake =>
    obtain ⟨rest, _, rfl⟩ := BoundedQueue.take_eq_some.mp htake
    rw [CountsInvalid, hdequeuing, uncounted_eq_zero rfl] at h
    rw [CountsInvalid, List.countP_append, List.countP_singleton, ← h]
    by_cases haccepted : Accepted lib options packet <;> simp [uncounted, haccepted]
  | refused packet exception hconverting herror =>
    have hrefused : ¬ Accepted lib options packet := by
      rintro ⟨_, _, hok, _⟩
      cases herror.symm.trans hok
    exact h.countInvalid (by rw [hconverting, uncounted, if_neg hrefused])
  | converted packet records hconverting hok =>
    exact h.of_same rfl rfl (by rw [hconverting]; rfl)
  | unnamed packet records exception hnaming herror =>
    have hrefused : ¬ Accepted lib options packet := by
      rintro ⟨_, _, _, hname⟩
      cases herror.symm.trans hname
    exact h.countInvalid (by rw [hnaming, uncounted, if_neg hrefused])
  | named packet records streamIdentifier hnaming hname =>
    have hpending := hrelays.writer
    rw [hnaming] at hpending
    have haccepted : Accepted lib options packet := ⟨records, streamIdentifier, hpending.1, hname⟩
    exact h.of_same rfl rfl (by rw [hnaming, uncounted, if_pos haccepted]; rfl)
  | finished streamIdentifier hwriting | skipped streamIdentifier record rest hwriting hempty =>
    exact h.of_same rfl rfl (by rw [hwriting]; rfl)
  | wrote streamIdentifier record rest answer hwriting hnonempty =>
    obtain ⟨call, isConnected, _, ⟨_, _, heq⟩ | ⟨_, _, heq⟩ | ⟨_, heq⟩⟩ :=
      dlWrite_cases (c := c) streamIdentifier record rest answer
    all_goals
      rw [heq]
      exact h.of_same rfl rfl (by rw [hwriting]; rfl)

theorem CountsInvalid.other (h : CountsInvalid lib options c) (hstep : OtherStep c c') :
    CountsInvalid lib options c' := by
  refine h.of_same (congrArg WriterLog.invalid hstep.log) hstep.obtained ?_
  rcases hstep.writer with heq | ⟨hfrom, hto, _⟩
  · rw [heq]
  · rw [uncounted_eq_zero hfrom, uncounted_eq_zero hto]

theorem writes_of_not_accepted {packet : Packet} (h : ¬ Accepted lib options packet) :
    writes lib options packet = [] := by
  unfold writes
  split
  · next records streamIdentifier hpackets hname => exact absurd ⟨records, streamIdentifier, hpackets, hname⟩ h
  · rfl

/-- Each packet taken was counted as invalid, has a record to write or is one that the packer makes nothing of. -/
theorem CountsInvalid.obtained_length (h : CountsInvalid lib options c) (hidle : c.writer.packetInWork = false) :
    c.queue.obtained.length = c.log.invalid.length +
      c.queue.obtained.countP (fun packet => writes lib options packet ≠ []) +
      c.queue.obtained.countP fun packet => PacksNothing lib options.packing packet := by
  rw [CountsInvalid, uncounted_eq_zero hidle, Nat.add_zero] at h
  rw [h]
  clear h hidle
  induction c.queue.obtained with
  | nil => rfl
  | cons packet packets ih =>
    have hfate : (if ¬ Accepted lib options packet then 1 else 0) +
        (if writes lib options packet ≠ [] then 1 else 0) +
        (if PacksNothing lib options.packing packet then 1 else 0) = 1 := by
      by_cases haccepted : Accepted lib options packet
      · by_cases hempty : writes lib options packet = [] <;> simp [packsNothing_iff, haccepted, hempty]
      · simp [packsNothing_iff, haccepted, writes_of_not_accepted haccepted]
    simp only [List.countP_cons, List.length_cons, decide_eq_true_eq]
    omega

theorem givesUp_start : GivesUp {} where
  counted := ⟨rfl, rfl, rfl, rfl⟩
  threw := iff_of_false nofun (by decide)
  before _ hshorter hne := absurd (List.prefix_nil.mp hshorter) hne

end DataLinkClient

namespace Process

variable {n : Nat} {lib : Libraries} {options : ProcessOptions n} {p p' : Process n} {event : Event n}

/-- A step of the process is one of a client's writer, or leaves what the client's writer did alone. -/
theorem writeStep_or_otherStep (client : Fin n) (h : Process.next lib options p event = some p') :
    (∃ answer, event = .writer client answer ∧
        (p.dataLink client).runWriter lib (options.dataLink client) answer = some (p'.dataLink client)) ∨
      (∀ answer, event ≠ .writer client answer) ∧ (p.dataLink client).OtherStep (p'.dataLink client) := by
  have hrefl (c : DataLinkClient) : c.OtherStep c := (DataLinkClient.ControlStep.refl c).toOtherStep
  have hqueue {c : DataLinkClient} {queue : BoundedQueue Packet} (hobtained : queue.obtained = c.queue.obtained) :
      c.OtherStep { c with queue } :=
    ⟨rfl, hobtained, Or.inl rfl⟩
  cases event with
  | main interrupted =>
    exact Or.inr ⟨nofun, (movesNothing_of_mainStep client (mainStep_of_mainThread h)).control.toOtherStep⟩
  | seedLink answer =>
    obtain ⟨seedLink, _, ⟨_, _, _, _, _, rfl⟩ | ⟨_, _, rfl⟩⟩ := pollSEEDLink_cases h <;>
      exact Or.inr ⟨nofun, hrefl _⟩
  | callback pushSucceeds =>
    obtain ⟨mImportQueue, _, rfl⟩ := Option.map_eq_some_iff.mp h
    exact Or.inr ⟨nofun, hrefl _⟩
  | metrics pushSucceeds =>
    refine Or.inr ⟨nofun, ?_⟩
    cases metricsStep_of_tabulateMetrics h with
    | handedOver packet other queue hmetrics hcall =>
      have hobtained : queue.obtained = (p.dataLink other).queue.obtained := by
        rw [(BoundedQueue.call_eq_some.mp hcall).2]
      exact setDataLink_related hrefl (hqueue hobtained) client
    | produced packet other queue hmetrics hproduce =>
      exact setDataLink_related hrefl (hqueue (BoundedQueue.produce_frame hproduce).2) client
    | _ => exact hrefl _
  | writer other answer =>
    obtain ⟨c, hc, rfl⟩ := Option.map_eq_some_iff.mp h
    by_cases heq : client = other
    · subst heq
      exact Or.inl ⟨answer, rfl, by rwa [setDataLink_self]⟩
    · refine Or.inr ⟨fun _ hevent => heq (Event.writer.inj hevent).1.symm, ?_⟩
      rw [setDataLink_of_ne heq]
      exact hrefl _

/-- The way of the packets to a writer, with what the writer has done with them. -/
structure Accounts (lib : Libraries) (options : ProcessOptions n) (p : Process n) (client : Fin n) : Prop where
  flows : Flows lib options p client
  counts : DataLinkClient.CountsInvalid lib (options.dataLink client) (p.dataLink client)
  counted : (p.dataLink client).GivesUp

theorem Accounts.next {client : Fin n} (h : Accounts lib options p client)
    (hstep : Process.next lib options p event = some p') : Accounts lib options p' client := by
  refine ⟨h.flows.next hstep, ?_, ?_⟩ <;>
    rcases writeStep_or_otherStep client hstep with ⟨answer, _, hrun⟩ | ⟨_, hother⟩
  · obtain ⟨pending, hrelays⟩ := h.flows.relays
    exact h.counts.write hrelays (DataLinkClient.writeStep_of_runWriter hrun)
  · exact h.counts.other hother
  · exact h.counted.write (DataLinkClient.writeStep_of_runWriter hrun)
  · exact h.counted.other hother

theorem accounts_construct (savedState : Option Nat) (client : Fin n) :
    Accounts lib options (construct options savedState) client :=
  ⟨flows_construct savedState, rfl, DataLinkClient.givesUp_start⟩

theorem accounts_of_exec {savedState : Option Nat} {events : List (Event n)}
    (hrun : exec (Process.next lib options) (construct options savedState) events = some p) (client : Fin n) :
    Accounts lib options p client :=
  invariant (I := fun p => Accounts lib options p client) (fun _ _ _ h hstep => h.next hstep)
    (accounts_construct savedState client) hrun

/-- Where a packet of the callback is, as a client sees it. -/
def whereabouts (p : Process n) (client : Fin n) : List Packet :=
  (p.dataLink client).queue.obtained ++
    ((p.dataLink client).queue.items ++ (p.dataLink client).queue.inHand) ++ (p.dataLink client).queue.lost ++
    p.metrics.pendingFor client ++ (p.mImportQueue.items ++ p.mImportQueue.inHand) ++ p.mImportQueue.lost

theorem Flows.offered_perm {client : Fin n} (h : Flows lib options p client) :
    p.seedLink.offered.Perm (p.whereabouts client) := by
  have himported := (LossyFifo.ordered_accounted_of_reaches h.imported).2
  have hexported := (LossyFifo.ordered_accounted_of_reaches h.exported).2
  simp only [LossyFifo.Accounted, BoundedQueue.toFifo] at himported hexported
  rw [h.forwarded, h.offered] at himported
  exact himported.trans (((hexported.append_right _).append_right _).append_right _)

/-- In every run, and for every client: each packet that the callback was handed is in exactly one place, which is
one of the queues, the hand that is between them, the packets lost at one queue or those the writer has taken. What
a writer that is between two packets has taken it has counted as invalid, has passed to `dl_write` or could make no
record of; nothing else happens to a packet. -/
theorem relay_accounted (lib : Libraries) (options : ProcessOptions n) (savedState : Option Nat)
    (events : List (Event n)) (p : Process n)
    (hrun : exec (Process.next lib options) (construct options savedState) events = some p) (client : Fin n) :
    p.seedLink.offered.Perm (p.whereabouts client) ∧
      ((p.dataLink client).writer.packetInWork = false →
        (p.dataLink client).queue.obtained.length = (p.dataLink client).log.invalidPackets +
          (p.dataLink client).queue.obtained.countP
            (fun packet => DataLinkClient.writes lib (options.dataLink client) packet ≠ []) +
          (p.dataLink client).queue.obtained.countP
            fun packet => DataLinkClient.PacksNothing lib (options.dataLink client).packing packet) ∧
      ((p.dataLink client).writer.packetInWork = false → (p.dataLink client).writer.ended = false →
        (p.dataLink client).log.packetsWritten + (p.dataLink client).log.failedPacketsSent =
          ((p.dataLink client).queue.obtained.map
            fun packet => (DataLinkClient.writes lib (options.dataLink client) packet).length).sum) := by
  obtain ⟨hflows, hcounts, hgives⟩ := accounts_of_exec hrun client
  refine ⟨hflows.offered_perm, fun hidle => ?_, fun hidle hrunning => ?_⟩
  · rw [hgives.counted.invalidPackets]
    exact hcounts.obtained_length hidle
  · obtain ⟨pending, hrelays⟩ := hflows.relays
    obtain rfl := DataLinkClient.eq_nil_of_pending hidle hrunning hrelays.writer
    have hcalls := congrArg List.length hrelays.calls
    rw [List.append_nil, List.length_map, List.length_flatMap] at hcalls
    rw [← hcalls, hgives.counted.packetsWritten, hgives.counted.failedPacketsSent,
      List.length_eq_countP_add_countP (·.failed), Nat.add_comm]
    simp

/-- Of two packets one is evicted and the other one is written by two writers. -/
theorem relay_accounted_known :
    ∃ p, exec (Process.next (.knowing knownRecordOnSecond knownNames) narrow) (construct narrow none)
        (forwardSecond ++ bothWriters (List.replicate 4 {}) (List.replicate 4 {})) = some p ∧
      p.seedLink.offered.length = 2 ∧ p.mImportQueue.lost.length = 1 ∧
      ∀ client, p.seedLink.offered.Perm (p.whereabouts client) ∧
        (p.dataLink client).log.packetsWritten + (p.dataLink client).log.failedPacketsSent =
          ((p.dataLink client).queue.obtained.map
            fun packet => (DataLinkClient.writes (.knowing knownRecordOnSecond knownNames) {} packet).length).sum := by
  have hrun : ∃ p, exec (Process.next (.knowing knownRecordOnSecond knownNames) narrow) (construct narrow none)
      (forwardSecond ++ bothWriters (List.replicate 4 {}) (List.replicate 4 {})) = some p ∧
      p.seedLink.offered.length = 2 ∧ p.mImportQueue.lost.length = 1 ∧
      ((p.dataLink 0).writer.packetInWork = false ∧ (p.dataLink 0).writer.ended = false) ∧
      (p.dataLink 1).writer.packetInWork = false ∧ (p.dataLink 1).writer.ended = false :=
    ⟨_, rfl, rfl, rfl, ⟨rfl, rfl⟩, rfl, rfl⟩
  obtain ⟨p, hrun, hoffered, hlost, hwriters⟩ := hrun
  have hidle : ∀ client, (p.dataLink client).writer.packetInWork = false ∧
      (p.dataLink client).writer.ended = false := Fin.forall_fin_two.mpr hwriters
  refine ⟨p, hrun, hoffered, hlost, fun client => ?_⟩
  obtain ⟨hperm, _, hcalls⟩ := relay_accounted _ narrow none _ p hrun client
  exact ⟨hperm, hcalls (hidle client).1 (hidle client).2⟩

end Process

/-! ### The counters that the writers share -/

inductive WriterCounter
  | packetsWritten
  | invalidPackets
  | failedPacketsSent
  | packetsFailedToEnqueue
deriving DecidableEq, Repr

/-- The counters of all writers of the program. -/
structure WriterMetricsSingleton where
  mPacketsWrittenCounter : Nat := 0
  mInvalidPacketsCounter : Nat := 0
  mFailedPacketsSentCounter : Nat := 0
  mPacketsFailedToEnqueueCounter : Nat := 0

namespace WriterMetricsSingleton

variable (m : WriterMetricsSingleton)

def incrementPacketsWrittenCounter : WriterMetricsSingleton :=
  { m with mPacketsWrittenCounter := m.mPacketsWrittenCounter + 1 }

def incrementInvalidPacketsCounter : WriterMetricsSingleton :=
  { m with mInvalidPacketsCounter := m.mInvalidPacketsCounter + 1 }

def incrementFailedPacketsSentCounter : WriterMetricsSingleton :=
  { m with mFailedPacketsSentCounter := m.mFailedPacketsSentCounter + 1 }

def incrementFailedPacketsFailedToEnqueueCounter : WriterMetricsSingleton :=
  { m with mPacketsFailedToEnqueueCounter := m.mPacketsFailedToEnqueueCounter + 1 }

def increment : WriterCounter → WriterMetricsSingleton
  | .packetsWritten => m.incrementPacketsWrittenCounter
  | .invalidPackets => m.incrementInvalidPacketsCounter
  | .failedPacketsSent => m.incrementFailedPacketsSentCounter
  | .packetsFailedToEnqueue => m.incrementFailedPacketsFailedToEnqueueCounter

def get : WriterCounter → Nat
  | .packetsWritten => m.mPacketsWrittenCounter
  | .invalidPackets => m.mInvalidPacketsCounter
  | .failedPacketsSent => m.mFailedPacketsSentCounter
  | .packetsFailedToEnqueue => m.mPacketsFailedToEnqueueCounter

@[simp] theorem get_increment (counter counter' : WriterCounter) :
    (m.increment counter').get counter = m.get counter + if counter' = counter then 1 else 0 := by
  cases counter <;> cases counter' <;> rfl

end WriterMetricsSingleton

/-- What a call of the producer of a writer's queue increments in this step. -/
def BoundedQueue.countsEnqueue (q : BoundedQueue Packet) (pushSucceeds : Bool) : Option WriterCounter :=
  match q.producer with
  | .counting _ => some .packetsFailedToEnqueue
  | .pushing _ => if pushSucceeds then none else some .packetsFailedToEnqueue
  | _ => none

namespace DataLinkClient

section

variable (lib : Libmseed) (options : WriterOptions) (c : DataLinkClient)

/-- What `runWriter` increments in this step. -/
def countsWrite (answer : Answer) : Option WriterCounter :=
  match c.writer with
  | .converting packet =>
    match toDataLinkPackets lib packet options.packing with
    | .error _ => some .invalidPackets
    | .ok _ => none
  | .naming packet _ =>
    match streamName packet with
    | .error _ => some .invalidPackets
    | .ok _ => none
  | .writing _ (dataLinkPacket :: _) =>
    if dataLinkPacket.data.isEmpty then none
    else if answer.returnCode < 0 then some .failedPacketsSent
    else some .packetsWritten
  | _ => none

/-- The part of a counter that is due to this writer. -/
def share : WriterCounter → Nat
  | .packetsWritten => c.log.packetsWritten
  | .invalidPackets => c.log.invalidPackets
  | .failedPacketsSent => c.log.failedPacketsSent
  | .packetsFailedToEnqueue => c.queue.packetsFailedToEnqueue

end

variable {lib : Libmseed} {options : WriterOptions} {c c' : DataLinkClient}

/-- A step that neither changes the log nor the queue's counter has no share. -/
theorem share_of_same (hlog : c'.log = c.log)
    (hqueue : c'.queue.packetsFailedToEnqueue = c.queue.packetsFailedToEnqueue) (counter : WriterCounter) :
    c'.share counter = c.share counter := by
  cases counter <;> simp only [share, hlog, hqueue]

theorem share_countInvalid (counter : WriterCounter) :
    c.countInvalid.share counter = c.share counter + if .invalidPackets = counter then 1 else 0 := by
  cases counter <;> rfl

theorem share_dlWrite (streamIdentifier : Str) (record : DataLinkPacket) (rest : List DataLinkPacket)
    (answer : Answer) (counter : WriterCounter) :
    (c.dlWrite streamIdentifier record rest answer).share counter = c.share counter +
      if (if answer.returnCode < 0 then .failedPacketsSent else .packetsWritten) = counter then 1 else 0 := by
  obtain ⟨call, isConnected, hcall, hcases⟩ := dlWrite_cases (c := c) streamIdentifier record rest answer
  have hcode : answer.returnCode = call.returnCode := by rw [hcall]
  rw [hcode]
  rcases hcases with ⟨hfailed, _, heq⟩ | ⟨hfailed, _, heq⟩ | ⟨hwritten, heq⟩ <;> rw [heq]
  · simp only [if_pos hfailed]
    cases counter <;> rfl
  · simp only [if_pos hfailed]
    cases counter <;> rfl
  · simp only [if_neg (not_lt.mpr hwritten)]
    cases counter <;> rfl

theorem share_runWriter {answer : Answer} (h : c.runWriter lib options answer = some c') (counter : WriterCounter) :
    c'.share counter =
      c.share counter + if c.countsWrite lib options answer = some counter then 1 else 0 := by
  have hsame (hcounts : c.countsWrite lib options answer = none) (hshare : c'.share counter = c.share counter) :
      c'.share counter =
        c.share counter + if c.countsWrite lib options answer = some counter then 1 else 0 := by
    rw [hcounts, hshare]
    rfl
  unfold runWriter at h
  cases hwriter : c.writer with
  | notStarted | returned | threw exception => simp [hwriter] at h
  | testing | checkingConnection | locking intervals | testingTerminate intervals | blocking intervals
  | blocked intervals notified | recheckingConnection =>
    simp only [hwriter] at h
    obtain rfl := Option.some.inj h
    exact hsame (by rw [countsWrite, hwriter]) (share_of_same rfl rfl counter)
  | connecting intervals =>
    simp only [hwriter] at h
    split at h <;> obtain rfl := Option.some.inj h <;>
      exact hsame (by rw [countsWrite, hwriter]) (share_of_same rfl rfl counter)
  | dequeuing =>
    refine hsame (by rw [countsWrite, hwriter]) ?_
    simp only [hwriter] at h
    split at h <;> obtain rfl := Option.some.inj h
    · exact share_of_same rfl rfl counter
    · next packet queue htake =>
      obtain ⟨_, _, rfl⟩ := BoundedQueue.take_eq_some.mp htake
      exact share_of_same rfl rfl counter
  | converting packet =>
    simp only [hwriter] at h
    split at h <;> obtain rfl := Option.some.inj h
    · next exception herror =>
      rw [share_countInvalid]
      simp only [countsWrite, hwriter, herror, Option.some.injEq]
    · next records hok =>
      exact hsame (by simp only [countsWrite, hwriter, hok]) (share_of_same rfl rfl counter)
  | naming packet records =>
    simp only [hwriter] at h
    split at h <;> obtain rfl := Option.some.inj h
    · next exception herror =>
      rw [share_countInvalid]
      simp only [countsWrite, hwriter, herror, Option.some.injEq]
    · next streamIdentifier hok =>
      exact hsame (by simp only [countsWrite, hwriter, hok]) (share_of_same rfl rfl counter)
  | writing streamIdentifier records =>
    cases records with
    | nil =>
      simp only [hwriter] at h
      obtain rfl := Option.some.inj h
      exact hsame (by rw [countsWrite, hwriter]) (share_of_same rfl rfl counter)
    | cons record rest =>
      simp only [hwriter] at h
      split at h <;> obtain rfl := Option.some.inj h
      · next hempty =>
        exact hsame (by simp only [countsWrite, hwriter, hempty, if_true]) (share_of_same rfl rfl counter)
      · next hnonempty =>
        rw [share_dlWrite]
        simp only [countsWrite, hwriter, hnonempty]
        split <;> simp only [Bool.false_eq_true, if_false, Option.some.injEq]

theorem share_produce {queue : BoundedQueue Packet} {maximumSize : Nat} {pushSucceeds : Bool}
    (h : c.queue.produce (USEEDLinkToRingServer.enqueue maximumSize) pushSucceeds = some queue)
    (counter : WriterCounter) :
    share { c with queue } counter =
      c.share counter + if c.queue.countsEnqueue pushSucceeds = some counter then 1 else 0 := by
  have hlost (hcounts : c.queue.countsEnqueue pushSucceeds = some .packetsFailedToEnqueue)
      (hcounter : queue.packetsFailedToEnqueue = c.queue.packetsFailedToEnqueue + 1) :
      share { c with queue } counter =
        c.share counter + if c.queue.countsEnqueue pushSucceeds = some counter then 1 else 0 := by
    rw [hcounts]
    cases counter
    case packetsFailedToEnqueue => exact hcounter
    all_goals rfl
  have hsame (hcounts : c.queue.countsEnqueue pushSucceeds = none)
      (hcounter : queue.packetsFailedToEnqueue = c.queue.packetsFailedToEnqueue) :
      share { c with queue } counter =
        c.share counter + if c.queue.countsEnqueue pushSucceeds = some counter then 1 else 0 := by
    have hshare : share { c with queue } counter = c.share counter := by
      cases counter
      case packetsFailedToEnqueue => exact hcounter
      all_goals rfl
    rw [hcounts, hshare]
    rfl
  unfold BoundedQueue.produce at h
  cases hproducer : c.queue.producer with
  | idle => simp [hproducer] at h
  | sizing packet | looping packet =>
    simp only [hproducer] at h
    obtain rfl := Option.some.inj h
    exact hsame (by rw [BoundedQueue.countsEnqueue, hproducer]) rfl
  | counting packet =>
    simp only [hproducer] at h
    obtain rfl := Option.some.inj h
    exact hlost (by rw [BoundedQueue.countsEnqueue, hproducer]) rfl
  | popping packet =>
    refine hsame (by rw [BoundedQueue.countsEnqueue, hproducer]) ?_
    simp only [hproducer] at h
    split at h <;> obtain rfl := Option.some.inj h <;> rfl
  | pushing packet =>
    simp only [hproducer] at h
    split at h <;> obtain rfl := Option.some.inj h
    · next hpushed => exact hsame (by rw [BoundedQueue.countsEnqueue, hproducer]; exact if_pos hpushed) rfl
    · next hfailed => exact hlost (by rw [BoundedQueue.countsEnqueue, hproducer]; exact if_neg hfailed) rfl

end DataLinkClient

/-- The process with the counters that its writers share. -/
structure CountedProcess (n : Nat) where
  process : Process n
  metrics : WriterMetricsSingleton := {}

namespace CountedProcess

variable {n : Nat} {lib : Libraries} {options : ProcessOptions n} {s s' : CountedProcess n}

/-- The counter that a step of the process increments. -/
def counts (lib : Libraries) (options : ProcessOptions n) (p : Process n) : Process.Event n → Option WriterCounter
  | .writer client answer => (p.dataLink client).countsWrite lib (options.dataLink client) answer
  | .metrics pushSucceeds =>
    match p.metrics with
    | .enqueuing _ client =>
      if h : client < n then (p.dataLink ⟨client, h⟩).queue.countsEnqueue pushSucceeds else none
    | _ => none
  | _ => none

def next (lib : Libraries) (options : ProcessOptions n) (s : CountedProcess n) (event : Process.Event n) :
    Option (CountedProcess n) :=
  (s.process.next lib options event).map fun process =>
    { process
      metrics :=
        match counts lib options s.process event with
        | some counter => s.metrics.increment counter
        | none => s.metrics }

def construct (options : ProcessOptions n) (savedState : Option Nat) : CountedProcess n :=
  { process := .construct options savedState }

/-! ### Sums over the clients -/

/-- One term of a sum changes. -/
theorem sum_eq_add {f g : Fin n → Nat} (client : Fin n) (d : Nat) (hself : g client = f client + d)
    (hothers : ∀ other, other ≠ client → g other = f other) : ∑ i, g i = ∑ i, f i + d := by
  have hrest : ∑ other ∈ Finset.univ.erase client, g other = ∑ other ∈ Finset.univ.erase client, f other :=
    Finset.sum_congr rfl fun other hother => hothers other (Finset.ne_of_mem_erase hother)
  rw [← Finset.add_sum_erase _ g (Finset.mem_univ client), ← Finset.add_sum_erase _ f (Finset.mem_univ client),
    hself, hrest]
  omega

section

variable {p p' : Process n} {event : Process.Event n}

/-- Each step adds to the shares what it increments. -/
theorem shares_of_next (h : Process.next lib options p event = some p') (counter : WriterCounter) :
    ∑ client, (p'.dataLink client).share counter = ∑ client, (p.dataLink client).share counter +
      if counts lib options p event = some counter then 1 else 0 := by
  have hsame (hcounts : counts lib options p event = none)
      (hshare : ∀ client, (p'.dataLink client).share counter = (p.dataLink client).share counter) :
      ∑ client, (p'.dataLink client).share counter = ∑ client, (p.dataLink client).share counter +
        if counts lib options p event = some counter then 1 else 0 := by
    rw [hcounts, Finset.sum_congr rfl fun client _ => hshare client]
    rfl
  cases event with
  | main interrupted =>
    refine hsame rfl fun client => ?_
    have hcontrol := (Process.movesNothing_of_mainStep client (Process.mainStep_of_mainThread h)).control
    exact DataLinkClient.share_of_same hcontrol.log (congrArg (·.packetsFailedToEnqueue) hcontrol.queue) counter
  | seedLink answer =>
    obtain ⟨seedLink, _, ⟨_, _, _, _, _, rfl⟩ | ⟨_, _, rfl⟩⟩ := Process.pollSEEDLink_cases h <;>
      exact hsame rfl fun _ => rfl
  | callback pushSucceeds =>
    obtain ⟨mImportQueue, _, rfl⟩ := Option.map_eq_some_iff.mp h
    exact hsame rfl fun _ => rfl
  | metrics pushSucceeds =>
    cases Process.metricsStep_of_tabulateMetrics h with
    | handedOver packet other queue hmetrics hcall =>
      refine hsame (by simp only [counts, hmetrics]) fun client => ?_
      obtain ⟨_, rfl⟩ := BoundedQueue.call_eq_some.mp hcall
      refine Process.setDataLink_related (R := fun c c' => c'.share counter = c.share counter)
        (fun _ => rfl) ?_ client
      exact DataLinkClient.share_of_same rfl rfl counter
    | produced packet other queue hmetrics hproduce =>
      have hcounts : counts lib options p (.metrics pushSucceeds) =
          (p.dataLink other).queue.countsEnqueue pushSucceeds := by
        simp only [counts, hmetrics, other.isLt, dif_pos]
      rw [hcounts]
      refine sum_eq_add other _ ?_ fun client hclient => by rw [Process.setDataLink_of_ne hclient]
      rw [Process.setDataLink_self]
      exact DataLinkClient.share_produce hproduce counter
    | enqueued packet other hmetrics hidle =>
      refine hsame ?_ fun _ => rfl
      simp only [counts, hmetrics, other.isLt, dif_pos, BoundedQueue.countsEnqueue, hidle]
    | tested hmetrics | left hmetrics | foundNothing hmetrics | took _ _ hmetrics | updated _ hmetrics
    | propagated _ _ hmetrics => exact hsame (by simp only [counts, hmetrics]) fun _ => rfl
  | writer client answer =>
    obtain ⟨c, hc, rfl⟩ := Option.map_eq_some_iff.mp h
    refine sum_eq_add client _ ?_ fun other hother => by rw [Process.setDataLink_of_ne hother]
    rw [Process.setDataLink_self]
    exact DataLinkClient.share_runWriter hc counter

/-- A pop at the queue of this client, if this step is one, finds a packet. -/
def PopsFind (p : Process n) (event : Process.Event n) (client : Fin n) : Prop :=
  ∀ packet pushSucceeds, event = .metrics pushSucceeds → p.metrics = .enqueuing packet client →
    (p.dataLink client).queue.PopFindsPacket (.produce pushSucceeds)

/-- Everything a step of the process does to a client's queue. -/
inductive QueueStep (options : ProcessOptions n) (p : Process n) (event : Process.Event n) (client : Fin n) :
    BoundedQueue Packet → Prop
  | kept : PopsFind p event client → QueueStep options p event client (p.dataLink client).queue
  | called (packet : Packet) (queue : BoundedQueue Packet) : PopsFind p event client →
      (p.dataLink client).queue.call packet = some queue → QueueStep options p event client queue
  | took (packet : Packet) (queue : BoundedQueue Packet) : PopsFind p event client →
      (p.dataLink client).queue.take = some (packet, queue) → QueueStep options p event client queue
  | produced (packet : Packet) (pushSucceeds : Bool) (queue : BoundedQueue Packet) :
      event = .metrics pushSucceeds → p.metrics = .enqueuing packet client →
      (p.dataLink client).queue.produce (enqueue (options.dataLink client).mMaximumInternalQueueSize) pushSucceeds =
        some queue →
      QueueStep options p event client queue

theorem queueStep_of_next (client : Fin n) (h : Process.next lib options p event = some p') :
    QueueStep options p event client (p'.dataLink client).queue := by
  have hother {metrics : Metrics} (hmetrics : p.metrics = metrics)
      (hne : ∀ packet, metrics ≠ .enqueuing packet client) : PopsFind p event client :=
    fun packet _ _ henqueuing => absurd (hmetrics.symm.trans henqueuing) (hne packet)
  cases event with
  | main interrupted =>
    rw [(Process.movesNothing_of_mainStep client (Process.mainStep_of_mainThread h)).control.queue]
    exact .kept nofun
  | seedLink answer =>
    obtain ⟨seedLink, _, ⟨_, _, _, _, _, rfl⟩ | ⟨_, _, rfl⟩⟩ := Process.pollSEEDLink_cases h <;> exact .kept nofun
  | callback pushSucceeds =>
    obtain ⟨mImportQueue, _, rfl⟩ := Option.map_eq_some_iff.mp h
    exact .kept nofun
  | metrics pushSucceeds =>
    cases Process.metricsStep_of_tabulateMetrics h with
    | handedOver packet other queue hmetrics hcall =>
      show QueueStep options p _ client ((p.setDataLink other _).dataLink client).queue
      by_cases heq : client = other
      · subst heq
        rw [Process.setDataLink_self]
        exact .called packet queue (hother hmetrics nofun) hcall
      · rw [Process.setDataLink_of_ne heq]
        exact .kept (hother hmetrics nofun)
    | produced packet other queue hmetrics hproduce =>
      by_cases heq : client = other
      · subst heq
        rw [Process.setDataLink_self]
        exact .produced packet pushSucceeds queue rfl hmetrics hproduce
      · rw [Process.setDataLink_of_ne heq]
        refine .kept (hother hmetrics fun _ henqueuing => heq ?_)
        exact Fin.ext (Metrics.enqueuing.inj henqueuing).2.symm
    | enqueued packet other hmetrics hidle =>
      refine .kept fun _ _ _ henqueuing _ _ _ hpopping => ?_
      obtain rfl := Fin.ext (Metrics.enqueuing.inj (hmetrics.symm.trans henqueuing)).2
      cases hidle.symm.trans hpopping
    | tested hmetrics | left hmetrics | foundNothing hmetrics | took _ _ hmetrics | updated _ hmetrics
    | propagated _ _ hmetrics => exact .kept (hother hmetrics nofun)
  | writer other answer =>
    obtain ⟨c, hc, rfl⟩ := Option.map_eq_some_iff.mp h
    by_cases heq : client = other
    · subst heq
      rw [Process.setDataLink_self]
      rcases DataLinkClient.writeStep_queue (DataLinkClient.writeStep_of_runWriter hc) with
        hqueue | ⟨packet, _, htake⟩
      · rw [hqueue]
        exact .kept nofun
      · exact .took packet c.queue nofun htake
    · rw [Process.setDataLink_of_ne heq]
      exact .kept nofun

/-- A client's counter goes ahead of its losses exactly at the pops that find nothing. -/
theorem overcount_of_next (client : Fin n) (h : Process.next lib options p event = some p') :
    (PopsFind p event client → (p'.dataLink client).queue.overcount = (p.dataLink client).queue.overcount) ∧
      (¬ PopsFind p event client →
        (p.dataLink client).queue.overcount < (p'.dataLink client).queue.overcount) := by
  have hstep := queueStep_of_next client h
  generalize (p'.dataLink client).queue = queue at hstep
  cases hstep with
  | kept hfinds => exact ⟨fun _ => rfl, absurd hfinds⟩
  | called packet queue hfinds hcall =>
    obtain ⟨hidle, rfl⟩ := BoundedQueue.call_eq_some.mp hcall
    refine ⟨fun _ => ?_, absurd hfinds⟩
    simp only [BoundedQueue.overcount, BoundedQueue.counted, BoundedQueue.owed, hidle]
  | took packet queue hfinds htake =>
    obtain ⟨_, _, rfl⟩ := BoundedQueue.take_eq_some.mp htake
    exact ⟨fun _ => rfl, absurd hfinds⟩
  | produced packet pushSucceeds queue hevent hmetrics hproduce =>
    obtain ⟨hkeep, hgrow⟩ := BoundedQueue.produce_overcount hproduce
    refine ⟨fun hfinds => hkeep (hfinds packet pushSucceeds hevent hmetrics), fun hnot => hgrow fun hfinds => ?_⟩
    refine hnot fun _ _ hevent' _ => ?_
    obtain rfl := Process.Event.metrics.inj (hevent.symm.trans hevent')
    exact hfinds

/-- `enqueue` counts what it pops as failed to enqueue. -/
theorem packetsPopped_of_next (client : Fin n) (h : Process.next lib options p event = some p') :
    (p'.dataLink client).queue.packetsPopped = (p.dataLink client).queue.packetsPopped := by
  have hstep := queueStep_of_next client h
  generalize (p'.dataLink client).queue = queue at hstep
  cases hstep with
  | kept hfinds => rfl
  | called packet queue hfinds hcall =>
    obtain ⟨_, rfl⟩ := BoundedQueue.call_eq_some.mp hcall
    rfl
  | took packet queue hfinds htake =>
    obtain ⟨_, _, rfl⟩ := BoundedQueue.take_eq_some.mp htake
    rfl
  | produced packet pushSucceeds queue hevent hmetrics hproduce =>
    unfold BoundedQueue.produce at hproduce
    split at hproduce
    · cases hproduce
    · obtain rfl := Option.some.inj hproduce
      rfl
    · obtain rfl := Option.some.inj hproduce
      rfl
    · obtain rfl := Option.some.inj hproduce
      rfl
    all_goals
      split at hproduce <;> obtain rfl := Option.some.inj hproduce <;> rfl

end

/-! ### Whole runs -/

/-- What is known of each writer, and of the counters. -/
structure Shared (lib : Libraries) (options : ProcessOptions n) (s : CountedProcess n) : Prop where
  accounts : ∀ client, Process.Accounts lib options s.process client
  shares : ∀ counter, s.metrics.get counter = ∑ client, (s.process.dataLink client).share counter
  popped : ∀ client, (s.process.dataLink client).queue.packetsPopped = 0

theorem Shared.next {event : Process.Event n} (h : Shared lib options s) (hstep : next lib options s event = some s') :
    Shared lib options s' := by
  obtain ⟨process, hprocess, rfl⟩ := Option.map_eq_some_iff.mp hstep
  refine ⟨fun client => (h.accounts client).next hprocess, fun counter => ?_, fun client => ?_⟩
  · rw [shares_of_next hprocess, ← h.shares]
    dsimp only
    split
    · next counter' hcounts => simp only [WriterMetricsSingleton.get_increment, hcounts, Option.some.injEq]
    · next hcounts =>
      rw [hcounts]
      rfl
  · rw [packetsPopped_of_next client hprocess]
    exact h.popped client

theorem shared_construct (savedState : Option Nat) : Shared lib options (construct options savedState) where
  accounts := Process.accounts_construct savedState
  shares counter := by
    cases counter <;> simp [construct, WriterMetricsSingleton.get, Process.construct, DataLinkClient.share]
  popped _ := rfl

/-- The packets that were lost at a writer's queue, and one that was counted and is about to be popped. -/
def losses (c : DataLinkClient) : Nat := c.queue.lost.length + c.queue.owed

/-- What the shared counter says beyond the packets lost at the queues. -/
def overcount (s : CountedProcess n) : Int := ∑ client, (s.process.dataLink client).queue.overcount

theorem Shared.failedToEnqueue (h : Shared lib options s) :
    (s.metrics.get .packetsFailedToEnqueue : Int) =
      s.overcount + ↑(∑ client, losses (s.process.dataLink client)) := by
  rw [h.shares, overcount, Nat.cast_sum, Nat.cast_sum, ← Finset.sum_add_distrib]
  refine Finset.sum_congr rfl fun client _ => ?_
  have hpopped := h.popped client
  simp only [DataLinkClient.share, losses, BoundedQueue.overcount, BoundedQueue.counted]
  omega

/-- The counter goes ahead of the losses exactly at the pops that find nothing. -/
theorem overcount_next {event : Process.Event n} (hstep : next lib options s event = some s') :
    ((∀ client, PopsFind s.process event client) → s'.overcount = s.overcount) ∧
      ((¬ ∀ client, PopsFind s.process event client) → s.overcount < s'.overcount) := by
  obtain ⟨process, hprocess, rfl⟩ := Option.map_eq_some_iff.mp hstep
  refine ⟨fun hfinds => ?_, fun hnot => ?_⟩
  · exact Finset.sum_congr rfl fun client _ => (overcount_of_next client hprocess).1 (hfinds client)
  · obtain ⟨client, hclient⟩ := not_forall.mp hnot
    refine Finset.sum_lt_sum (fun other _ => ?_) ⟨client, Finset.mem_univ client, ?_⟩
    · by_cases hother : PopsFind s.process event other
      · exact ((overcount_of_next other hprocess).1 hother).ge
      · exact ((overcount_of_next other hprocess).2 hother).le
    · exact (overcount_of_next client hprocess).2 hclient

theorem shared_of_exec {savedState : Option Nat} {events : List (Process.Event n)}
    (hrun : exec (next lib options) (construct options savedState) events = some s) : Shared lib options s :=
  invariant (fun _ _ _ h hstep => Shared.next h hstep) (shared_construct savedState) hrun

/-- In every run of the process with any number of writers: the counters that all writers share are sums over the
writers, of the calls of `dl_write` with each outcome and of the packets that were taken and not accepted. The
counter of the packets that failed to be enqueued is never less than the packets lost at the queues, and is as many
exactly when no pop so far found a queue empty. -/
theorem shared_counters (lib : Libraries) (options : ProcessOptions n) (savedState : Option Nat)
    (events : List (Process.Event n)) (s : CountedProcess n)
    (hrun : exec (next lib options) (construct options savedState) events = some s) :
    s.metrics.get .packetsWritten = ∑ client, (s.process.dataLink client).log.calls.countP (!·.failed) ∧
      s.metrics.get .failedPacketsSent = ∑ client, (s.process.dataLink client).log.calls.countP (·.failed) ∧
      s.metrics.get .invalidPackets + ∑ client, DataLinkClient.uncounted lib (options.dataLink client)
            (s.process.dataLink client).writer =
        ∑ client, (s.process.dataLink client).queue.obtained.countP
          (fun packet => ¬ DataLinkClient.Accepted lib (options.dataLink client) packet) ∧
      ∑ client, losses (s.process.dataLink client) ≤ s.metrics.get .packetsFailedToEnqueue ∧
      (s.metrics.get .packetsFailedToEnqueue = ∑ client, losses (s.process.dataLink client) ↔
        Along (next lib options) (fun s event => ∀ client, PopsFind s.process event client)
          (construct options savedState) events) := by
  have hshared := shared_of_exec hrun
  have hfailed := hshared.failedToEnqueue
  have hstart : (construct options savedState).overcount = 0 := Finset.sum_eq_zero fun _ _ => rfl
  obtain ⟨hle, hiff⟩ := along_iff_of_measure (m := overcount)
    (fun _ _ _ hfinds hstep => (overcount_next hstep).1 hfinds)
    (fun _ _ _ hnot hstep => (overcount_next hstep).2 hnot) hrun
  rw [hstart] at hle hiff
  refine ⟨?_, ?_, ?_, by omega, ?_⟩
  · rw [hshared.shares]
    exact Finset.sum_congr rfl fun client _ => (hshared.accounts client).counted.counted.packetsWritten
  · rw [hshared.shares]
    exact Finset.sum_congr rfl fun client _ => (hshared.accounts client).counted.counted.failedPacketsSent
  · rw [hshared.shares, ← Finset.sum_add_distrib]
    refine Finset.sum_congr rfl fun client _ => ?_
    rw [← (hshared.accounts client).counts]
    exact congrArg (· + _) (hshared.accounts client).counted.counted.invalidPackets
  · rw [← hiff]
    omega

/-- A record is forwarded to two writers, and the second one fails to write it. -/
def forwardToTwo : List (Process.Event 2) :=
  List.replicate 5 (.main false) ++ [.seedLink {}, .seedLink {}] ++
    [.seedLink { collected := .packet .mseed3 knownRecordOnSecond.bytes }, .seedLink {}, .callback true,
      .callback true] ++
    List.replicate 11 (.metrics true) ++
    Process.bothWriters (List.replicate 6 {}) (List.replicate 6 { returnCode := -1 })

/-- Each of the two calls is counted once. -/
theorem shared_counters_known :
    ∃ s : CountedProcess 2, exec (next (.knowing knownRecordOnSecond knownNames) {}) (construct {} none)
        forwardToTwo = some s ∧
      s.metrics.get .packetsWritten = 1 ∧
      s.metrics.get .failedPacketsSent = ∑ client, (s.process.dataLink client).log.calls.countP (·.failed) ∧
      s.metrics.get .failedPacketsSent = 1 := by
  have hrun : ∃ s : CountedProcess 2, exec (next (.knowing knownRecordOnSecond knownNames) {}) (construct {} none)
      forwardToTwo = some s ∧ s.metrics.get .packetsWritten = 1 ∧ s.metrics.get .failedPacketsSent = 1 :=
    ⟨_, rfl, rfl, rfl⟩
  obtain ⟨s, hexec, hwritten, hfailed⟩ := hrun
  exact ⟨s, hexec, hwritten, (shared_counters _ {} none _ s hexec).2.1, hfailed⟩

end CountedProcess

end USEEDLinkToRingServer
