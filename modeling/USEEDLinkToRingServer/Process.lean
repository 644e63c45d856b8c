import USEEDLinkToRingServer.SEEDLinkClient
import USEEDLinkToRingServer.DataLinkClient

/-!
# The process

The main thread, the SEEDLink thread, the metrics thread and `n` writer threads with the queues between
them. Any thread can take the next step. Times are not modelled: a wait with a time-out may end at any
moment.
-/

namespace USEEDLinkToRingServer

open Machine

/-- Where `tabulateMetrics` is. -/
inductive Metrics
  | notStarted
  /-- At the test of `mKeepRunning`. -/
  | testing
  | dequeuing
  | updating (packet : Packet)
  /-- At the head of the loop over the clients. -/
  | propagating (packet : Packet) (client : Nat)
  /-- In `enqueue` of a client. -/
  | enqueuing (packet : Packet) (client : Nat)
  | ended

/-- Where the main thread is in `start`, `handleMainThread` and `stop`. -/
inductive Main
  | starting
  | startingWriter (client : Nat)
  | startingSEEDLink
  | waiting
  /-- In `checkFuturesOkay`. -/
  | checkingSEEDLink
  | checkingWriter (client : Nat) (isOkay : Bool)
  | clearingKeepRunning
  | joiningMetrics
  | stoppingSEEDLink
  | stoppingWriter (client : Nat)
  | gettingSEEDLink
  | gettingWriter (client : Nat)
  | resettingSEEDLink
  | resettingWriter (client : Nat)
  | stopped
  /-- A future without shared state was waited for. -/
  | undefined
deriving DecidableEq, Repr

/-- The main thread waits for a reason to stop. -/
def Main.watching : Main → Bool
  | .waiting | .checkingSEEDLink | .checkingWriter _ _ | .clearingKeepRunning | .undefined => true
  | _ => false

structure ProcessOptions (n : Nat) where
  seedLink : SEEDLinkOptions := {}
  dataLink : Fin n → WriterOptions := fun _ => {}
  importQueueSize : Nat := 8192

structure Process (n : Nat) where
  mKeepRunning : Bool := true
  mImportQueue : BoundedQueue Packet := {}
  seedLink : SEEDLinkClient := {}
  dataLink : Fin n → DataLinkClient := fun _ => {}
  metrics : Metrics := .notStarted
  main : Main := .starting
  /-- The futures that have a shared state. -/
  seedLinkFuture : Bool := false
  dataLinkFuture : Fin n → Bool := fun _ => false

namespace Process

variable {n : Nat}

/-- A moved-from packet. -/
def movedFrom : Packet := {}

section

variable (lib : Libraries) (options : ProcessOptions n) (p : Process n)

def setDataLink (client : Fin n) (dataLinkClient : DataLinkClient) : Process n :=
  { p with dataLink := Function.update p.dataLink client dataLinkClient }

/-- A step of the SEEDLink thread outside the callback. The callback is handed the packet that the
thread offers, and the thread goes on when the callback has returned. -/
def pollSEEDLink (answer : PollAnswer) : Option (Process n) :=
  match p.seedLink.packetToCallback lib options.seedLink answer with
  | none => none
  | some seedLink =>
    match p.seedLink.poller with
    | .offering (packet :: _) =>
      (p.mImportQueue.call packet).map fun mImportQueue => { p with seedLink, mImportQueue }
    | .callingBack _ =>
      match p.mImportQueue.producer with
      | .idle => some { p with seedLink }
      | _ => none
    | _ => some { p with seedLink }

/-- A step of the SEEDLink thread in the callback. -/
def callBack (pushSucceeds : Bool) : Option (Process n) :=
  (p.mImportQueue.produce (addPacketCallback options.importQueueSize) pushSucceeds).map
    fun mImportQueue => { p with mImportQueue }

/-- A step of the metrics thread. With a single client the packet is moved into its queue. An exception
of the metrics' update is caught and changes nothing. -/
def tabulateMetrics (pushSucceeds : Bool) : Option (Process n) :=
  match p.metrics with
  | .notStarted | .ended => none
  | .testing => some { p with metrics := if p.mKeepRunning then .dequeuing else .ended }
  | .dequeuing =>
    match p.mImportQueue.take with
    | none => some { p with metrics := .testing }
    | some (packet, mImportQueue) => some { p with mImportQueue, metrics := .updating packet }
  | .updating packet => some { p with metrics := .propagating packet 0 }
  | .propagating packet client =>
    if h : client < n then
      ((p.dataLink ⟨client, h⟩).enqueue packet).map fun dataLinkClient =>
        { p.setDataLink ⟨client, h⟩ dataLinkClient with metrics := .enqueuing packet client }
    else some { p with metrics := .testing }
  | .enqueuing packet client =>
    if h : client < n then
      match (p.dataLink ⟨client, h⟩).queue.producer with
      | .idle =>
        let movePacket := n == 1
        some { p with
          metrics := .propagating (if movePacket then movedFrom else packet) (client + 1) }
      | _ =>
        ((p.dataLink ⟨client, h⟩).produce (options.dataLink ⟨client, h⟩) pushSucceeds).map
          (p.setDataLink ⟨client, h⟩)
    else none

def runWriter (client : Fin n) (answer : Answer) : Option (Process n) :=
  ((p.dataLink client).runWriter lib (options.dataLink client) answer).map (p.setDataLink client)

/-- A step of the main thread. It waits for a thread by taking no step until the thread has ended. -/
def mainThread (interrupted : Bool) : Option (Process n) :=
  match p.main with
  | .starting => some { p with mKeepRunning := true, metrics := .testing, main := .startingWriter 0 }
  | .startingWriter client =>
    if h : client < n then
      (p.dataLink ⟨client, h⟩).start.map fun dataLinkClient =>
        { p.setDataLink ⟨client, h⟩ dataLinkClient with
          dataLinkFuture := Function.update p.dataLinkFuture ⟨client, h⟩ true
          main := .startingWriter (client + 1) }
    else some { p with main := .startingSEEDLink }
  | .startingSEEDLink =>
    p.seedLink.start.map fun seedLink => { p with seedLink, seedLinkFuture := true, main := .waiting }
  | .waiting => some { p with main := if interrupted then .clearingKeepRunning else .checkingSEEDLink }
  | .checkingSEEDLink =>
    if p.seedLinkFuture then
      match p.seedLink.poller with
      | .returned => some { p with seedLinkFuture := false, main := .checkingWriter 0 true }
      | .threw _ => some { p with seedLinkFuture := false, main := .checkingWriter 0 false }
      | _ => some { p with main := .checkingWriter 0 true }
    else some { p with main := .undefined }
  | .checkingWriter client isOkay =>
    if h : client < n then
      if p.dataLinkFuture ⟨client, h⟩ then
        match (p.dataLink ⟨client, h⟩).writer with
        | .returned =>
          some { p with
            dataLinkFuture := Function.update p.dataLinkFuture ⟨client, h⟩ false
            main := .checkingWriter (client + 1) isOkay }
        | .threw _ =>
          some { p with
            dataLinkFuture := Function.update p.dataLinkFuture ⟨client, h⟩ false
            main := .clearingKeepRunning }
        | _ => some { p with main := .checkingWriter (client + 1) isOkay }
      else some { p with main := .undefined }
    else some { p with main := if isOkay then .waiting else .clearingKeepRunning }
  | .clearingKeepRunning => some { p with mKeepRunning := false, main := .joiningMetrics }
  | .joiningMetrics =>
    match p.metrics with
    | .ended => some { p with main := .stoppingSEEDLink }
    | _ => none
  | .stoppingSEEDLink => some { p with seedLink := p.seedLink.stop, main := .stoppingWriter 0 }
  | .stoppingWriter client =>
    if h : client < n then
      let dataLinkClient := (p.dataLink ⟨client, h⟩).stop
      some { p.setDataLink ⟨client, h⟩ dataLinkClient with
        main := .stoppingWriter (if dataLinkClient.stopping = .idle then client + 1 else client) }
    else some { p with main := .gettingSEEDLink }
  | .gettingSEEDLink =>
    if p.seedLinkFuture then
      if p.seedLink.poller.ended then some { p with seedLinkFuture := false, main := .gettingWriter 0 }
      else none
    else some { p with main := .gettingWriter 0 }
  | .gettingWriter client =>
    if h : client < n then
      if p.dataLinkFuture ⟨client, h⟩ then
        if (p.dataLink ⟨client, h⟩).writer.ended then
          some { p with
            dataLinkFuture := Function.update p.dataLinkFuture ⟨client, h⟩ false
            main := .gettingWriter (client + 1) }
        else none
      else some { p with main := .gettingWriter (client + 1) }
    else some { p with main := .resettingSEEDLink }
  | .resettingSEEDLink =>
    some { p with
      seedLink := p.seedLink.stop.disconnect lib options.seedLink, main := .resettingWriter 0 }
  | .resettingWriter client =>
    if h : client < n then
      some { p.setDataLink ⟨client, h⟩ (p.dataLink ⟨client, h⟩).destroy with
        main := .resettingWriter (client + 1) }
    else some { p with main := .stopped }
  | .stopped | .undefined => none

end

inductive Event (n : Nat)
  | main (interrupted : Bool)
  | seedLink (answer : PollAnswer)
  | callback (pushSucceeds : Bool)
  | metrics (pushSucceeds : Bool)
  | writer (client : Fin n) (answer : Answer)
deriving DecidableEq, Repr

def next (lib : Libraries) (options : ProcessOptions n) (p : Process n) : Event n → Option (Process n)
  | .main interrupted => p.mainThread lib options interrupted
  | .seedLink answer => p.pollSEEDLink lib options answer
  | .callback pushSucceeds => p.callBack options pushSucceeds
  | .metrics pushSucceeds => p.tabulateMetrics options pushSucceeds
  | .writer client answer => p.runWriter lib options client answer

/-- The process after its construction, if a state file may have been there before. -/
def construct (options : ProcessOptions n) (savedState : Option Nat) : Process n :=
  { seedLink := .initializeClient options.seedLink savedState }

/-! ### What the steps do -/

section

variable {lib : Libraries} {options : ProcessOptions n} {p p' : Process n}

theorem setDataLink_self (client : Fin n) (c : DataLinkClient) :
    (p.setDataLink client c).dataLink client = c := by
  simp [setDataLink]

theorem setDataLink_of_ne {client other : Fin n} (h : other ≠ client) (c : DataLinkClient) :
    (p.setDataLink client c).dataLink other = p.dataLink other := by
  simp [setDataLink, h]

/-- What is related to a client's new state if the client is the one that is set, and to itself if not,
is related to the client after the update. -/
theorem setDataLink_related {R : DataLinkClient → DataLinkClient → Prop} (hrefl : ∀ c, R c c)
    {other : Fin n} {c : DataLinkClient} (h : R (p.dataLink other) c) (client : Fin n) :
    R (p.dataLink client) ((p.setDataLink other c).dataLink client) := by
  by_cases heq : client = other
  · rw [heq, setDataLink_self]
    exact h
  · rw [setDataLink_of_ne heq]
    exact hrefl _

/-- What holds of every client and of a client's new state holds of every client after the update. -/
theorem setDataLink_forall {P : DataLinkClient → Prop} (h : ∀ client, P (p.dataLink client))
    {other : Fin n} {c : DataLinkClient} (hc : P c) (client : Fin n) :
    P ((p.setDataLink other c).dataLink client) := by
  by_cases heq : client = other
  · rw [heq, setDataLink_self]
    exact hc
  · rw [setDataLink_of_ne heq]
    exact h client

/-- Everything a step of the metrics thread does. -/
inductive MetricsStep (options : ProcessOptions n) (pushSucceeds : Bool) (p : Process n) :
    Process n → Prop
  | tested : p.metrics = .testing → p.mKeepRunning = true →
      MetricsStep options pushSucceeds p { p with metrics := .dequeuing }
  | left : p.metrics = .testing → p.mKeepRunning = false →
      MetricsStep options pushSucceeds p { p with metrics := .ended }
  | foundNothing : p.metrics = .dequeuing → p.mImportQueue.take = none →
      MetricsStep options pushSucceeds p { p with metrics := .testing }
  | took (packet : Packet) (mImportQueue : BoundedQueue Packet) :
      p.metrics = .dequeuing → p.mImportQueue.take = some (packet, mImportQueue) →
      MetricsStep options pushSucceeds p { p with mImportQueue, metrics := .updating packet }
  | updated (packet : Packet) : p.metrics = .updating packet →
      MetricsStep options pushSucceeds p { p with metrics := .propagating packet 0 }
  | handedOver (packet : Packet) (client : Fin n) (queue : BoundedQueue Packet) :
      p.metrics = .propagating packet client → (p.dataLink client).queue.call packet = some queue →
      MetricsStep options pushSucceeds p
        { p.setDataLink client { p.dataLink client with queue } with metrics := .enqueuing packet client }
  | propagated (packet : Packet) (client : Nat) : p.metrics = .propagating packet client → n ≤ client →
      MetricsStep options pushSucceeds p { p with metrics := .testing }
  | enqueued (packet : Packet) (client : Fin n) : p.metrics = .enqueuing packet client →
      (p.dataLink client).queue.producer = .idle →
      MetricsStep options pushSucceeds p
        { p with
          metrics := .propagating (if n == 1 then movedFrom else packet) (client + 1) }
  | produced (packet : Packet) (client : Fin n) (queue : BoundedQueue Packet) :
      p.metrics = .enqueuing packet client →
      (p.dataLink client).queue.produce
        (enqueue (options.dataLink client).mMaximumInternalQueueSize) pushSucceeds = some queue →
      MetricsStep options pushSucceeds p (p.setDataLink client { p.dataLink client with queue })

theorem metricsStep_of_tabulateMetrics {pushSucceeds : Bool}
    (h : p.tabulateMetrics options pushSucceeds = some p') : MetricsStep options pushSucceeds p p' := by
  unfold tabulateMetrics at h
  cases hmetrics : p.metrics with
  | notStarted | ended => simp [hmetrics] at h
  | testing =>
    cases hkeep : p.mKeepRunning <;>
      simp only [hmetrics, hkeep, Bool.false_eq_true, if_true, if_false] at h <;>
      obtain rfl := Option.some.inj h
    · rw [← hkeep]
      exact .left hmetrics hkeep
    · rw [← hkeep]
      exact .tested hmetrics hkeep
  | dequeuing =>
    simp only [hmetrics] at h
    split at h <;> obtain rfl := Option.some.inj h
    · next htake => exact .foundNothing hmetrics htake
    · next packet mImportQueue htake => exact .took packet mImportQueue hmetrics htake
  | updating packet =>
    simp only [hmetrics] at h
    obtain rfl := Option.some.inj h
    exact .updated packet hmetrics
  | propagating packet client =>
    simp only [hmetrics] at h
    split at h
    · next hlt =>
      obtain ⟨c, hc, rfl⟩ := Option.map_eq_some_iff.mp h
      obtain ⟨queue, hqueue, rfl⟩ := Option.map_eq_some_iff.mp hc
      exact .handedOver packet ⟨client, hlt⟩ queue hmetrics hqueue
    · next hge =>
      obtain rfl := Option.some.inj h
      exact .propagated packet client hmetrics (not_lt.mp hge)
  | enqueuing packet client =>
    simp only [hmetrics] at h
    split at h
    · next hlt =>
      split at h
      · next hidle =>
        obtain rfl := Option.some.inj h
        exact .enqueued packet ⟨client, hlt⟩ hmetrics hidle
      · obtain ⟨c, hc, rfl⟩ := Option.map_eq_some_iff.mp h
        obtain ⟨queue, hqueue, rfl⟩ := Option.map_eq_some_iff.mp hc
        exact .produced packet ⟨client, hlt⟩ queue hmetrics hqueue
    · cases h

/-- Everything a step of the main thread does. -/
inductive MainStep (lib : Libraries) (options : ProcessOptions n) (p : Process n) : Process n → Prop
  | started : p.main = .starting →
      MainStep lib options p { p with mKeepRunning := true, metrics := .testing, main := .startingWriter 0 }
  | startedWriter (client : Fin n) (c : DataLinkClient) : p.main = .startingWriter client →
      (p.dataLink client).start = some c →
      MainStep lib options p
        { p.setDataLink client c with
          dataLinkFuture := Function.update p.dataLinkFuture client true
          main := .startingWriter (client + 1) }
  | startedWriters (client : Nat) : p.main = .startingWriter client → n ≤ client →
      MainStep lib options p { p with main := .startingSEEDLink }
  | startedSEEDLink (seedLink : SEEDLinkClient) : p.main = .startingSEEDLink →
      p.seedLink.start = some seedLink →
      MainStep lib options p { p with seedLink, seedLinkFuture := true, main := .waiting }
  | watched (main : Main) : p.main.watching = true → main.watching = true →
      MainStep lib options p { p with main }
  | retrievedSEEDLink (main : Main) : p.main.watching = true → main.watching = true →
      p.seedLink.poller.ended = true → MainStep lib options p { p with seedLinkFuture := false, main }
  | retrievedWriter (client : Fin n) (main : Main) : p.main.watching = true → main.watching = true →
      (p.dataLink client).writer.ended = true →
      MainStep lib options p
        { p with dataLinkFuture := Function.update p.dataLinkFuture client false, main }
  | cleared : p.main = .clearingKeepRunning →
      MainStep lib options p { p with mKeepRunning := false, main := .joiningMetrics }
  | joined : p.main = .joiningMetrics → p.metrics = .ended →
      MainStep lib options p { p with main := .stoppingSEEDLink }
  | stoppedSEEDLink : p.main = .stoppingSEEDLink →
      MainStep lib options p { p with seedLink := p.seedLink.stop, main := .stoppingWriter 0 }
  | stoppedWriter (client : Fin n) (nextClient : Nat) : p.main = .stoppingWriter client →
      MainStep lib options p
        { p.setDataLink client (p.dataLink client).stop with main := .stoppingWriter nextClient }
  | stoppedWriters (client : Nat) : p.main = .stoppingWriter client → n ≤ client →
      MainStep lib options p { p with main := .gettingSEEDLink }
  | gotSEEDLink : p.main = .gettingSEEDLink →
      p.seedLinkFuture = false ∨ p.seedLink.poller.ended = true →
      MainStep lib options p { p with seedLinkFuture := false, main := .gettingWriter 0 }
  | gotWriter (client : Fin n) : p.main = .gettingWriter client →
      p.dataLinkFuture client = false ∨ (p.dataLink client).writer.ended = true →
      MainStep lib options p
        { p with
          dataLinkFuture := Function.update p.dataLinkFuture client false
          main := .gettingWriter (client + 1) }
  | gotWriters (client : Nat) : p.main = .gettingWriter client → n ≤ client →
      MainStep lib options p { p with main := .resettingSEEDLink }
  | resetSEEDLink : p.main = .resettingSEEDLink →
      MainStep lib options p
        { p with
          seedLink := p.seedLink.stop.disconnect lib options.seedLink, main := .resettingWriter 0 }
  | resetWriter (client : Fin n) : p.main = .resettingWriter client →
      MainStep lib options p
        { p.setDataLink client (p.dataLink client).destroy with main := .resettingWriter (client + 1) }
  | finished (client : Nat) : p.main = .resettingWriter client → n ≤ client →
      MainStep lib options p { p with main := .stopped }

theorem mainStep_of_mainThread {interrupted : Bool} (h : p.mainThread lib options interrupted = some p') :
    MainStep lib options p p' := by
  unfold mainThread at h
  cases hmain : p.main with
  | stopped | undefined => simp [hmain] at h
  | starting =>
    simp only [hmain] at h
    obtain rfl := Option.some.inj h
    exact .started hmain
  | startingWriter client =>
    simp only [hmain] at h
    split at h
    · next hlt =>
      obtain ⟨c, hstart, rfl⟩ := Option.map_eq_some_iff.mp h
      exact .startedWriter ⟨client, hlt⟩ c hmain hstart
    · next hge =>
      obtain rfl := Option.some.inj h
      exact .startedWriters client hmain (not_lt.mp hge)
  | startingSEEDLink =>
    simp only [hmain] at h
    obtain ⟨seedLink, hstart, rfl⟩ := Option.map_eq_some_iff.mp h
    exact .startedSEEDLink seedLink hmain hstart
  | waiting =>
    simp only [hmain] at h
    obtain rfl := Option.some.inj h
    refine .watched _ (by rw [hmain]; rfl) ?_
    split <;> rfl
  | checkingSEEDLink =>
    have hwatching : p.main.watching = true := by rw [hmain]; rfl
    simp only [hmain] at h
    split at h
    · split at h <;> obtain rfl := Option.some.inj h
      · next hreturned => exact .retrievedSEEDLink _ hwatching rfl (by rw [hreturned]; rfl)
      · next hthrew => exact .retrievedSEEDLink _ hwatching rfl (by rw [hthrew]; rfl)
      · exact .watched _ hwatching rfl
    · obtain rfl := Option.some.inj h
      exact .watched _ hwatching rfl
  | checkingWriter client isOkay =>
    have hwatching : p.main.watching = true := by rw [hmain]; rfl
    simp only [hmain] at h
    split at h
    · next hlt =>
      split at h
      · split at h <;> obtain rfl := Option.some.inj h
        · next hreturned =>
          exact .retrievedWriter ⟨client, hlt⟩ _ hwatching rfl (by rw [hreturned]; rfl)
        · next hthrew => exact .retrievedWriter ⟨client, hlt⟩ _ hwatching rfl (by rw [hthrew]; rfl)
        · exact .watched _ hwatching rfl
      · obtain rfl := Option.some.inj h
        exact .watched _ hwatching rfl
    · obtain rfl := Option.some.inj h
      refine .watched _ hwatching ?_
      split <;> rfl
  | clearingKeepRunning =>
    simp only [hmain] at h
    obtain rfl := Option.some.inj h
    exact .cleared hmain
  | joiningMetrics =>
    simp only [hmain] at h
    split at h
    · next hended =>
      obtain rfl := Option.some.inj h
      exact .joined hmain hended
    · cases h
  | stoppingSEEDLink =>
    simp only [hmain] at h
    obtain rfl := Option.some.inj h
    exact .stoppedSEEDLink hmain
  | stoppingWriter client =>
    simp only [hmain] at h
    split at h
    · next hlt =>
      obtain rfl := Option.some.inj h
      exact .stoppedWriter ⟨client, hlt⟩ _ hmain
    · next hge =>
      obtain rfl := Option.some.inj h
      exact .stoppedWriters client hmain (not_lt.mp hge)
  | gettingSEEDLink =>
    simp only [hmain] at h
    split at h
    · split at h
      · next hended =>
        obtain rfl := Option.some.inj h
        exact .gotSEEDLink hmain (Or.inr hended)
      · cases h
    · next hretrieved =>
      have hfalse : p.seedLinkFuture = false := by simpa using hretrieved
      obtain rfl := Option.some.inj h
      have hgot : MainStep lib options p _ := .gotSEEDLink hmain (Or.inl hfalse)
      rwa [← hfalse] at hgot
  | gettingWriter client =>
    simp only [hmain] at h
    split at h
    · next hlt =>
      split at h
      · split at h
        · next hended =>
          obtain rfl := Option.some.inj h
          exact .gotWriter ⟨client, hlt⟩ hmain (Or.inr hended)
        · cases h
      · next hretrieved =>
        have hfalse : p.dataLinkFuture ⟨client, hlt⟩ = false := by simpa using hretrieved
        obtain rfl := Option.some.inj h
        have hsame : Function.update p.dataLinkFuture ⟨client, hlt⟩ false = p.dataLinkFuture := by
          rw [← hfalse, Function.update_eq_self]
        have hgot : MainStep lib options p _ := .gotWriter ⟨client, hlt⟩ hmain (Or.inl hfalse)
        rwa [hsame] at hgot
    · next hge =>
      obtain rfl := Option.some.inj h
      exact .gotWriters client hmain (not_lt.mp hge)
  | resettingSEEDLink =>
    simp only [hmain] at h
    obtain rfl := Option.some.inj h
    exact .resetSEEDLink hmain
  | resettingWriter client =>
    simp only [hmain] at h
    split at h
    · next hlt =>
      obtain rfl := Option.some.inj h
      exact .resetWriter ⟨client, hlt⟩ hmain
    · next hge =>
      obtain rfl := Option.some.inj h
      exact .finished client hmain (not_lt.mp hge)

/-- What a step of the main thread leaves alone: it moves no packet. -/
structure MovesNothing (client : Fin n) (p p' : Process n) : Prop where
  importQueue : p'.mImportQueue = p.mImportQueue
  offered : p'.seedLink.offered = p.seedLink.offered
  poller : p'.seedLink.poller = p.seedLink.poller ∨ p.seedLink.poller = .notStarted
  metrics : p'.metrics = p.metrics ∨ p.main = .starting ∧ p'.metrics = .testing
  started : p'.main ≠ .starting
  control : (p.dataLink client).ControlStep (p'.dataLink client)

theorem movesNothing_of_mainStep (client : Fin n) (h : MainStep lib options p p') :
    MovesNothing client p p' := by
  have hwatching {main : Main} (hmain : main.watching = true) : main ≠ .starting := by
    rintro rfl
    cases hmain
  cases h with
  | started hmain => exact ⟨rfl, rfl, Or.inl rfl, Or.inr ⟨hmain, rfl⟩, nofun, .refl _⟩
  | startedSEEDLink seedLink _ hstart =>
    obtain ⟨_, hnotStarted, rfl⟩ := SEEDLinkClient.start_eq_some.mp hstart
    exact ⟨rfl, rfl, Or.inr hnotStarted, Or.inl rfl, nofun, .refl _⟩
  | resetSEEDLink =>
    exact ⟨rfl, SEEDLinkClient.disconnect_offered, Or.inl SEEDLinkClient.disconnect_poller, Or.inl rfl,
      nofun, .refl _⟩
  | startedWriter other c _ hstart =>
    exact ⟨rfl, rfl, Or.inl rfl, Or.inl rfl, nofun,
      setDataLink_related .refl (DataLinkClient.controlStep_start hstart) client⟩
  | stoppedWriter other =>
    exact ⟨rfl, rfl, Or.inl rfl, Or.inl rfl, nofun,
      setDataLink_related .refl DataLinkClient.controlStep_stop client⟩
  | resetWriter other =>
    exact ⟨rfl, rfl, Or.inl rfl, Or.inl rfl, nofun,
      setDataLink_related .refl DataLinkClient.controlStep_destroy client⟩
  | watched main _ hmain | retrievedSEEDLink main _ hmain | retrievedWriter _ main _ hmain =>
    exact ⟨rfl, rfl, Or.inl rfl, Or.inl rfl, hwatching hmain, .refl _⟩
  | _ => exact ⟨rfl, rfl, Or.inl rfl, Or.inl rfl, nofun, .refl _⟩

/-- A step of the SEEDLink thread outside the callback hands at most one packet to the import queue. -/
theorem pollSEEDLink_cases {answer : PollAnswer} (h : p.pollSEEDLink lib options answer = some p') :
    ∃ seedLink, p.seedLink.packetToCallback lib options.seedLink answer = some seedLink ∧
      ((∃ packet rest mImportQueue, p.seedLink.poller = .offering (packet :: rest) ∧
          p.mImportQueue.call packet = some mImportQueue ∧ p' = { p with seedLink, mImportQueue }) ∨
        ((∀ rest, p.seedLink.poller = .callingBack rest → p.mImportQueue.producer = .idle) ∧
          (∀ packet rest, p.seedLink.poller ≠ .offering (packet :: rest)) ∧
          p' = { p with seedLink })) := by
  unfold pollSEEDLink at h
  split at h
  · cases h
  · next seedLink hpoll =>
    refine ⟨seedLink, hpoll, ?_⟩
    split at h
    · next packet rest hoffering =>
      obtain ⟨mImportQueue, hcall, rfl⟩ := Option.map_eq_some_iff.mp h
      exact Or.inl ⟨packet, rest, mImportQueue, hoffering, hcall, rfl⟩
    · next rest hcalling =>
      split at h
      · next hidle =>
        obtain rfl := Option.some.inj h
        refine Or.inr ⟨fun _ _ => hidle, fun packet rest' hoffering => ?_, rfl⟩
        cases hcalling.symm.trans hoffering
      · cases h
    · next hnotOffering hnotCalling =>
      obtain rfl := Option.some.inj h
      exact Or.inr ⟨fun rest hcalling => absurd hcalling (hnotCalling rest), hnotOffering, rfl⟩

end

end Process

end USEEDLinkToRingServer
