import USEEDLinkToRingServer.Library.Future
import USEEDLinkToRingServer.ReconnectLoop
import USEEDLinkToRingServer.ThreadLifecycle

/-!
# The life of the workers

The main thread polls the futures of the threads it launched, takes their results when it stops, and the
destructor stops a second time. A worker may throw at any moment, whatever its code says.
-/

namespace USEEDLinkToRingServer

open Machine

/-- The threads that are launched with `std::async`. -/
inductive Worker (n : Nat)
  | seedLink
  | dataLink (client : Fin n)
deriving DecidableEq, Repr

def Poller.job : Poller → Job Exception
  | .notStarted => .notLaunched
  | .returned => .ended none
  | .threw exception => .ended (some exception)
  | _ => .running

def Writer.job : Writer → Job Exception
  | .notStarted => .notLaunched
  | .returned => .ended none
  | .threw exception => .ended (some exception)
  | _ => .running

@[simp] theorem Poller.hasEnded_job (poller : Poller) : poller.job.hasEnded = poller.ended := by
  cases poller <;> rfl

@[simp] theorem Writer.hasEnded_job (writer : Writer) : writer.job.hasEnded = writer.ended := by
  cases writer <;> rfl

inductive FutureOperation
  | waitFor
  | get
deriving DecidableEq, Repr

/-- A call of the main thread on a worker's future. -/
structure FutureCall (n : Nat) where
  worker : Worker n
  operation : FutureOperation
  /-- The future has a shared state. -/
  valid : Bool
  thrown : List Exception := []
deriving DecidableEq, Repr

namespace Main

/-- The main thread has not yet told a client to stop. -/
def keepsClients : Main → Bool
  | .stoppingWriter _ | .gettingSEEDLink | .gettingWriter _ | .resettingSEEDLink | .resettingWriter _
  | .stopped => false
  | _ => true

/-- The main thread will wait for the SEEDLink future. -/
def pollsSEEDLink : Main → Bool
  | .waiting | .checkingSEEDLink | .checkingWriter _ true => true
  | _ => false

/-- The main thread will wait for the future of a writer. -/
def pollsWriter (client : Nat) : Main → Bool
  | .startingWriter current => client < current
  | .startingSEEDLink | .waiting | .checkingSEEDLink | .checkingWriter _ _ => true
  | _ => false

/-- The main thread destroys the clients or has destroyed them. -/
def resetsClients : Main → Bool
  | .resettingSEEDLink | .resettingWriter _ | .stopped => true
  | _ => false

theorem pollsWriter_of_succ {client other : Nat} (hne : client ≠ other)
    (h : (startingWriter (other + 1)).pollsWriter client = true) :
    (startingWriter other).pollsWriter client = true := by
  simp only [pollsWriter, decide_eq_true_eq] at h ⊢
  omega

end Main

namespace Process

variable {n : Nat}

section

variable (p : Process n)

def job : Worker n → Job Exception
  | .seedLink => p.seedLink.poller.job
  | .dataLink client => (p.dataLink client).writer.job

/-- The future of a worker has a shared state. -/
def hasState : Worker n → Bool
  | .seedLink => p.seedLinkFuture
  | .dataLink client => p.dataLinkFuture client

def getCall (worker : Worker n) : FutureCall n where
  worker := worker
  operation := .get
  valid := p.hasState worker
  thrown := (p.job worker).thrown

/-- In `checkFuturesOkay` the result is taken only if it is ready, and the future is not asked whether
it has a shared state. -/
def checkCalls (worker : Worker n) : List (FutureCall n) :=
  { worker, operation := .waitFor, valid := p.hasState worker } ::
    if p.hasState worker && (p.job worker).hasEnded then [p.getCall worker] else []

/-- In `stop` the result is taken of a future that has a shared state. -/
def stopCalls (worker : Worker n) : List (FutureCall n) :=
  if p.hasState worker then [p.getCall worker] else []

/-- The calls that a step of the main thread makes. -/
def futureCalls : List (FutureCall n) :=
  match p.main with
  | .checkingSEEDLink => p.checkCalls .seedLink
  | .checkingWriter client _ => if h : client < n then p.checkCalls (.dataLink ⟨client, h⟩) else []
  | .gettingSEEDLink => p.stopCalls .seedLink
  | .gettingWriter client => if h : client < n then p.stopCalls (.dataLink ⟨client, h⟩) else []
  | _ => []

/-- A running worker ends with an exception. -/
def throwing (worker : Worker n) (exception : Exception) : Option (Process n) :=
  match p.job worker with
  | .running =>
    match worker with
    | .seedLink => some { p with seedLink := { p.seedLink with poller := .threw exception } }
    | .dataLink client =>
      some (p.setDataLink client { p.dataLink client with writer := .threw exception })
  | _ => none

end

end Process

/-- A process with its destructor and the calls on its futures. -/
structure LifeCycle (n : Nat) where
  process : Process n
  /-- The destructor has called `stop` again. -/
  destroying : Bool := false
  calls : List (FutureCall n) := []

namespace LifeCycle

variable {n : Nat}

inductive Event (n : Nat)
  | process (event : Process.Event n)
  | throws (worker : Worker n) (exception : Exception)
  | destroy
deriving DecidableEq, Repr

/-- The second call of `stop` finds no thread to join and no clients, so it goes to the futures. -/
def next (lib : Libraries) (options : ProcessOptions n) (l : LifeCycle n) :
    Event n → Option (LifeCycle n)
  | .process (.main interrupted) =>
    if l.destroying && l.process.main = .resettingSEEDLink then
      some { l with process := { l.process with main := .stopped } }
    else
      (l.process.mainThread lib options interrupted).map fun process =>
        { l with process, calls := l.calls ++ l.process.futureCalls }
  | .process event => (l.process.next lib options event).map fun process => { l with process }
  | .throws worker exception =>
    (l.process.throwing worker exception).map fun process => { l with process }
  | .destroy =>
    if l.process.main = .stopped && !l.destroying then
      some { l with
        process := { l.process with mKeepRunning := false, main := .gettingSEEDLink }
        destroying := true }
    else none

/-- The process before its start. -/
def construct (options : ProcessOptions n) (savedState : Option Nat) : LifeCycle n :=
  { process := .construct options savedState }

/-- The exceptions of a worker that the main thread has retrieved. -/
def retrieved (l : LifeCycle n) (worker : Worker n) : List Exception :=
  (l.calls.filter (·.worker = worker)).flatMap (·.thrown)

/-- A worker and its future. -/
def toFuture (worker : Worker n) (l : LifeCycle n) : Future Exception where
  job := l.process.job worker
  valid := l.process.hasState worker
  retrieved := l.retrieved worker
  misused := l.calls.any fun call => call.worker = worker && !call.valid

end LifeCycle

/-! ### What the steps do to a worker -/

namespace DataLinkClient

variable {lib : Libmseed} {options : WriterOptions} {c c' : DataLinkClient}

theorem stop_job : c.stop.writer.job = c.writer.job := by
  unfold stop
  split
  · rfl
  · rfl
  · dsimp only
    split
    · next hblocked => rw [hblocked]; rfl
    · rfl

/-- A writer that has returned is not set going again. -/
theorem stop_returned (h : c.writer = .returned → c.mKeepRunning = false)
    (hreturned : c.stop.writer = .returned) : c.stop.mKeepRunning = false := by
  unfold stop at hreturned ⊢
  split at hreturned
  · rfl
  · exact h hreturned
  · dsimp only at hreturned ⊢
    split at hreturned
    · cases hreturned
    · exact h hreturned

theorem start_job (h : c.start = some c') :
    c.writer.job = .notLaunched ∧ c'.writer.job = .running ∧ c'.mKeepRunning = true := by
  unfold start at h
  split at h
  · next hnotStarted _ =>
    obtain rfl := Option.some.inj h
    exact ⟨by rw [hnotStarted]; rfl, rfl, rfl⟩
  · cases h

theorem job_eq_notLaunched {writer : Writer} : writer.job = .notLaunched ↔ writer = .notStarted := by
  cases writer <;> simp [Writer.job]

/-- The writer takes steps only while it runs. -/
theorem PlaceStep.running {answer : Answer} {writer : Writer} {isConnected : Bool}
    (h : PlaceStep c answer writer isConnected) : c.writer.job = .running := by
  cases h with
  | left hwork =>
    cases hwriter : c.writer <;> rw [hwriter] at hwork <;> first | rfl | cases hwork
  | returned hwriter | entered hwriter | connected hwriter | disconnected hwriter | locked _ hwriter
  | skipped _ hwriter | waits _ hwriter | blocked _ hwriter | woke _ _ hwriter | timedOut _ _ hwriter
  | failed _ hwriter | reconnected _ hwriter | resumed hwriter | gaveUp hwriter | foundNothing hwriter
  | took _ hwriter | converted _ _ hwriter | named _ _ _ hwriter | wrote _ _ _ _ hwriter
  | killed _ _ _ hwriter =>
    rw [hwriter]
    rfl

/-- The writer takes steps only while it runs, and is not launched by them. -/
theorem runWriter_job {answer : Answer} (h : c.runWriter lib options answer = some c') :
    c.writer.job = .running ∧ c'.writer.job ≠ .notLaunched := by
  obtain ⟨hplace, _⟩ := placeStep_of_runWriter h
  exact ⟨hplace.running, mt job_eq_notLaunched.mp hplace.started⟩

/-- The writer returns only if it is not to keep running. -/
theorem runWriter_returned {answer : Answer} (h : c.runWriter lib options answer = some c')
    (hreturned : c'.writer = .returned) : c'.mKeepRunning = false := by
  obtain ⟨hplace, hkeep, _⟩ := placeStep_of_runWriter h
  rw [hkeep]
  generalize c'.writer = writer at hplace hreturned
  generalize c'.isConnected = isConnected at hplace
  cases hplace with
  | returned _ hcleared => exact hcleared
  | disconnected | failed =>
    unfold reconnect at hreturned
    split at hreturned <;> cases hreturned
  | _ => cases hreturned

end DataLinkClient

namespace SEEDLinkClient

variable {lib : Libraries} {options : SEEDLinkOptions} {c c' : SEEDLinkClient}

theorem collect_job {payloadFormat : PayloadFormat} {payload : Bytes}
    (h : c.collect lib payloadFormat payload = some c') :
    c'.poller.job = .running ∧ c'.mKeepRunning = c.mKeepRunning := by
  obtain ⟨poller, rfl, ⟨_, rfl⟩ | rfl | rfl⟩ := collect_cases h
  all_goals exact ⟨rfl, rfl⟩

theorem countPayload_mKeepRunning : (c.countPayload lib options).mKeepRunning = c.mKeepRunning := by
  obtain ⟨_, _, _, heq⟩ := countPayload_eq lib options c
  rw [heq]

theorem disconnect_mKeepRunning : (c.disconnect lib options).mKeepRunning = c.mKeepRunning := by
  unfold disconnect
  split
  · split <;> rfl
  · rfl

/-- The polling thread takes steps only while it runs, is not launched by them, leaves the flag alone
and returns only if it is not to keep running. -/
theorem packetToCallback_job {answer : PollAnswer}
    (h : c.packetToCallback lib options answer = some c') :
    c.poller.job = .running ∧ c'.poller.job ≠ .notLaunched ∧ c'.mKeepRunning = c.mKeepRunning ∧
      (c'.poller = .returned → c'.mKeepRunning = false) := by
  cases loopStep_of_packetToCallback h with
  | collected payloadFormat payload _ hpoller _ hcollect =>
    obtain ⟨hjob, hkeep⟩ := collect_job hcollect
    refine ⟨by rw [hpoller]; rfl, by rw [hjob]; nofun, hkeep, fun hreturned => ?_⟩
    rw [hreturned] at hjob
    cases hjob
  | counted hpoller => exact ⟨by rw [hpoller]; rfl, nofun, countPayload_mKeepRunning, nofun⟩
  | returned hpoller hkeep => exact ⟨by rw [hpoller]; rfl, nofun, rfl, fun _ => hkeep⟩
  | recovered hpoller | notRecovered _ hpoller | entered hpoller | stopped hpoller | terminated hpoller
  | collectedNothing hpoller | offeredAll hpoller | offered _ _ hpoller | calledBack _ hpoller
  | kept hpoller | purged hpoller _ | notPurged _ hpoller | endedEarly _ hpoller =>
    exact ⟨by rw [hpoller]; rfl, nofun, rfl, nofun⟩

end SEEDLinkClient

namespace Process

variable {n : Nat} {lib : Libraries} {options : ProcessOptions n} {p p' : Process n} {client : Fin n}

/-- A step of the main thread while it polls the futures. -/
inductive CheckStep (p : Process n) : Process n → Prop
  | waited (main : Main) : p.main = .waiting → main = .clearingKeepRunning ∨ main = .checkingSEEDLink →
      CheckStep p { p with main }
  | misusedSEEDLink : p.main = .checkingSEEDLink → p.seedLinkFuture = false →
      CheckStep p { p with main := .undefined }
  | seedLinkRuns : p.main = .checkingSEEDLink → p.seedLinkFuture = true → p.seedLink.poller.ended = false →
      CheckStep p { p with main := .checkingWriter 0 true }
  | seedLinkEnded (isOkay : Bool) : p.main = .checkingSEEDLink → p.seedLinkFuture = true →
      p.seedLink.poller.ended = true → (isOkay = true → p.seedLink.poller = .returned) →
      CheckStep p { p with seedLinkFuture := false, main := .checkingWriter 0 isOkay }
  | misusedWriter (client : Fin n) (isOkay : Bool) : p.main = .checkingWriter client isOkay →
      p.dataLinkFuture client = false → CheckStep p { p with main := .undefined }
  | writerRuns (client : Fin n) (isOkay : Bool) : p.main = .checkingWriter client isOkay →
      p.dataLinkFuture client = true → (p.dataLink client).writer.ended = false →
      CheckStep p { p with main := .checkingWriter (client + 1) isOkay }
  | writerEnded (client : Fin n) (isOkay : Bool) (main : Main) : p.main = .checkingWriter client isOkay →
      p.dataLinkFuture client = true → (p.dataLink client).writer.ended = true →
      (p.dataLink client).writer = .returned ∨ main = .clearingKeepRunning →
      CheckStep p { p with dataLinkFuture := Function.update p.dataLinkFuture client false, main }
  | checkedAll (client : Nat) (isOkay : Bool) : p.main = .checkingWriter client isOkay → n ≤ client →
      CheckStep p { p with main := if isOkay then .waiting else .clearingKeepRunning }
  | cleared : p.main = .clearingKeepRunning →
      CheckStep p { p with mKeepRunning := false, main := .joiningMetrics }

theorem checkStep_of_mainThread {interrupted : Bool} (hwatching : p.main.watching = true)
    (h : p.mainThread lib options interrupted = some p') : CheckStep p p' := by
  unfold mainThread at h
  cases hmain : p.main with
  | waiting =>
    simp only [hmain] at h
    obtain rfl := Option.some.inj h
    refine .waited _ hmain ?_
    split
    · exact Or.inl rfl
    · exact Or.inr rfl
  | checkingSEEDLink =>
    simp only [hmain] at h
    split at h
    · next hvalid =>
      split at h <;> obtain rfl := Option.some.inj h
      · next hreturned => exact .seedLinkEnded true hmain hvalid (by rw [hreturned]; rfl) fun _ => hreturned
      · next hthrew => exact .seedLinkEnded false hmain hvalid (by rw [hthrew]; rfl) nofun
      · next hnotReturned hnotThrew =>
        refine .seedLinkRuns hmain hvalid ?_
        cases hpoller : p.seedLink.poller with
        | returned => exact absurd hpoller hnotReturned
        | threw exception => exact absurd hpoller (hnotThrew exception)
        | _ => rfl
    · next hinvalid =>
      obtain rfl := Option.some.inj h
      exact .misusedSEEDLink hmain (Bool.eq_false_iff.mpr hinvalid)
  | checkingWriter client isOkay =>
    simp only [hmain] at h
    split at h
    · next hlt =>
      split at h
      · next hvalid =>
        split at h <;> obtain rfl := Option.some.inj h
        · next hreturned =>
          exact .writerEnded ⟨client, hlt⟩ isOkay _ hmain hvalid (by rw [hreturned]; rfl)
            (Or.inl hreturned)
        · next hthrew =>
          exact .writerEnded ⟨client, hlt⟩ isOkay _ hmain hvalid (by rw [hthrew]; rfl) (Or.inr rfl)
        · next hnotReturned hnotThrew =>
          refine .writerRuns ⟨client, hlt⟩ isOkay hmain hvalid ?_
          cases hwriter : (p.dataLink ⟨client, hlt⟩).writer with
          | returned => exact absurd hwriter hnotReturned
          | threw exception => exact absurd hwriter (hnotThrew exception)
          | _ => rfl
      · next hinvalid =>
        obtain rfl := Option.some.inj h
        exact .misusedWriter ⟨client, hlt⟩ isOkay hmain (Bool.eq_false_iff.mpr hinvalid)
    · next hge =>
      obtain rfl := Option.some.inj h
      exact .checkedAll client isOkay hmain (not_lt.mp hge)
  | clearingKeepRunning =>
    simp only [hmain] at h
    obtain rfl := Option.some.inj h
    exact .cleared hmain
  | undefined => simp [hmain] at h
  | _ =>
    rw [hmain] at hwatching
    cases hwatching

/-! ### The futures that are polled have a shared state

A worker returns only when it is not to keep running, and the main thread tells it so only after it has
stopped polling. A worker that throws ends the polling. -/

/-- What the main thread may rely on while it polls. -/
structure Watched (p : Process n) : Prop where
  seedLinkKept : p.main.keepsClients = true → p.seedLink.mKeepRunning = true
  dataLinkKept : p.main.keepsClients = true → ∀ client, (p.dataLink client).mKeepRunning = true
  seedLinkReturned : p.seedLink.poller = .returned → p.seedLink.mKeepRunning = false
  dataLinkReturned : ∀ client, (p.dataLink client).writer = .returned →
    (p.dataLink client).mKeepRunning = false
  seedLinkFuture : p.main.pollsSEEDLink = true → p.seedLinkFuture = true
  dataLinkFuture : ∀ client : Fin n, p.main.pollsWriter client = true → p.dataLinkFuture client = true

/-- A step of the main thread that changes nothing else the invariant is about. -/
theorem Watched.of_main (h : Watched p) {main : Main}
    (hkeeps : main.keepsClients = true → p.main.keepsClients = true)
    (hseedLink : main.pollsSEEDLink = true → p.seedLinkFuture = true)
    (hdataLink : ∀ client : Fin n, main.pollsWriter client = true → p.dataLinkFuture client = true) :
    Watched { p with main } where
  seedLinkKept := h.seedLinkKept ∘ hkeeps
  dataLinkKept := h.dataLinkKept ∘ hkeeps
  seedLinkReturned := h.seedLinkReturned
  dataLinkReturned := h.dataLinkReturned
  seedLinkFuture := hseedLink
  dataLinkFuture := hdataLink

theorem Watched.check (h : Watched p) (hstep : CheckStep p p') : Watched p' := by
  have hkept {main : Main} (hmain : p.main = main) (hkeeps : main.keepsClients = true) :
      p.main.keepsClients = true := by rw [hmain, hkeeps]
  have hpolls {main : Main} (hmain : p.main = main) (hall : ∀ client, main.pollsWriter client = true)
      (client : Fin n) : p.dataLinkFuture client = true :=
    h.dataLinkFuture client (by rw [hmain, hall])
  cases hstep with
  | waited main hmain hto =>
    have hfuture : p.seedLinkFuture = true := h.seedLinkFuture (by rw [hmain]; rfl)
    exact h.of_main (fun _ => hkept hmain rfl) (fun _ => hfuture)
      (fun client _ => hpolls hmain (fun _ => rfl) client)
  | misusedSEEDLink hmain hinvalid =>
    cases hinvalid.symm.trans (h.seedLinkFuture (by rw [hmain]; rfl))
  | seedLinkRuns hmain hvalid =>
    exact h.of_main (fun _ => hkept hmain rfl) (fun _ => hvalid)
      (fun client _ => hpolls hmain (fun _ => rfl) client)
  | seedLinkEnded isOkay hmain hvalid hended hokay =>
    refine ⟨fun _ => h.seedLinkKept (hkept hmain rfl), fun _ => h.dataLinkKept (hkept hmain rfl),
      h.seedLinkReturned, h.dataLinkReturned, fun hpolled => ?_,
      fun client _ => hpolls hmain (fun _ => rfl) client⟩
    -- it has not returned, because it is to keep running
    cases isOkay with
    | true =>
      cases (h.seedLinkReturned (hokay rfl)).symm.trans (h.seedLinkKept (hkept hmain rfl))
    | false => cases hpolled
  | misusedWriter client isOkay hmain hinvalid =>
    cases hinvalid.symm.trans (h.dataLinkFuture client (by rw [hmain]; rfl))
  | writerRuns client isOkay hmain hvalid =>
    refine h.of_main (fun _ => hkept hmain rfl) (fun hpolled => h.seedLinkFuture ?_)
      (fun other _ => hpolls hmain (fun _ => rfl) other)
    cases isOkay with
    | true => rw [hmain]; rfl
    | false => cases hpolled
  | writerEnded client isOkay main hmain hvalid hended hto =>
    rcases hto with hreturned | rfl
    · cases (h.dataLinkReturned client hreturned).symm.trans (h.dataLinkKept (hkept hmain rfl) client)
    · exact ⟨fun _ => h.seedLinkKept (hkept hmain rfl), fun _ => h.dataLinkKept (hkept hmain rfl),
        h.seedLinkReturned, h.dataLinkReturned, nofun, nofun⟩
  | checkedAll client isOkay hmain hge =>
    refine h.of_main (fun _ => hkept hmain rfl) (fun hpolled => h.seedLinkFuture ?_)
      (fun other _ => hpolls hmain (fun _ => rfl) other)
    cases isOkay with
    | true => rw [hmain]; rfl
    | false => cases hpolled
  | cleared hmain =>
    exact ⟨fun _ => h.seedLinkKept (hkept hmain rfl), fun _ => h.dataLinkKept (hkept hmain rfl),
      h.seedLinkReturned, h.dataLinkReturned, nofun, nofun⟩

/-- A step of the main thread at the client of a writer. -/
theorem Watched.of_dataLink (h : Watched p) (other : Fin n) (c : DataLinkClient) (main : Main)
    (hkeeps : main.keepsClients = true → p.main.keepsClients = true ∧ c.mKeepRunning = true)
    (hreturned : c.writer = .returned → c.mKeepRunning = false)
    (hseedLink : main.pollsSEEDLink = true → p.seedLinkFuture = true)
    (hdataLink : ∀ client : Fin n, main.pollsWriter client = true → p.dataLinkFuture client = true) :
    Watched { p.setDataLink other c with main } where
  seedLinkKept hmain := h.seedLinkKept (hkeeps hmain).1
  dataLinkKept hmain :=
    setDataLink_forall (P := (·.mKeepRunning = true)) (h.dataLinkKept (hkeeps hmain).1) (hkeeps hmain).2
  seedLinkReturned := h.seedLinkReturned
  dataLinkReturned :=
    setDataLink_forall (P := fun c => c.writer = .returned → c.mKeepRunning = false) h.dataLinkReturned
      hreturned
  seedLinkFuture := hseedLink
  dataLinkFuture := hdataLink

theorem Watched.mainThread {interrupted : Bool} (h : Watched p)
    (hstep : p.mainThread lib options interrupted = some p') : Watched p' := by
  by_cases hwatching : p.main.watching = true
  · exact h.check (checkStep_of_mainThread hwatching hstep)
  have hkept {main : Main} (hmain : p.main = main) (hkeeps : main.keepsClients = true) :
      p.main.keepsClients = true := by rw [hmain, hkeeps]
  cases mainStep_of_mainThread hstep with
  | watched _ hfrom | retrievedSEEDLink _ hfrom | retrievedWriter _ _ hfrom =>
    exact absurd hfrom hwatching
  | cleared hmain =>
    rw [hmain] at hwatching
    exact absurd rfl hwatching
  | started hmain =>
    refine ⟨fun _ => h.seedLinkKept (hkept hmain rfl), fun _ => h.dataLinkKept (hkept hmain rfl),
      h.seedLinkReturned, h.dataLinkReturned, nofun, fun client hpolled => ?_⟩
    simp [Main.pollsWriter] at hpolled
  | startedWriter other c hmain hstart =>
    obtain ⟨_, hrunning, hkeep⟩ := DataLinkClient.start_job hstart
    have hcontrol := h.of_dataLink other c p.main
      (fun hkeeps => ⟨hkeeps, hkeep⟩) (fun hreturned => by rw [hreturned] at hrunning; cases hrunning)
      h.seedLinkFuture h.dataLinkFuture
    refine ⟨fun _ => hcontrol.seedLinkKept (hkept hmain rfl),
      fun _ => hcontrol.dataLinkKept (hkept hmain rfl), hcontrol.seedLinkReturned,
      hcontrol.dataLinkReturned, nofun, fun client hpolled => ?_⟩
    apply dataLinkFuture_update
    intro hne
    apply h.dataLinkFuture
    rw [hmain]
    exact Main.pollsWriter_of_succ (Fin.val_ne_of_ne hne) hpolled
  | startedWriters current hmain hlast =>
    refine h.of_main (fun _ => hkept hmain rfl) nofun fun client _ => h.dataLinkFuture client ?_
    simp only [hmain, Main.pollsWriter, decide_eq_true_eq]
    omega
  | startedSEEDLink seedLink hmain hstart =>
    obtain ⟨_, hnotStarted, rfl⟩ := SEEDLinkClient.start_eq_some.mp hstart
    exact ⟨fun _ => rfl, fun _ => h.dataLinkKept (hkept hmain rfl), nofun, h.dataLinkReturned,
      fun _ => rfl, fun client _ => h.dataLinkFuture client (by rw [hmain]; rfl)⟩
  | joined hmain => exact h.of_main (fun _ => hkept hmain rfl) nofun nofun
  | stoppedSEEDLink hmain =>
    exact ⟨nofun, nofun, fun _ => rfl, h.dataLinkReturned, nofun, nofun⟩
  | stoppedWriter other nextClient hmain =>
    exact h.of_dataLink _ _ _ nofun (DataLinkClient.stop_returned (h.dataLinkReturned other)) nofun nofun
  | stoppedWriters _ hmain => exact h.of_main nofun nofun nofun
  | gotSEEDLink hmain => exact ⟨nofun, nofun, h.seedLinkReturned, h.dataLinkReturned, nofun, nofun⟩
  | gotWriter other hmain => exact ⟨nofun, nofun, h.seedLinkReturned, h.dataLinkReturned, nofun, nofun⟩
  | gotWriters _ hmain => exact h.of_main nofun nofun nofun
  | resetSEEDLink hmain =>
    exact ⟨nofun, nofun, fun _ => SEEDLinkClient.disconnect_mKeepRunning, h.dataLinkReturned, nofun, nofun⟩
  | resetWriter other hmain => exact h.of_dataLink _ _ _ nofun (fun _ => rfl) nofun nofun
  | finished _ hmain => exact h.of_main nofun nofun nofun

theorem Watched.runWriter {other : Fin n} {answer : Answer} (h : Watched p)
    (hstep : p.runWriter lib options other answer = some p') : Watched p' := by
  obtain ⟨c, hc, rfl⟩ := Option.map_eq_some_iff.mp hstep
  obtain ⟨_, hkeep, _⟩ := DataLinkClient.writeStep_frame (DataLinkClient.writeStep_of_runWriter hc)
  exact h.of_dataLink _ _ p.main
    (fun hkeeps => ⟨hkeeps, hkeep.trans (h.dataLinkKept hkeeps other)⟩)
    (DataLinkClient.runWriter_returned hc) h.seedLinkFuture h.dataLinkFuture

theorem Watched.tabulateMetrics {pushSucceeds : Bool} (h : Watched p)
    (hstep : p.tabulateMetrics options pushSucceeds = some p') : Watched p' := by
  have hqueue {metrics : Metrics} {other : Fin n} {queue : BoundedQueue Packet} :
      Watched { p.setDataLink other { p.dataLink other with queue } with metrics } := by
    have hset := h.of_dataLink other { p.dataLink other with queue } p.main
      (fun hkeeps => ⟨hkeeps, h.dataLinkKept hkeeps other⟩) (h.dataLinkReturned other) h.seedLinkFuture
      h.dataLinkFuture
    exact ⟨hset.1, hset.2, hset.3, hset.4, hset.5, hset.6⟩
  cases metricsStep_of_tabulateMetrics hstep with
  | handedOver | produced => exact hqueue
  | _ => exact ⟨h.1, h.2, h.3, h.4, h.5, h.6⟩

theorem Watched.next {event : Event n} (h : Watched p)
    (hstep : Process.next lib options p event = some p') : Watched p' := by
  cases event with
  | main interrupted => exact h.mainThread hstep
  | metrics pushSucceeds => exact h.tabulateMetrics hstep
  | writer other answer => exact h.runWriter hstep
  | callback pushSucceeds =>
    obtain ⟨mImportQueue, _, rfl⟩ := Option.map_eq_some_iff.mp hstep
    exact ⟨h.1, h.2, h.3, h.4, h.5, h.6⟩
  | seedLink answer =>
    obtain ⟨seedLink, hpoll, hcases⟩ := pollSEEDLink_cases hstep
    obtain ⟨_, _, hkeep, hreturned⟩ := SEEDLinkClient.packetToCallback_job hpoll
    have hkept (hkeeps : p.main.keepsClients = true) : seedLink.mKeepRunning = true :=
      hkeep.trans (h.seedLinkKept hkeeps)
    rcases hcases with ⟨_, _, _, _, _, rfl⟩ | ⟨_, _, rfl⟩ <;>
      exact ⟨hkept, h.dataLinkKept, hreturned, h.dataLinkReturned, h.seedLinkFuture, h.dataLinkFuture⟩

theorem watched_construct (savedState : Option Nat) : Watched (construct options savedState) :=
  ⟨fun _ => rfl, fun _ _ => rfl, nofun, nofun, nofun, nofun⟩

/-- While the invariant holds no future without a shared state is asked. -/
theorem Watched.futureCalls_valid (h : Watched p) : ∀ call ∈ p.futureCalls, call.valid = true := by
  have hcheck {worker : Worker n} (hvalid : p.hasState worker = true) :
      ∀ call ∈ p.checkCalls worker, call.valid = true := by
    intro call hcall
    unfold checkCalls at hcall
    rcases List.mem_cons.mp hcall with rfl | hget
    · exact hvalid
    · split at hget
      · rw [List.mem_singleton.mp hget]
        exact hvalid
      · cases hget
  have hstop {worker : Worker n} : ∀ call ∈ p.stopCalls worker, call.valid = true := by
    intro call hcall
    unfold stopCalls at hcall
    split at hcall
    · next hvalid =>
      rw [List.mem_singleton.mp hcall]
      exact hvalid
    · cases hcall
  unfold futureCalls
  split
  · next hmain => exact hcheck (h.seedLinkFuture (by rw [hmain]; rfl))
  · next client isOkay hmain =>
    split
    · next hlt => exact hcheck (h.dataLinkFuture ⟨client, hlt⟩ (by rw [hmain]; rfl))
    · nofun
  · exact hstop
  · split
    · exact hstop
    · nofun
  · nofun

end Process

namespace LifeCycle

variable {n : Nat} {lib : Libraries} {options : ProcessOptions n} {l l' : LifeCycle n}

/-! ### Every worker with its future is one -/

theorem toFuture_append {calls : List (FutureCall n)} (hcalls : l'.calls = l.calls ++ calls)
    (worker : Worker n) :
    l'.toFuture worker =
      { job := l'.process.job worker
        valid := l'.process.hasState worker
        retrieved := l.retrieved worker ++ (calls.filter (·.worker = worker)).flatMap (·.thrown)
        misused := (l.toFuture worker).misused ||
          calls.any fun call => call.worker = worker && !call.valid } := by
  simp only [toFuture, retrieved, hcalls, List.filter_append, List.flatMap_append, List.any_append]

/-- A step that neither moves the worker nor asks its future. -/
theorem reaches_of_silent {worker : Worker n} (calls : List (FutureCall n))
    (hcalls : l'.calls = l.calls ++ calls) (hnone : ∀ call ∈ calls, call.worker ≠ worker)
    (hjob : l'.process.job worker = l.process.job worker)
    (hstate : l'.process.hasState worker = l.process.hasState worker) :
    Reaches Future.next (l.toFuture worker) (l'.toFuture worker) := by
  have hfilter : calls.filter (·.worker = worker) = [] := by
    rw [List.filter_eq_nil_iff]
    intro call hcall
    simpa using hnone call hcall
  have hany : (calls.any fun call => call.worker = worker && !call.valid) = false := by
    rw [List.any_eq_false]
    intro call hcall
    simp [hnone call hcall]
  have hsame : l'.toFuture worker = l.toFuture worker := by
    rw [toFuture_append hcalls, hfilter, hany, hjob, hstate, List.flatMap_nil, List.append_nil,
      Bool.or_false]
    rfl
  rw [hsame]
  exact .refl _

/-- A step of the worker itself. -/
theorem reaches_of_job {worker : Worker n} (hcalls : l'.calls = l.calls)
    (hrunning : l.process.job worker = .running) (hlaunched : l'.process.job worker ≠ .notLaunched)
    (hstate : l'.process.hasState worker = l.process.hasState worker) :
    Reaches Future.next (l.toFuture worker) (l'.toFuture worker) := by
  have hafter : l'.toFuture worker = { l.toFuture worker with job := l'.process.job worker } := by
    simp only [toFuture, retrieved, hcalls, hstate]
  rw [hafter]
  cases hjob : l'.process.job worker with
  | notLaunched => exact absurd hjob hlaunched
  | running =>
    rw [← hrunning]
    exact .refl _
  | ended exception => exact Future.reaches_finish hrunning exception

/-- A step that polls a future. -/
theorem reaches_of_check {asked worker : Worker n} (hcalls : l'.calls = l.calls ++ l.process.checkCalls asked)
    (hjob : ∀ worker, l'.process.job worker = l.process.job worker)
    (hasked : l'.process.hasState asked =
      (l.process.hasState asked && !(l.process.job asked).hasEnded))
    (hother : ∀ worker, worker ≠ asked → l'.process.hasState worker = l.process.hasState worker) :
    Reaches Future.next (l.toFuture worker) (l'.toFuture worker) := by
  by_cases heq : worker = asked
  · subst heq
    have hwait := Future.reaches_wait (l.toFuture worker)
    rw [toFuture_append hcalls, hjob, hasked]
    cases hvalid : l.process.hasState worker with
    | false => simpa [Process.checkCalls, hvalid, toFuture] using hwait
    | true =>
      cases hended : (l.process.job worker).hasEnded with
      | false => simpa [Process.checkCalls, hvalid, hended, toFuture] using hwait
      | true =>
        have hget := hwait.trans (Future.reaches_get hvalid hended)
        simpa [Process.checkCalls, Process.getCall, hvalid, hended, toFuture] using hget
  · refine reaches_of_silent _ hcalls (fun call hcall hcalled => heq ?_) (hjob worker) (hother worker heq)
    unfold Process.checkCalls at hcall
    rcases List.mem_cons.mp hcall with rfl | hget
    · exact hcalled.symm
    · split at hget
      · rw [List.mem_singleton.mp hget] at hcalled
        exact hcalled.symm
      · cases hget

/-- A step that takes the result of a future if it has a shared state. -/
theorem reaches_of_stop (asked : Worker n) {worker : Worker n}
    (hcalls : l'.calls = l.calls ++ l.process.stopCalls asked)
    (hjob : ∀ worker, l'.process.job worker = l.process.job worker)
    (hasked : l'.process.hasState asked = false)
    (hended : l.process.hasState asked = false ∨ (l.process.job asked).hasEnded = true)
    (hother : ∀ worker, worker ≠ asked → l'.process.hasState worker = l.process.hasState worker) :
    Reaches Future.next (l.toFuture worker) (l'.toFuture worker) := by
  by_cases heq : worker = asked
  · subst heq
    rw [toFuture_append hcalls, hjob, hasked]
    cases hvalid : l.process.hasState worker with
    | false =>
      have hsame : Reaches Future.next (l.toFuture worker) (l.toFuture worker) := .refl _
      simpa [Process.stopCalls, hvalid, toFuture] using hsame
    | true =>
      have hget := Future.reaches_get (f := l.toFuture worker) hvalid
        (hended.resolve_left (by rw [hvalid]; nofun))
      simpa [Process.stopCalls, Process.getCall, hvalid, toFuture] using hget
  · refine reaches_of_silent _ hcalls (fun call hcall hcalled => heq ?_) (hjob worker) (hother worker heq)
    unfold Process.stopCalls at hcall
    split at hcall
    · rw [List.mem_singleton.mp hcall] at hcalled
      exact hcalled.symm
    · cases hcall

/-- A step of the main thread that makes no call and changes no future. -/
theorem reaches_of_main {worker : Worker n} (hcalls : l'.calls = l.calls)
    (hjob : ∀ worker, l'.process.job worker = l.process.job worker)
    (hstate : ∀ worker, l'.process.hasState worker = l.process.hasState worker) :
    Reaches Future.next (l.toFuture worker) (l'.toFuture worker) :=
  reaches_of_silent [] (by rw [hcalls, List.append_nil]) nofun (hjob worker) (hstate worker)

/-- Setting the client of a worker changes no other job. -/
theorem job_setDataLink {p : Process n} {other : Fin n} {c : DataLinkClient} {main : Main}
    {metrics : Metrics} {dataLinkFuture : Fin n → Bool} {worker : Worker n}
    (h : worker = .dataLink other → c.writer.job = (p.dataLink other).writer.job) :
    Process.job { p.setDataLink other c with main, metrics, dataLinkFuture } worker = p.job worker := by
  cases worker with
  | seedLink => rfl
  | dataLink client =>
    by_cases heq : client = other
    · subst heq
      exact (congrArg (·.writer.job) (Process.setDataLink_self client c)).trans (h rfl)
    · exact congrArg (·.writer.job) (Process.setDataLink_of_ne heq c)

theorem hasState_update {p : Process n} {other : Fin n} {valid : Bool} {main : Main}
    {worker : Worker n} (h : worker ≠ .dataLink other) :
    Process.hasState
        { p with dataLinkFuture := Function.update p.dataLinkFuture other valid, main } worker =
      p.hasState worker := by
  cases worker with
  | seedLink => rfl
  | dataLink client => exact Function.update_of_ne (fun heq => h (by rw [heq])) _ _

theorem hasState_seedLinkFuture {p : Process n} {valid : Bool} {main : Main} {worker : Worker n}
    (h : worker ≠ .seedLink) :
    Process.hasState { p with seedLinkFuture := valid, main } worker = p.hasState worker := by
  cases worker with
  | seedLink => exact absurd rfl h
  | dataLink client => rfl

/-- A step that calls nothing on the futures and touches no job is silent. -/
theorem reaches_silent {process : Process n} {worker : Worker n} (hnone : l.process.futureCalls = [])
    (hjob : ∀ worker, process.job worker = l.process.job worker)
    (hstate : ∀ worker, process.hasState worker = l.process.hasState worker) :
    Reaches Future.next (l.toFuture worker)
      (toFuture worker { l with process, calls := l.calls ++ l.process.futureCalls }) :=
  reaches_of_main (by rw [hnone, List.append_nil]) hjob hstate

/-- A step of the main thread while it polls. -/
theorem reaches_checkStep {process : Process n} (hstep : l.process.CheckStep process)
    (worker : Worker n) :
    Reaches Future.next (l.toFuture worker)
      (toFuture worker { l with process, calls := l.calls ++ l.process.futureCalls }) := by
  have hcheckSEEDLink (hmain : l.process.main = .checkingSEEDLink) :
      l.calls ++ l.process.futureCalls = l.calls ++ l.process.checkCalls .seedLink := by
    simp only [Process.futureCalls, hmain]
  have hcheckWriter {client : Fin n} {isOkay : Bool}
      (hmain : l.process.main = .checkingWriter client isOkay) :
      l.calls ++ l.process.futureCalls = l.calls ++ l.process.checkCalls (.dataLink client) := by
    simp only [Process.futureCalls, hmain, client.isLt, dif_pos]
  cases hstep with
  | waited main hmain =>
    exact reaches_silent (by simp only [Process.futureCalls, hmain]) (fun worker => by cases worker <;> rfl)
      (fun worker => by cases worker <;> rfl)
  | misusedSEEDLink hmain hinvalid =>
    refine reaches_of_check (hcheckSEEDLink hmain) (fun worker => by cases worker <;> rfl) ?_
      (fun worker _ => by cases worker <;> rfl)
    simp [Process.hasState, hinvalid]
  | seedLinkRuns hmain hvalid hruns =>
    refine reaches_of_check (hcheckSEEDLink hmain) (fun worker => by cases worker <;> rfl) ?_
      (fun worker _ => by cases worker <;> rfl)
    simp [Process.hasState, Process.job, hvalid, hruns]
  | seedLinkEnded isOkay hmain hvalid hended =>
    refine reaches_of_check (hcheckSEEDLink hmain) (fun worker => by cases worker <;> rfl) ?_
      (fun _ hne => hasState_seedLinkFuture hne)
    simp [Process.hasState, Process.job, hended]
  | misusedWriter client isOkay hmain hinvalid =>
    refine reaches_of_check (hcheckWriter hmain) (fun worker => by cases worker <;> rfl) ?_
      (fun worker _ => by cases worker <;> rfl)
    simp [Process.hasState, hinvalid]
  | writerRuns client isOkay hmain hvalid hruns =>
    refine reaches_of_check (hcheckWriter hmain) (fun worker => by cases worker <;> rfl) ?_
      (fun worker _ => by cases worker <;> rfl)
    simp [Process.hasState, Process.job, hvalid, hruns]
  | writerEnded client isOkay main hmain hvalid hended =>
    refine reaches_of_check (hcheckWriter hmain) (fun worker => by cases worker <;> rfl) ?_
      (fun _ hne => hasState_update hne)
    simp [Process.hasState, Process.job, hended]
  | checkedAll client isOkay hmain hge =>
    exact reaches_silent (by simp only [Process.futureCalls, hmain, dif_neg (not_lt.mpr hge)])
      (fun worker => by cases worker <;> rfl) (fun worker => by cases worker <;> rfl)
  | cleared hmain =>
    exact reaches_silent (by simp only [Process.futureCalls, hmain]) (fun worker => by cases worker <;> rfl)
      (fun worker => by cases worker <;> rfl)

theorem reaches_mainThread {interrupted : Bool} {process : Process n}
    (hstep : l.process.mainThread lib options interrupted = some process) (worker : Worker n) :
    Reaches Future.next (l.toFuture worker)
      (toFuture worker { l with process, calls := l.calls ++ l.process.futureCalls }) := by
  by_cases hwatching : l.process.main.watching = true
  · exact reaches_checkStep (Process.checkStep_of_mainThread hwatching hstep) worker
  cases Process.mainStep_of_mainThread hstep with
  | watched _ hfrom | retrievedSEEDLink _ hfrom | retrievedWriter _ _ hfrom =>
    exact absurd hfrom hwatching
  | cleared hmain =>
    rw [hmain] at hwatching
    exact absurd rfl hwatching
  | started hmain | startedWriters _ hmain | joined hmain | stoppedSEEDLink hmain
  | stoppedWriters _ hmain | finished _ hmain =>
    exact reaches_silent (by simp only [Process.futureCalls, hmain]) (fun worker => by cases worker <;> rfl)
      (fun worker => by cases worker <;> rfl)
  | gotWriters current hmain hge =>
    exact reaches_silent (by simp only [Process.futureCalls, hmain, dif_neg (not_lt.mpr hge)])
      (fun worker => by cases worker <;> rfl) (fun worker => by cases worker <;> rfl)
  | stoppedWriter other nextClient hmain =>
    exact reaches_silent (by simp only [Process.futureCalls, hmain])
      (fun _ => job_setDataLink fun _ => DataLinkClient.stop_job) (fun worker => by cases worker <;> rfl)
  | resetWriter other hmain =>
    exact reaches_silent (by simp only [Process.futureCalls, hmain]) (fun _ => job_setDataLink fun _ => rfl)
      (fun worker => by cases worker <;> rfl)
  | resetSEEDLink hmain =>
    refine reaches_silent (by simp only [Process.futureCalls, hmain]) (fun worker => ?_)
      (fun worker => by cases worker <;> rfl)
    cases worker with
    | seedLink => exact congrArg Poller.job SEEDLinkClient.disconnect_poller
    | dataLink client => rfl
  | startedWriter other c hmain hstart =>
    obtain ⟨hnotLaunched, hrunning, _⟩ := DataLinkClient.start_job hstart
    by_cases heq : worker = .dataLink other
    · subst heq
      have hlaunch := Future.reaches_launch (f := l.toFuture (.dataLink other)) hnotLaunched
      have hself : (l.process.setDataLink other c).dataLink other = c := Process.setDataLink_self other c
      simpa [toFuture, retrieved, Process.futureCalls, hmain, Process.job, Process.hasState, hself,
        hrunning] using hlaunch
    · exact reaches_of_silent []
        (by simp only [Process.futureCalls, hmain]) nofun (job_setDataLink fun h => absurd h heq)
        (hasState_update heq)
  | startedSEEDLink seedLink hmain hstart =>
    obtain ⟨_, hnotStarted, rfl⟩ := SEEDLinkClient.start_eq_some.mp hstart
    cases worker with
    | seedLink =>
      have hnotLaunched : l.process.job .seedLink = .notLaunched := congrArg Poller.job hnotStarted
      have hlaunch := Future.reaches_launch (f := l.toFuture .seedLink) hnotLaunched
      simpa [toFuture, retrieved, Process.futureCalls, hmain, Process.job, Process.hasState,
        Poller.job] using hlaunch
    | dataLink client =>
      exact reaches_of_silent [] (by simp only [Process.futureCalls, hmain]) nofun rfl
        rfl
  | gotSEEDLink hmain hended =>
    refine reaches_of_stop .seedLink
      (by simp only [Process.futureCalls, hmain]) (fun worker => by cases worker <;> rfl) rfl ?_
      (fun _ hne => hasState_seedLinkFuture hne)
    simpa [Process.hasState, Process.job] using hended
  | gotWriter other hmain hended =>
    refine reaches_of_stop (.dataLink other)
      (by simp only [Process.futureCalls, hmain, other.isLt, dif_pos])
      (fun worker => by cases worker <;> rfl) (Function.update_self ..) ?_
      (fun _ hne => hasState_update hne)
    simpa [Process.hasState, Process.job] using hended

/-- A running worker that throws has ended, and its future is as before. -/
theorem throwing_eq_some {p p' : Process n} {asked : Worker n} {exception : Exception}
    (h : p.throwing asked exception = some p') :
    p.job asked = .running ∧ p'.job asked = .ended (some exception) ∧
      (∀ worker, worker ≠ asked → p'.job worker = p.job worker) ∧
      ∀ worker, p'.hasState worker = p.hasState worker := by
  unfold Process.throwing at h
  split at h
  · next hrunning =>
    refine ⟨hrunning, ?_⟩
    cases asked with
    | seedLink =>
      obtain rfl := Option.some.inj h
      refine ⟨rfl, fun worker hne => ?_, fun worker => by cases worker <;> rfl⟩
      cases worker with
      | seedLink => exact absurd rfl hne
      | dataLink client => rfl
    | dataLink other =>
      obtain rfl := Option.some.inj h
      refine ⟨congrArg (·.writer.job) (Process.setDataLink_self other _),
        fun worker hne => job_setDataLink fun heq => absurd heq hne, fun worker => by cases worker <;> rfl⟩
  · cases h

/-- Every worker with its future, and the calls of the main thread on it, is a job with its future. -/
theorem refines_future (worker : Worker n) :
    Refines (LifeCycle.next lib options) Future.next (toFuture worker) fun _ => True := by
  intro l event l' _ hstep
  cases event with
  | throws asked exception =>
    obtain ⟨process, hthrowing, rfl⟩ := Option.map_eq_some_iff.mp hstep
    obtain ⟨hrunning, hended, hother, hstate⟩ := throwing_eq_some hthrowing
    by_cases heq : worker = asked
    · subst heq
      exact reaches_of_job rfl hrunning (by rw [hended]; nofun) (hstate worker)
    · exact reaches_of_silent [] (List.append_nil _).symm nofun (hother worker heq)
        (hstate worker)
  | destroy =>
    rw [next] at hstep
    split at hstep
    · obtain rfl := Option.some.inj hstep
      exact reaches_of_main rfl (fun worker => by cases worker <;> rfl)
        (fun worker => by cases worker <;> rfl)
    · cases hstep
  | process event =>
    cases event with
    | main interrupted =>
      rw [next] at hstep
      split at hstep
      · obtain rfl := Option.some.inj hstep
        exact reaches_of_main rfl (fun worker => by cases worker <;> rfl)
          (fun worker => by cases worker <;> rfl)
      · obtain ⟨process, hmain, rfl⟩ := Option.map_eq_some_iff.mp hstep
        exact reaches_mainThread hmain worker
    | callback pushSucceeds =>
      obtain ⟨process, hcallback, rfl⟩ := Option.map_eq_some_iff.mp hstep
      obtain ⟨mImportQueue, _, rfl⟩ := Option.map_eq_some_iff.mp hcallback
      exact reaches_of_main rfl (fun worker => by cases worker <;> rfl)
        (fun worker => by cases worker <;> rfl)
    | metrics pushSucceeds =>
      obtain ⟨process, hmetrics, rfl⟩ := Option.map_eq_some_iff.mp hstep
      have hqueue {metrics : Metrics} {other : Fin n} {queue : BoundedQueue Packet} (worker : Worker n) :
          Process.job { l.process.setDataLink other { l.process.dataLink other with queue } with metrics }
            worker = l.process.job worker := job_setDataLink fun _ => rfl
      cases Process.metricsStep_of_tabulateMetrics hmetrics with
      | handedOver | produced => exact reaches_of_main rfl hqueue (fun worker => by cases worker <;> rfl)
      | _ =>
        exact reaches_of_main rfl (fun worker => by cases worker <;> rfl)
          (fun worker => by cases worker <;> rfl)
    | writer other answer =>
      obtain ⟨process, hwriter, rfl⟩ := Option.map_eq_some_iff.mp hstep
      obtain ⟨c, hc, rfl⟩ := Option.map_eq_some_iff.mp hwriter
      obtain ⟨hrunning, hlaunched⟩ := DataLinkClient.runWriter_job hc
      by_cases heq : worker = .dataLink other
      · subst heq
        have hself := Process.setDataLink_self (p := l.process) other c
        exact reaches_of_job rfl hrunning (by simpa only [Process.job, hself] using hlaunched) rfl
      · exact reaches_of_silent [] (List.append_nil _).symm nofun
          (job_setDataLink fun h => absurd h heq) (by cases worker <;> rfl)
    | seedLink answer =>
      obtain ⟨process, hseedLink, rfl⟩ := Option.map_eq_some_iff.mp hstep
      obtain ⟨seedLink, hpoll, hcases⟩ := Process.pollSEEDLink_cases hseedLink
      obtain ⟨hrunning, hlaunched, _⟩ := SEEDLinkClient.packetToCallback_job hpoll
      cases worker with
      | seedLink =>
        rcases hcases with ⟨_, _, _, _, _, rfl⟩ | ⟨_, _, rfl⟩ <;>
          exact reaches_of_job rfl hrunning hlaunched rfl
      | dataLink client =>
        rcases hcases with ⟨_, _, _, _, _, rfl⟩ | ⟨_, _, rfl⟩ <;>
          exact reaches_of_silent [] (List.append_nil _).symm nofun rfl rfl

end LifeCycle

/-! ### Every run -/

namespace Process

variable {n : Nat} {lib : Libraries} {options : ProcessOptions n} {p p' : Process n}

/-- Once the main thread has gone past a future in `stop`, it has no shared state. -/
structure Taken (p : Process n) : Prop where
  seedLink : p.main.seedLinkJoined = true → p.seedLinkFuture = false
  dataLink : ∀ client : Fin n, p.main.writerJoined client = true → p.dataLinkFuture client = false

theorem taken_of_not_joined (hseedLink : p.main.seedLinkJoined = false)
    (hdataLink : ∀ client : Fin n, p.main.writerJoined client = false) : Taken p := by
  refine ⟨fun hjoined => ?_, fun client hjoined => ?_⟩
  · rw [hseedLink] at hjoined
    cases hjoined
  · rw [hdataLink] at hjoined
    cases hjoined

theorem Taken.mainThread {interrupted : Bool} (h : Taken p)
    (hstep : p.mainThread lib options interrupted = some p') : Taken p' := by
  cases mainStep_of_mainThread hstep with
  | watched main _ hto | retrievedSEEDLink main _ hto | retrievedWriter _ main _ hto =>
    exact taken_of_not_joined (Main.not_joined_of_watching hto 0).2.1
      fun client => (Main.not_joined_of_watching hto client).2.2
  | gotSEEDLink hmain => exact ⟨fun _ => rfl, fun client hjoined => by simp [Main.writerJoined] at hjoined⟩
  | gotWriter other hmain =>
    refine ⟨fun _ => h.seedLink (by rw [hmain]; rfl), fun client hjoined => ?_⟩
    apply dataLinkFuture_update
    intro hne
    apply h.dataLink
    rw [hmain]
    exact Main.writerJoined_of_succ (Fin.val_ne_of_ne hne) hjoined
  | gotWriters current hmain hge =>
    refine ⟨fun _ => h.seedLink (by rw [hmain]; rfl), fun client _ => h.dataLink client ?_⟩
    simp only [hmain, Main.writerJoined, decide_eq_true_eq]
    omega
  | resetSEEDLink hmain | resetWriter _ hmain | finished _ hmain =>
    exact ⟨fun _ => h.seedLink (by rw [hmain]; rfl), fun client _ => h.dataLink client (by rw [hmain]; rfl)⟩
  | _ => exact taken_of_not_joined rfl fun _ => rfl

theorem not_starting_of_mainStep (h : MainStep lib options p p') : p'.main ≠ .starting := by
  cases h with
  | watched main _ hto | retrievedSEEDLink main _ hto | retrievedWriter _ main _ hto =>
    rintro rfl
    cases hto
  | _ => nofun

/-- Only the main thread moves itself and touches the futures, and only it starts the metrics thread. -/
theorem thread_frame {event : Event n} (hthread : ∀ interrupted, event ≠ .main interrupted)
    (hstep : Process.next lib options p event = some p') :
    p'.main = p.main ∧ p'.seedLinkFuture = p.seedLinkFuture ∧ p'.dataLinkFuture = p.dataLinkFuture ∧
      (p.metrics = .notStarted → p'.metrics = .notStarted) := by
  cases event with
  | main interrupted => exact absurd rfl (hthread interrupted)
  | callback pushSucceeds =>
    obtain ⟨mImportQueue, _, rfl⟩ := Option.map_eq_some_iff.mp hstep
    exact ⟨rfl, rfl, rfl, id⟩
  | writer other answer =>
    obtain ⟨c, _, rfl⟩ := Option.map_eq_some_iff.mp hstep
    exact ⟨rfl, rfl, rfl, id⟩
  | seedLink answer =>
    obtain ⟨seedLink, _, hcases⟩ := pollSEEDLink_cases hstep
    rcases hcases with ⟨_, _, _, _, _, rfl⟩ | ⟨_, _, rfl⟩ <;> exact ⟨rfl, rfl, rfl, id⟩
  | metrics pushSucceeds =>
    have hstarted : p.metrics ≠ .notStarted := by
      intro hnotStarted
      change p.tabulateMetrics options pushSucceeds = some p' at hstep
      simp [tabulateMetrics, hnotStarted] at hstep
    cases metricsStep_of_tabulateMetrics hstep <;> exact ⟨rfl, rfl, rfl, fun h => absurd h hstarted⟩

end Process

namespace LifeCycle

variable {n : Nat} {lib : Libraries} {options : ProcessOptions n} {l l' : LifeCycle n}

/-- What holds in every run. -/
structure Safe (l : LifeCycle n) : Prop where
  starting : l.process.main = .starting → l.process.metrics = .notStarted
  joined : ∀ client, l.process.Joined client
  watched : l.process.Watched
  taken : l.process.Taken
  valid : ∀ call ∈ l.calls, call.valid = true

theorem Safe.mainThread (h : l.Safe) {interrupted : Bool} {process : Process n}
    (hmain : l.process.mainThread lib options interrupted = some process) :
    Safe { l with process, calls := l.calls ++ l.process.futureCalls } where
  starting hstarting :=
    absurd hstarting (Process.not_starting_of_mainStep (Process.mainStep_of_mainThread hmain))
  joined client := (h.joined client).mainThread h.starting hmain
  watched := h.watched.mainThread hmain
  taken := h.taken.mainThread hmain
  valid call hcall := by
    rcases List.mem_append.mp hcall with hbefore | hnow
    · exact h.valid call hbefore
    · exact h.watched.futureCalls_valid call hnow

theorem Safe.thread (h : l.Safe) {event : Process.Event n}
    (hthread : ∀ interrupted, event ≠ .main interrupted) {process : Process n}
    (hstep : Process.next lib options l.process event = some process) :
    Safe { l with process } := by
  obtain ⟨hmain, hseedLinkFuture, hdataLinkFuture, hmetrics⟩ := Process.thread_frame hthread hstep
  refine ⟨fun hstarting => hmetrics (h.starting (hmain ▸ hstarting)),
    fun client => (h.joined client).next h.starting hstep, h.watched.next hstep, ⟨?_, ?_⟩, h.valid⟩
  · show process.main.seedLinkJoined = true → process.seedLinkFuture = false
    rw [hmain, hseedLinkFuture]
    exact h.taken.seedLink
  · show ∀ client : Fin n, process.main.writerJoined client = true → process.dataLinkFuture client = false
    rw [hmain, hdataLinkFuture]
    exact h.taken.dataLink

/-- A worker that throws has not returned, and no thread has joined it. -/
theorem Safe.throws (h : l.Safe) {asked : Worker n} {exception : Exception} {process : Process n}
    (hthrowing : l.process.throwing asked exception = some process) :
    Safe { l with process } := by
  unfold Process.throwing at hthrowing
  split at hthrowing
  · cases asked with
    | seedLink =>
      obtain rfl := Option.some.inj hthrowing
      exact ⟨h.starting, fun client => (h.joined client).of_thread rfl rfl rfl id (fun _ => rfl) rfl id,
        ⟨h.watched.1, h.watched.2, nofun, h.watched.4, h.watched.5, h.watched.6⟩, ⟨h.taken.1, h.taken.2⟩,
        h.valid⟩
    | dataLink other =>
      obtain rfl := Option.some.inj hthrowing
      refine ⟨h.starting, fun client => ?_, ?_, ⟨h.taken.1, h.taken.2⟩, h.valid⟩
      · have hkeeps : Process.KeepsEnded (l.process.dataLink other)
            { l.process.dataLink other with writer := .threw exception } := ⟨rfl, fun _ => rfl⟩
        obtain ⟨hkeep, hwriter⟩ := Process.setDataLink_related (fun _ => ⟨rfl, id⟩) hkeeps client
        exact (h.joined client).of_thread rfl rfl rfl id id hkeep hwriter
      · exact h.watched.of_dataLink other _ l.process.main
          (fun hkeeps => ⟨hkeeps, h.watched.dataLinkKept hkeeps other⟩) nofun h.watched.seedLinkFuture
          h.watched.dataLinkFuture
  · cases hthrowing

/-- The destructor goes to the futures again. -/
theorem Safe.destroy (h : l.Safe) (hstopped : l.process.main = .stopped) :
    Safe { l with
      process := { l.process with mKeepRunning := false, main := .gettingSEEDLink }
      destroying := true } := by
  refine ⟨nofun, fun client => ?_, ?_, ⟨nofun, nofun⟩, h.valid⟩
  · have hjoined := h.joined client
    have hagain : Process.Joined { l.process with main := .gettingSEEDLink } client :=
      hjoined.of_main (fun _ => hjoined.metrics (by rw [hstopped]; rfl)) (fun _ => by rw [hstopped]; rfl)
        (fun _ => by rw [hstopped]; rfl) nofun nofun
    exact ⟨hagain.1, hagain.2, hagain.3, hagain.4, hagain.5, hagain.6⟩
  · have hagain : Process.Watched { l.process with main := .gettingSEEDLink } :=
      h.watched.of_main nofun nofun nofun
    exact ⟨hagain.1, hagain.2, hagain.3, hagain.4, hagain.5, hagain.6⟩

theorem Safe.finish (h : l.Safe) (hmain : l.process.main = .resettingSEEDLink) :
    Safe { l with process := { l.process with main := .stopped } } := by
  have htaken (client : Fin n) := h.taken.dataLink client (by rw [hmain]; rfl)
  refine ⟨nofun, fun client => ?_, h.watched.of_main nofun nofun nofun,
    ⟨fun _ => h.taken.seedLink (by rw [hmain]; rfl), fun client _ => htaken client⟩, h.valid⟩
  have hjoined := h.joined client
  exact hjoined.of_main (fun _ => hjoined.metrics (by rw [hmain]; rfl)) (fun _ => by rw [hmain]; rfl)
    (fun _ => by rw [hmain]; rfl) (fun _ => hjoined.seedLink (by rw [hmain]; rfl))
    (fun _ => hjoined.dataLink (by rw [hmain]; rfl))

theorem next_thread {event : Process.Event n} (hthread : ∀ interrupted, event ≠ .main interrupted) :
    LifeCycle.next lib options l (.process event) =
      (Process.next lib options l.process event).map fun process => { l with process } := by
  cases event with
  | main interrupted => exact absurd rfl (hthread interrupted)
  | _ => rfl

theorem Safe.next {event : Event n} (h : l.Safe) (hstep : LifeCycle.next lib options l event = some l') :
    l'.Safe := by
  cases event with
  | throws asked exception =>
    obtain ⟨process, hthrowing, rfl⟩ := Option.map_eq_some_iff.mp hstep
    exact h.throws hthrowing
  | destroy =>
    rw [LifeCycle.next] at hstep
    split at hstep
    · next hstopped =>
      obtain rfl := Option.some.inj hstep
      simp only [Bool.and_eq_true, decide_eq_true_eq] at hstopped
      exact h.destroy hstopped.1
    · cases hstep
  | process event =>
    by_cases hthread : ∀ interrupted, event ≠ .main interrupted
    · rw [next_thread hthread] at hstep
      obtain ⟨process, hprocess, rfl⟩ := Option.map_eq_some_iff.mp hstep
      exact h.thread hthread hprocess
    · obtain ⟨interrupted, heq⟩ := not_forall.mp hthread
      obtain rfl := not_not.mp heq
      rw [LifeCycle.next] at hstep
      split at hstep
      · next hresetting =>
        obtain rfl := Option.some.inj hstep
        simp only [Bool.and_eq_true, decide_eq_true_eq] at hresetting
        exact h.finish hresetting.2
      · obtain ⟨process, hmain, rfl⟩ := Option.map_eq_some_iff.mp hstep
        exact h.mainThread hmain

theorem safe_construct (savedState : Option Nat) : (construct options savedState).Safe where
  starting _ := rfl
  joined _ := Process.joined_construct savedState
  watched := Process.watched_construct savedState
  taken := ⟨nofun, nofun⟩
  valid := nofun

theorem joined_of_resetsClients {main : Main} (h : main.resetsClients = true) (client : Nat) :
    main.metricsJoined = true ∧ main.seedLinkJoined = true ∧ main.writerJoined client = true := by
  cases main <;> first | exact ⟨rfl, rfl, rfl⟩ | cases h

theorem consistent_of_exec {savedState : Option Nat} {as : List (Event n)}
    (hrun : exec (LifeCycle.next lib options) (construct options savedState) as = some l)
    (worker : Worker n) : (l.toFuture worker).Consistent := by
  have hinit : (construct options savedState).toFuture worker = {} := by
    cases worker <;> rfl
  apply Future.consistent_of_reaches
  rw [← hinit]
  exact (refines_future worker).reaches (fun _ _ _ _ _ => trivial) trivial hrun

/-- **The life of the workers.** In every run no future without a shared state is asked, and the
exception of a worker is retrieved when its future loses the shared state and at no other time. When the
main thread destroys the clients, the metrics thread and every worker have ended, and the exception of
every worker that threw has been retrieved once. The constructor refuses to make a process without
writers. -/
theorem workers_lifeCycle (lib : Libraries) (options : ProcessOptions n) (hwriters : 0 < n)
    (savedState : Option Nat) (as : List (Event n)) (l : LifeCycle n)
    (hrun : exec (LifeCycle.next lib options) (construct options savedState) as = some l) :
    (∀ call ∈ l.calls, call.valid = true) ∧
      (∀ worker, l.retrieved worker =
        if l.process.hasState worker then [] else (l.process.job worker).thrown) ∧
      (l.process.main.resetsClients = true → l.process.metrics = .ended ∧
        ∀ worker, (l.process.job worker).hasEnded = true ∧
          l.retrieved worker = (l.process.job worker).thrown) := by
  have hsafe : l.Safe :=
    invariant (fun _ _ _ hs hnext => hs.next hnext) (safe_construct savedState) hrun
  have hconsistent := consistent_of_exec hrun
  refine ⟨hsafe.valid, fun worker => (hconsistent worker).retrieved, fun hresets => ⟨?_, ?_⟩⟩
  · exact (hsafe.joined ⟨0, hwriters⟩).metrics (joined_of_resetsClients hresets 0).1
  · intro worker
    obtain ⟨_, hseedLink, _⟩ := joined_of_resetsClients hresets 0
    cases worker with
    | seedLink =>
      refine ⟨?_, (hconsistent _).retrieved_eq (hsafe.taken.seedLink hseedLink)⟩
      exact (Poller.hasEnded_job _).trans ((hsafe.joined ⟨0, hwriters⟩).seedLink hseedLink)
    | dataLink client =>
      obtain ⟨_, _, hwriter⟩ := joined_of_resetsClients hresets client
      refine ⟨?_, (hconsistent _).retrieved_eq (hsafe.taken.dataLink client hwriter)⟩
      exact (Writer.hasEnded_job _).trans ((hsafe.joined client).dataLink hwriter)

/-- Both workers of a process throw while the main thread waits, and the destructor runs to its end. -/
def bothThrow (seedLinkException writerException : Exception) : List (Event 1) :=
  List.replicate 4 (.process (.main false)) ++
    [.throws .seedLink seedLinkException, .throws (.dataLink ⟨0, Nat.one_pos⟩) writerException] ++
    List.replicate 4 (.process (.main false)) ++ [.process (.metrics true)] ++
    List.replicate 12 (.process (.main false)) ++ [.destroy] ++
    List.replicate 4 (.process (.main false))

/-- Each exception is retrieved once, the one of the writer as well as the one that ends the polling. -/
theorem workers_lifeCycle_known :
    ∃ l, exec (LifeCycle.next (.knowing knownRecord knownNames) {})
        (construct {} none) (bothThrow (.runtimeError "import") (.runtimeError "export")) = some l ∧
      l.destroying = true ∧ (∀ call ∈ l.calls, call.valid = true) ∧
      l.retrieved .seedLink = [.runtimeError "import"] ∧
      l.retrieved (.dataLink 0) = [.runtimeError "export"] := by
  have hend : ((exec (LifeCycle.next (.knowing knownRecord knownNames) {})
      (construct {} none) (bothThrow (.runtimeError "import") (.runtimeError "export"))).map
        fun l => (l.process.main, l.destroying, (l.process.job .seedLink).thrown,
          (l.process.job (.dataLink 0)).thrown)) =
      some (.stopped, true, [.runtimeError "import"], [.runtimeError "export"]) := by
    decide +kernel
  obtain ⟨l, hrun, hl⟩ := Option.map_eq_some_iff.mp hend
  simp only [Prod.mk.injEq] at hl
  obtain ⟨hstopped, hdestroying, hseedLink, hwriter⟩ := hl
  obtain ⟨hvalid, _, hreset⟩ := workers_lifeCycle _ {} (by decide) none _ l hrun
  obtain ⟨_, htaken⟩ := hreset (by rw [hstopped]; rfl)
  exact ⟨l, hrun, hdestroying, hvalid, (htaken .seedLink).2.trans hseedLink,
    (htaken (.dataLink 0)).2.trans hwriter⟩

end LifeCycle

end USEEDLinkToRingServer
