import USEEDLinkToRingServer.Library.ConditionVariable
import USEEDLinkToRingServer.ReconnectLoop
import USEEDLinkToRingServer.WriterCounters

/-!
# The wake-up on a stop

The wait in the reconnect loop and `stop` are a thread that waits for a flag and one that sets it and
notifies. `stop` does not hold the mutex, so its notification is lost on a writer that has found the flag
clear and has not blocked yet.
-/

namespace USEEDLinkToRingServer

open Machine

/-- Where the writer is in its wait. -/
def Writer.waiter : Writer → Waiter
  | .locking _ => .locking
  | .testingTerminate _ => .testing
  | .blocking _ => .blocking
  | .blocked _ notified => .blocked notified
  | _ => .away

/-- The writer holds the mutex of the condition variable. -/
def Writer.holdsMutex : Writer → Bool
  | .testingTerminate _ | .blocking _ => true
  | _ => false

/-- The wait of a writer that is at this place. -/
def Writer.monitor (flag : Bool) (writer : Writer) : Monitor Unit where
  owner := if writer.holdsMutex then some () else none
  flag := flag
  waiter _ := writer.waiter

namespace DataLinkClient

/-- The wait of the writer, and the flag it waits for. -/
def toMonitor (c : DataLinkClient) : Monitor Unit := c.writer.monitor c.mTerminateRequested

section

variable {lib : Libmseed} {options : WriterOptions} {c c' : DataLinkClient} {answer : Answer} {flag : Bool}
  {writer writer' : Writer}

theorem waiter_blocking : writer.waiter = .blocking ↔ ∃ intervals, writer = .blocking intervals := by
  cases writer <;> simp [Writer.waiter]

theorem waiter_unnotified :
    writer.waiter = .blocked false ↔ ∃ intervals, writer = .blocked intervals false := by
  cases writer <;> simp [Writer.waiter]

theorem goTo_monitor {place : Waiter} {owner : Option Unit} (hwaiter : writer'.waiter = place)
    (howner : (if writer'.holdsMutex then some () else none) = owner) :
    (writer.monitor flag).goTo () place owner = writer'.monitor flag := by
  rw [Monitor.goTo, Function.update_eq_const_of_subsingleton, ← hwaiter, ← howner]
  rfl

theorem monitor_of_away (hwaiter : writer.waiter = .away) :
    writer.monitor flag = { flag, waiter := fun _ => .away } := by
  cases writer <;> first | rfl | cases hwaiter

/-- A step between two places outside the wait. -/
theorem reaches_away (hwaiter : writer.waiter = .away) (hwaiter' : writer'.waiter = .away) :
    Reaches Monitor.next (writer.monitor flag) (writer'.monitor flag) := by
  rw [monitor_of_away hwaiter, monitor_of_away hwaiter']
  exact .refl _

/-- The next turn of the loop begins with another wait or is the last. -/
theorem reaches_reconnect (intervals : List Nat) (hwaiter : writer.waiter = .away) :
    Reaches Monitor.next (writer.monitor flag) ((reconnect intervals).monitor flag) := by
  unfold reconnect
  split
  · exact reaches_away hwaiter rfl
  · have hlike : writer.monitor flag = Writer.testing.monitor flag := monitor_of_away hwaiter
    rw [hlike]
    exact Reaches.step (a := .arrive ()) (.refl _) (congrArg some (goTo_monitor rfl rfl))

theorem reaches_placeStep {isConnected : Bool} (h : PlaceStep c answer writer isConnected) :
    Reaches Monitor.next c.toMonitor (writer.monitor c.mTerminateRequested) := by
  rw [toMonitor]
  cases h with
  | returned hwriter | entered hwriter | connected hwriter | reconnected _ hwriter | resumed hwriter
  | gaveUp hwriter | foundNothing hwriter | took _ hwriter | converted _ _ hwriter | named _ _ _ hwriter
  | wrote _ _ _ _ hwriter | killed _ _ _ hwriter =>
    rw [hwriter]
    exact reaches_away rfl rfl
  | left hwork =>
    refine reaches_away ?_ rfl
    cases hwriter : c.writer <;> rw [hwriter] at hwork <;> first | rfl | cases hwork
  | disconnected hwriter | failed _ hwriter =>
    rw [hwriter]
    exact reaches_reconnect _ rfl
  | locked intervals hwriter =>
    rw [hwriter]
    exact Reaches.step (a := .lock ()) (.refl _) (congrArg some (goTo_monitor rfl rfl))
  | skipped intervals hwriter hset =>
    rw [hwriter, hset]
    exact Reaches.step (a := .test ()) (.refl _) (congrArg some (goTo_monitor rfl rfl))
  | waits intervals hwriter hclear =>
    rw [hwriter, hclear]
    exact Reaches.step (a := .test ()) (.refl _) (congrArg some (goTo_monitor rfl rfl))
  | blocked intervals hwriter =>
    rw [hwriter]
    exact Reaches.step (a := .block ()) (.refl _) (congrArg some (goTo_monitor rfl rfl))
  | woke intervals notified hwriter =>
    rw [hwriter]
    have hwake : Monitor.next ((Writer.blocked intervals notified).monitor c.mTerminateRequested) (.wake ()) =
        some ((Writer.locking intervals).monitor c.mTerminateRequested) :=
      (if_pos ⟨notified, rfl⟩).trans (congrArg some (goTo_monitor rfl rfl))
    refine Reaches.step (a := .lock ()) (Reaches.step (.refl _) hwake) ?_
    exact congrArg some (goTo_monitor rfl rfl)
  | timedOut intervals notified hwriter =>
    rw [hwriter]
    refine Reaches.step (a := .timeOut ()) (.refl _) ?_
    exact (if_pos ⟨⟨notified, rfl⟩, rfl⟩).trans (congrArg some (goTo_monitor rfl rfl))

theorem toMonitor_stop (hreturns : c.stopping = .requestedTerminate) :
    c.stop.toMonitor = c.toMonitor.notifyAll := by
  rw [stop, hreturns]
  unfold toMonitor Writer.monitor Monitor.notifyAll
  cases hwriter : c.writer <;> rfl

theorem reaches_stop : Reaches Monitor.next c.toMonitor c.stop.toMonitor := by
  cases hstopping : c.stopping with
  | idle =>
    rw [stop, hstopping]
    exact .refl _
  | clearedKeepRunning =>
    rw [stop, hstopping]
    exact Reaches.step (a := .setFlag) (.refl _) rfl
  | requestedTerminate =>
    rw [toMonitor_stop hstopping]
    exact Reaches.step (a := .notifyAll) (.refl _) rfl

/-- A writer that has been started waits as in the library. -/
theorem refines_monitor :
    Refines (nextWith options) Monitor.next toMonitor fun c => c.writer ≠ .notStarted := by
  intro c ⟨lib, event⟩ c' hstarted hnext
  cases event with
  | write answer =>
    obtain ⟨hplace, _, hterminate, _⟩ := placeStep_of_runWriter hnext
    have hreaches := reaches_placeStep hplace
    rw [← hterminate] at hreaches
    exact hreaches
  | stop =>
    obtain rfl := Option.some.inj hnext
    exact reaches_stop
  | start =>
    rw [nextWith, next, start_eq_none hstarted] at hnext
    cases hnext
  | enqueue packet =>
    obtain ⟨queue, _, rfl⟩ := Option.map_eq_some_iff.mp hnext
    exact .refl _
  | produce pushSucceeds =>
    obtain ⟨queue, _, rfl⟩ := Option.map_eq_some_iff.mp hnext
    exact .refl _

/-! ### After a call of `stop` -/

/-- Before it notifies, `stop` has set the flag. -/
theorem flag_of_exec {as : List (Libmseed × Event)} (hrun : exec (nextWith options) {} as = some c)
    (hreturns : c.stopping = .requestedTerminate) : c.mTerminateRequested = true := by
  refine invariant (I := fun c => c.stopping = .requestedTerminate → c.mTerminateRequested = true) ?_
    (fun h => by cases h) hrun hreturns
  rintro c ⟨lib, event⟩ c' hflag hnext
  cases event with
  | write answer =>
    obtain ⟨_, _, hterminate, hstopping⟩ := placeStep_of_runWriter hnext
    rw [hterminate, hstopping]
    exact hflag
  | stop =>
    obtain rfl := Option.some.inj hnext
    unfold stop
    split
    · nofun
    · exact fun _ => rfl
    · nofun
  | start =>
    change c.start = some c' at hnext
    unfold start at hnext
    split at hnext
    · next _ hidle =>
      obtain rfl := Option.some.inj hnext
      intro hrequested
      cases hidle.symm.trans hrequested
    · cases hnext
  | enqueue packet =>
    obtain ⟨queue, _, rfl⟩ := Option.map_eq_some_iff.mp hnext
    exact hflag
  | produce pushSucceeds =>
    obtain ⟨queue, _, rfl⟩ := Option.map_eq_some_iff.mp hnext
    exact hflag

end

/-- From a state on, the writer does not block without a notification in any run. -/
def KeepsAwake (options : WriterOptions) (c : DataLinkClient) : Prop :=
  ∀ (as : List (Libmseed × Event)) (c' : DataLinkClient), exec (nextWith options) c as = some c' →
    ∀ intervals, c'.writer ≠ .blocked intervals false

section

variable {options : WriterOptions} {c : DataLinkClient}

/-- A writer that is about to block blocks after the notification. -/
theorem not_keepsAwake_of_blocking (hreturns : c.stopping = .requestedTerminate) {intervals : List Nat}
    (hblocking : c.writer = .blocking intervals) : ¬ KeepsAwake options c.stop := by
  intro hawake
  have hstop : c.stop.writer = .blocking intervals := by
    rw [stop, hreturns]
    simp only [hblocking]
  have hblock : nextWith options c.stop (.knowing knownRecord knownNames, .write {}) =
      some { c.stop with writer := .blocked intervals false } := by
    simp only [nextWith, next, runWriter, hstop]
  exact hawake [_] _ (exec_cons_eq_some.mpr ⟨_, hblock, rfl⟩) intervals rfl

/-- Any other writer is notified or finds the flag set. -/
theorem keepsAwake_of_not_blocking (hflag : c.mTerminateRequested = true) (hstarted : c.writer ≠ .notStarted)
    (hreturns : c.stopping = .requestedTerminate) (hblocking : ∀ intervals, c.writer ≠ .blocking intervals) :
    KeepsAwake options c.stop := by
  intro as c' hrun intervals hunnotified
  have hnotified : c.stop.toMonitor.Awake () := by
    rw [toMonitor_stop hreturns, Monitor.awake_notifyAll hflag]
    exact fun heq => absurd (waiter_blocking.mp heq) (not_exists.mpr hblocking)
  have hreaches := refines_monitor.reaches (fun _ _ _ hs hnext => started_of_next hs hnext)
    (asideStep_stop.started hstarted) hrun
  exact (hnotified.reaches hreaches).notified (waiter_unnotified.mpr ⟨intervals, hunnotified⟩)

end

/-- **No wake-up is lost** on a stop exactly when its notification does not come between the writer's test of
the flag and its block. -/
theorem stop_wakes_iff (options : WriterOptions) (as : List (Libmseed × Event)) (c : DataLinkClient)
    (hrun : exec (nextWith options) {} as = some c) (hstarted : c.writer ≠ .notStarted)
    (hreturns : c.stopping = .requestedTerminate) :
    KeepsAwake options c.stop ↔ ∀ intervals, c.writer ≠ .blocking intervals :=
  ⟨fun hawake _ hblocking => not_keepsAwake_of_blocking hreturns hblocking hawake,
    keepsAwake_of_not_blocking (flag_of_exec hrun hreturns) hstarted hreturns⟩

/-! ### A link that goes down -/

/-- The link goes down at the first write, and the writer is about to block in its first wait. -/
def linkGoesDown : List Event :=
  [.start, .enqueue (knownPacket .integer32 [5]), .produce true, .produce true] ++
    List.replicate 5 (.write {}) ++ [.write { returnCode := -1, linkUp := false }] ++
    List.replicate 5 (.write {})

/-- The wait runs out, the attempt to connect fails, and the writer is about to block in the next wait. -/
def attemptFails : List Event :=
  [.write {}, .write { timedOut := true }, .write { returnCode := -1 }, .write {}, .write {}]

def withKnown (events : List Event) : List (Libmseed × Event) :=
  events.map (.knowing knownRecord knownNames, ·)

theorem started_of_waiter {c : DataLinkClient} (hwaiter : c.writer.waiter ≠ .away) : c.writer ≠ .notStarted := by
  intro hnotStarted
  rw [hnotStarted] at hwaiter
  exact hwaiter rfl

/-- A writer that has blocked is woken by the notification. -/
theorem stop_wakes_iff_known :
    ∃ c, exec (nextWith {}) {} (withKnown (linkGoesDown ++ [.write {}, .stop, .stop])) = some c ∧
      KeepsAwake {} c.stop := by
  have hrun : (exec (nextWith {}) {} (withKnown (linkGoesDown ++ [.write {}, .stop, .stop]))).map
      (fun c => (c.stopping, c.writer.waiter)) = some (.requestedTerminate, .blocked false) := by
    decide +kernel
  obtain ⟨c, hrun, heq⟩ := Option.map_eq_some_iff.mp hrun
  obtain ⟨hstopping, hwaiter⟩ := Prod.mk.inj heq
  refine ⟨c, hrun, (stop_wakes_iff {} _ c hrun (started_of_waiter ?_) hstopping).mpr ?_⟩
  · rw [hwaiter]
    nofun
  · intro intervals hblocking
    rw [hblocking] at hwaiter
    cases hwaiter

/-- A stop in the last turn of the loop is slept through for the whole interval. -/
theorem stop_sleeps :
    ¬ ∀ (options : WriterOptions) (as : List (Libmseed × Event)) (c : DataLinkClient),
      exec (nextWith options) {} as = some c → c.writer ≠ .notStarted →
      c.stopping = .requestedTerminate → KeepsAwake options c.stop := by
  intro hclaim
  have hrun : (exec (nextWith {}) {} (withKnown (linkGoesDown ++ attemptFails ++ attemptFails ++
      attemptFails ++ [.stop, .stop]))).map (fun c => (c.stopping, c.writer.waiter)) =
      some (.requestedTerminate, .blocking) := by
    decide +kernel
  obtain ⟨c, hrun, heq⟩ := Option.map_eq_some_iff.mp hrun
  obtain ⟨hstopping, hwaiter⟩ := Prod.mk.inj heq
  have hstarted : c.writer ≠ .notStarted := started_of_waiter (by rw [hwaiter]; nofun)
  obtain ⟨intervals, hblocking⟩ := waiter_blocking.mp hwaiter
  exact not_keepsAwake_of_blocking hstopping hblocking (hclaim {} _ c hrun hstarted hstopping)

end DataLinkClient

end USEEDLinkToRingServer
