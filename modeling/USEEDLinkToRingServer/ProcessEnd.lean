import USEEDLinkToRingServer.Shutdown
import USEEDLinkToRingServer.ThreadOrders

/-!
# The end of the process

The main thread waits for one thread at a time, and only for threads that it has told to stop. If every thread
that can take a step gets its turn, a process ends exactly when there is a reason to stop.
-/

namespace USEEDLinkToRingServer

open Machine

/-- How much of a call of `stop` is done. -/
def Stopping.done : Stopping → Nat
  | .idle => 0
  | .clearedKeepRunning => 1
  | .requestedTerminate => 2

theorem Main.eq_clearingKeepRunning {main : Main} (hstops : main.stops = true) (hwatching : main.watching = true) :
    main = .clearingKeepRunning := by
  cases main with
  | clearingKeepRunning => rfl
  | waiting | checkingSEEDLink | checkingWriter | undefined => cases hstops
  | _ => cases hwatching

namespace Process

variable {n : Nat}

section

variable (p : Process n)

/-- The steps of the main thread to the end of `stop`. -/
def stopLeft : Nat :=
  match p.main with
  | .clearingKeepRunning => 5 * n + 8
  | .joiningMetrics => 5 * n + 7
  | .stoppingSEEDLink => 5 * n + 6
  | .stoppingWriter client =>
    2 * n + 5 + 3 * (n - client) -
      (if h : client < n then (p.dataLink ⟨client, h⟩).stopping.done else 0)
  | .gettingSEEDLink => 2 * n + 4
  | .gettingWriter client => n + 3 + (n - client)
  | .resettingSEEDLink => n + 2
  | .resettingWriter client => n - client + 1
  | _ => 0

/-- The thread that the main thread waits for. -/
def waitsFor : Option (Thread n) :=
  match p.main with
  | .joiningMetrics => some .metrics
  | .gettingSEEDLink => if p.seedLinkFuture then some .seedLink else none
  | .gettingWriter client =>
    if h : client < n then if p.dataLinkFuture ⟨client, h⟩ then some (.writer ⟨client, h⟩) else none else none
  | _ => none

/-- The thread is there. -/
def Launched : Thread n → Prop
  | .main => True
  | .metrics => p.metrics ≠ .notStarted
  | .seedLink => p.seedLink.poller ≠ .notStarted
  | .writer client => (p.dataLink client).writer ≠ .notStarted

/-- The thread whose turn it is that brings the end nearer. -/
def helper : Thread n :=
  match p.waitsFor with
  | some thread => if p.threadEnded thread then .main else thread
  | none => .main

end

variable {lib : Libraries} {options : ProcessOptions n} {p p' : Process n}

theorem helper_eq_main (h : ∀ thread, p.waitsFor = some thread → p.threadEnded thread = true) :
    p.helper = .main := by
  unfold helper
  split
  · next thread hwaits => rw [if_pos (h thread hwaits)]
  · rfl

theorem helper_eq {thread : Thread n} (hwaits : p.waitsFor = some thread) (hrunning : p.threadEnded thread = false) :
    p.helper = thread := by
  simp [helper, hwaits, hrunning]

theorem helper_cases (p : Process n) :
    (p.helper = .main ∧ ∀ thread, p.waitsFor = some thread → p.threadEnded thread = true) ∨
      ∃ thread, p.helper = thread ∧ p.waitsFor = some thread ∧ p.threadEnded thread = false := by
  cases hwaits : p.waitsFor with
  | none =>
    refine .inl ⟨helper_eq_main ?_, nofun⟩
    rw [hwaits]
    nofun
  | some thread =>
    cases hended : p.threadEnded thread with
    | false => exact .inr ⟨thread, helper_eq hwaits hended, rfl, hended⟩
    | true =>
      have hall (other : Thread n) (hother : p.waitsFor = some other) : p.threadEnded other = true := by
        obtain rfl := Option.some.inj (hwaits.symm.trans hother)
        exact hended
      refine .inl ⟨helper_eq_main hall, fun other hother => ?_⟩
      obtain rfl := Option.some.inj hother
      exact hended

/-- The main thread waits for a thread that it has told to stop or goes on with a thread that has ended. -/
theorem waitsFor_cases {thread : Thread n} (hwaits : p.waitsFor = some thread) :
    (thread = .metrics ∧ p.main = .joiningMetrics) ∨
      (thread = .seedLink ∧ p.main = .gettingSEEDLink ∧ p.seedLinkFuture = true) ∨
      ∃ client, thread = .writer client ∧ p.main = .gettingWriter client ∧ p.dataLinkFuture client = true := by
  unfold waitsFor at hwaits
  split at hwaits
  · next hmain => exact .inl ⟨(Option.some.inj hwaits).symm, hmain⟩
  · next hmain =>
    split at hwaits
    · next hfuture => exact .inr (.inl ⟨(Option.some.inj hwaits).symm, hmain, hfuture⟩)
    · cases hwaits
  · next client hmain =>
    split at hwaits
    · next hlt =>
      split at hwaits
      · next hfuture => exact .inr (.inr ⟨⟨client, hlt⟩, (Option.some.inj hwaits).symm, hmain, hfuture⟩)
      · cases hwaits
    · cases hwaits
  · cases hwaits

/-- The main thread takes no step while the thread that it waits for runs. -/
theorem threadEnded_of_mainThread {interrupted : Bool} (h : p.mainThread lib options interrupted = some p')
    {thread : Thread n} (hwaits : p.waitsFor = some thread) : p.threadEnded thread = true := by
  rcases waitsFor_cases hwaits with ⟨rfl, hmain⟩ | ⟨rfl, hmain, hfuture⟩ | ⟨client, rfl, hmain, hfuture⟩
  · simp only [mainThread, hmain] at h
    split at h
    · next hended => simp only [threadEnded, hended]
    · cases h
  · simp only [mainThread, hmain, hfuture, if_true] at h
    split at h
    · next hended => exact hended
    · cases h
  · simp only [mainThread, hmain, client.isLt, dif_pos, Fin.eta, hfuture, if_true] at h
    split at h
    · next hended => exact hended
    · cases h

/-- The main thread waits for threads that it has launched and told to stop. -/
theorem Commanded.of_waitsFor (h : Commanded p) {thread : Thread n} (hwaits : p.waitsFor = some thread) :
    thread ≠ .main ∧ p.Launched thread ∧ p.told thread = true := by
  rcases waitsFor_cases hwaits with ⟨rfl, hmain⟩ | ⟨rfl, hmain, _⟩ | ⟨client, rfl, hmain, _⟩
  · have htold : p.mKeepRunning = false := h.metricsTold (by rw [hmain]; rfl)
    refine ⟨by simp, fun hnot => ?_, by rw [told, htold]; rfl⟩
    cases hmain.symm.trans (h.metrics.mp hnot)
  · have htold : p.seedLink.mKeepRunning = false := h.seedLinkTold (by rw [hmain]; rfl)
    refine ⟨by simp, fun hnot => ?_, by rw [told, htold]; rfl⟩
    have hnotStarted := h.poller.mp hnot
    rw [hmain] at hnotStarted
    cases hnotStarted
  · obtain ⟨hcleared, hterminate⟩ := (h.dataLink client).told (by rw [hmain]; rfl)
    refine ⟨by simp, fun hnot => ?_, by rw [told, hcleared, hterminate]; rfl⟩
    have hnotStarted := (h.dataLink client).started.mp hnot
    rw [hmain] at hnotStarted
    cases hnotStarted

/-! ### No thread is stuck -/

theorem Governed.ready_thread (h : Governed lib options p) (hlib : lib.ReportsLength) {thread : Thread n}
    (hne : thread ≠ .main) (hlaunched : p.Launched thread) (hrunning : p.threadEnded thread = false) :
    Ready lib options thread p := by
  cases thread with
  | main => exact absurd rfl hne
  | metrics => exact ready_metrics h.calling hlaunched hrunning h.enqueuing
  | seedLink => exact ready_seedLink hlib hlaunched hrunning
  | writer client => exact ready_writer hlaunched hrunning

/-- The main thread goes on when the thread that it waits for has ended. -/
theorem Governed.ready_main (h : Governed lib options p)
    (hwaited : ∀ thread, p.waitsFor = some thread → p.threadEnded thread = true)
    (hrunning : p.main ≠ .stopped) : Ready lib options .main p := by
  intro response
  refine ⟨.main response.interrupted, List.mem_singleton_self _, ?_⟩
  show (p.mainThread lib options response.interrupted).isSome = true
  cases hmain : p.main with
  | undefined => exact absurd hmain h.commanded.defined
  | stopped => exact absurd hmain hrunning
  | startingWriter client =>
    simp only [mainThread, hmain]
    split
    · next hlt =>
      have hcommanded := h.commanded.dataLink ⟨client, hlt⟩
      rw [hmain] at hcommanded
      have hnotStarted : (p.dataLink ⟨client, hlt⟩).writer = .notStarted :=
        hcommanded.started.mpr (by simp [Main.writerStarted_startingWriter])
      rw [Option.isSome_map, DataLinkClient.start, hnotStarted, hcommanded.idle (by simp)]
      rfl
    · rfl
  | startingSEEDLink =>
    have hconnected : p.seedLink.connected = true := h.saved.connected (by rw [hmain]; rfl)
    have hnotStarted : p.seedLink.poller = .notStarted := h.commanded.poller.mpr (by rw [hmain]; rfl)
    simp only [mainThread, hmain]
    rw [Option.isSome_map, SEEDLinkClient.start, hconnected, hnotStarted]
    rfl
  | joiningMetrics =>
    have hended := hwaited .metrics (by rw [waitsFor, hmain])
    simp only [mainThread, hmain]
    split
    · rfl
    · simp [threadEnded] at hended
  | gettingSEEDLink =>
    simp only [mainThread, hmain]
    split
    · next hfuture =>
      have hended : p.seedLink.poller.ended = true := hwaited .seedLink (by simp [waitsFor, hmain, hfuture])
      rw [if_pos hended]
      rfl
    · rfl
  | gettingWriter client =>
    simp only [mainThread, hmain]
    split
    · next hlt =>
      split
      · next hfuture =>
        have hended : (p.dataLink ⟨client, hlt⟩).writer.ended = true :=
          hwaited (.writer ⟨client, hlt⟩) (by simp [waitsFor, hmain, hlt, hfuture])
        rw [if_pos hended]
        rfl
      · rfl
    · rfl
  | checkingSEEDLink =>
    simp only [mainThread, hmain]
    split
    · split <;> rfl
    · rfl
  | checkingWriter client isOkay =>
    simp only [mainThread, hmain]
    split
    · split
      · split <;> rfl
      · rfl
    · rfl
  | stoppingWriter client | resettingWriter client =>
    simp only [mainThread, hmain]
    split <;> rfl
  | _ => simp [mainThread, hmain]

/-- **The process is never stuck.** Until it has stopped, the main thread or the thread that it waits for can
take a step. -/
theorem Governed.ready_helper (h : Governed lib options p) (hlib : lib.ReportsLength) (hrunning : p.main ≠ .stopped) :
    Ready lib options p.helper p := by
  rcases helper_cases p with ⟨hhelper, hwaited⟩ | ⟨thread, hhelper, hwaits, hnotEnded⟩
  · rw [hhelper]
    exact h.ready_main hwaited hrunning
  · obtain ⟨hne, hlaunched, _⟩ := h.commanded.of_waitsFor hwaits
    rw [hhelper]
    exact h.ready_thread hlib hne hlaunched hnotEnded

/-! ### A stop comes to its end -/

/-- A call of `stop` goes on, or the next one is begun. -/
theorem stopLeft_stop {client : Fin n} (hmain : p.main = .stoppingWriter client) :
    stopLeft { p.setDataLink client (p.dataLink client).stop with
      main := .stoppingWriter
        (if (p.dataLink client).stop.stopping = .idle then client + 1 else client) } < p.stopLeft := by
  have hlt := client.isLt
  have hself := setDataLink_self (p := p) client (p.dataLink client).stop
  cases hstopping : (p.dataLink client).stopping with
  | idle =>
    have hnext : (p.dataLink client).stop.stopping = .clearedKeepRunning := by
      rw [DataLinkClient.stop, hstopping]
    rw [hnext, if_neg (by decide)]
    simp only [stopLeft, hmain, hlt, dif_pos, Fin.eta, hself, hnext, hstopping, Stopping.done]
    omega
  | clearedKeepRunning =>
    have hnext : (p.dataLink client).stop.stopping = .requestedTerminate := by
      rw [DataLinkClient.stop, hstopping]
    rw [hnext, if_neg (by decide)]
    simp only [stopLeft, hmain, hlt, dif_pos, Fin.eta, hself, hnext, hstopping, Stopping.done]
    omega
  | requestedTerminate =>
    have hnext : (p.dataLink client).stop.stopping = .idle := by rw [DataLinkClient.stop, hstopping]
    rw [hnext, if_pos rfl]
    simp only [stopLeft, hmain, hlt, dif_pos, Fin.eta, hstopping, Stopping.done]
    omega

/-- Each step of `stop` brings the main thread nearer to its end. -/
theorem stopLeft_lt {interrupted : Bool} (hstops : p.main.stops = true)
    (h : p.mainThread lib options interrupted = some p') : p'.main.stops = true ∧ p'.stopLeft < p.stopLeft := by
  by_cases hwatching : p.main.watching = true
  · have hmain := Main.eq_clearingKeepRunning hstops hwatching
    simp only [mainThread, hmain] at h
    obtain rfl := Option.some.inj h
    refine ⟨rfl, ?_⟩
    simp only [stopLeft, hmain]
    omega
  cases mainStep_of_mainThread h with
  | watched _ hfrom | retrievedSEEDLink _ hfrom | retrievedWriter _ _ hfrom => exact absurd hfrom hwatching
  | started hmain | startedWriter _ _ hmain | startedWriters _ hmain | startedSEEDLink _ hmain =>
    rw [hmain] at hstops
    cases hstops
  | cleared hmain | joined hmain | stoppedSEEDLink hmain | gotSEEDLink hmain | resetSEEDLink hmain =>
    refine ⟨rfl, ?_⟩
    simp only [stopLeft, hmain]
    omega
  | stoppedWriter client nextClient hmain =>
    refine ⟨rfl, ?_⟩
    obtain rfl := Main.stoppingWriter.inj (stoppingWriter_eq hmain h)
    exact stopLeft_stop hmain
  | stoppedWriters client hmain hlast =>
    refine ⟨rfl, ?_⟩
    simp only [stopLeft, hmain, not_lt.mpr hlast, dif_neg, not_false_iff]
    omega
  | gotWriter client hmain | resetWriter client hmain =>
    have hlt := client.isLt
    refine ⟨rfl, ?_⟩
    simp only [stopLeft, hmain]
    omega
  | gotWriters client hmain hlast | finished client hmain hlast =>
    refine ⟨rfl, ?_⟩
    simp only [stopLeft, hmain]
    omega

theorem ThreadStep.stopLeft (h : ThreadStep p p') : p'.stopLeft = p.stopLeft := by
  have hdone (client : Fin n) : (p'.dataLink client).stopping.done = (p.dataLink client).stopping.done := by
    rw [(h.dataLink client).stopping]
  simp only [Process.stopLeft, h.main, hdone]

theorem ThreadStep.waitsFor (h : ThreadStep p p') : p'.waitsFor = p.waitsFor := by
  simp only [Process.waitsFor, h.main, h.seedLinkFuture, h.dataLinkFuture]

/-- How far the end of `stop` is: the steps of the main thread, and of the thread that it waits for. -/
def stopRank (options : ProcessOptions n) (p : Process n) : ℕ ×ₗ Distance :=
  toLex (p.stopLeft, p.distance options p.helper)

/-- A step of another thread than the main thread while the main thread waits for none. -/
theorem stopRank_aside (hkept : ThreadStep p p') (hhelper : p.helper = .main) (hhelper' : p'.helper = .main) :
    p'.stopRank options = p.stopRank options := by
  rw [stopRank, stopRank, hkept.stopLeft, hhelper, hhelper']
  rfl

/-- The helper brings the end nearer, and the other threads do not take it farther away. -/
theorem Governed.stopRank_next (h : Governed lib options p) (hroom : options.HaveRoom) (anyClient : Fin n)
    (hstops : p.main.stops = true) {event : Event n} (hstep : Process.next lib options p event = some p') :
    p'.stopRank options < p.stopRank options ∨
      event.thread ≠ p.helper ∧ p'.helper = p.helper ∧ p'.stopRank options ≤ p.stopRank options := by
  by_cases hthread : event.thread = .main
  · cases event with
    | main interrupted => exact .inl (Prod.Lex.toLex_lt_toLex.mpr (.inl (stopLeft_lt hstops hstep).2))
    | _ => cases hthread
  have hkept := threadStep_of_next hthread hstep
  rcases helper_cases p with ⟨hhelper, hwaited⟩ | ⟨thread, hhelper, hwaits, hrunning⟩
  · -- what has been waited for has ended, and stays so
    have hhelper' : p'.helper = .main := helper_eq_main fun other hother => by
      rw [hkept.waitsFor] at hother
      have hended := hwaited other hother
      by_cases heq : event.thread = other
      · rw [← heq, not_threadEnded_of_next (h.calling anyClient) hstep] at hended
        cases hended
      · rwa [(distance_le hroom hthread heq hstep).2.1]
    refine .inr ⟨by rwa [hhelper], hhelper'.trans hhelper.symm, ?_⟩
    rw [stopRank_aside hkept hhelper hhelper']
  · obtain ⟨hne, _, htold⟩ := h.commanded.of_waitsFor hwaits
    have hwaits' := hkept.waitsFor.trans hwaits
    by_cases heq : event.thread = thread
    · -- the helper takes a step, and may be at its end
      left
      have hlt : p'.distance options thread < p.distance options thread := by
        rw [← heq] at htold ⊢
        exact distance_lt hroom htold hstep
      have hle : p'.distance options p'.helper ≤ p'.distance options thread := by
        rcases helper_cases p' with ⟨hmain, _⟩ | ⟨other, hother, hwaitsOther, _⟩
        · rw [hmain]
          exact Distance.zero_le _
        · obtain rfl := Option.some.inj (hwaitsOther.symm.trans hwaits')
          rw [hother]
      refine Prod.Lex.toLex_lt_toLex.mpr (.inr ⟨hkept.stopLeft, ?_⟩)
      rw [hhelper]
      exact hle.trans_lt hlt
    · obtain ⟨hle, hsame, _⟩ := distance_le hroom hthread heq hstep
      have hhelper' : p'.helper = thread := helper_eq hwaits' (hsame.trans hrunning)
      refine .inr ⟨by rwa [hhelper], hhelper'.trans hhelper.symm, ?_⟩
      refine Prod.Lex.toLex_le_toLex.mpr (.inr ⟨hkept.stopLeft, ?_⟩)
      rw [hhelper, hhelper']
      exact hle

/-! ### A thread that has thrown is noticed -/

/-- The steps of the main thread to the end of the turn of its loop. -/
def turnLeft (n : Nat) : Main → Nat
  | .starting => 2 * n + 6
  | .startingWriter client => n + 5 + (n - client)
  | .startingSEEDLink => n + 4
  | .waiting => n + 3
  | .checkingSEEDLink => n + 2
  | .checkingWriter client _ => n - client + 1
  | _ => 0

/-- In the turn under way the main thread still comes to the thread, or has already found one that has thrown. -/
def comesTo (thread : Thread n) : Main → Bool
  | .checkingWriter current true =>
    match thread with
    | .writer client => current ≤ client
    | _ => false
  | _ => true

/-- The steps of the main thread until it notices that the thread has thrown. -/
def noticeLeft (thread : Thread n) (main : Main) : Nat :=
  turnLeft n main + if comesTo thread main then 0 else n + 3

/-- A turn that is past the thread does not come to it. -/
theorem comesTo_of_le {thread : Thread n} (hthrew : p.threw thread = true) {current : Nat} (hlast : n ≤ current) :
    comesTo thread (.checkingWriter current true) = false := by
  cases thread with
  | main | metrics => cases hthrew
  | seedLink => rfl
  | writer client =>
    have hlt := client.isLt
    simp only [comesTo, decide_eq_false_iff_not]
    omega

/-- A thread that has ended without having been told to is not passed. -/
theorem comesTo_succ {thread : Thread n} (hthrew : p.threw thread = true) {current : Fin n}
    (hrunning : (p.dataLink current).writer.ended = false) (isOkay : Bool) :
    comesTo thread (.checkingWriter (current + 1) isOkay) = comesTo thread (.checkingWriter current isOkay) := by
  cases isOkay with
  | false => rfl
  | true =>
    cases thread with
    | main | metrics => cases hthrew
    | seedLink => rfl
    | writer client =>
      have hne : (client : Nat) ≠ current := by
        intro heq
        rw [Fin.ext heq] at hthrew
        cases hrunning.symm.trans (Writer.ended_of_hasThrown hthrew)
      simp only [comesTo, decide_eq_decide]
      omega

theorem noticeLeft_lt {interrupted : Bool} (hwatched : Watched p) {thread : Thread n}
    (hthrew : p.threw thread = true) (hstops : p.main.stops = false)
    (h : p.mainThread lib options interrupted = some p') : noticeLeft thread p'.main < noticeLeft thread p.main := by
  by_cases hwatching : p.main.watching = true
  · cases checkStep_of_mainThread hwatching h with
    | waited main hmain hto =>
      rcases hto with rfl | rfl <;> simp [noticeLeft, turnLeft, comesTo, hmain]
    | misusedSEEDLink hmain hinvalid =>
      cases hinvalid.symm.trans (hwatched.seedLinkFuture (by rw [hmain]; rfl))
    | misusedWriter client isOkay hmain hinvalid =>
      cases hinvalid.symm.trans (hwatched.dataLinkFuture client (by rw [hmain]; rfl))
    | seedLinkRuns hmain _ hrunning =>
      have hcomes : comesTo thread (.checkingWriter 0 true) = true := by
        cases thread with
        | main | metrics => cases hthrew
        | seedLink => cases hrunning.symm.trans (Poller.ended_of_hasThrown hthrew)
        | writer client => exact decide_eq_true (Nat.zero_le (client : Nat))
      rw [hmain, noticeLeft, hcomes]
      simp only [turnLeft, noticeLeft, comesTo, if_true]
      omega
    | seedLinkEnded isOkay hmain _ _ hokay =>
      cases isOkay with
      | true =>
        have hkept := hwatched.seedLinkKept (by rw [hmain]; rfl)
        cases (hwatched.seedLinkReturned (hokay rfl)).symm.trans hkept
      | false =>
        rw [hmain]
        simp only [turnLeft, noticeLeft, comesTo, if_true]
        omega
    | writerRuns client isOkay hmain _ hrunning =>
      have hlt := client.isLt
      rw [hmain, noticeLeft, noticeLeft, comesTo_succ hthrew hrunning]
      simp only [turnLeft]
      omega
    | writerEnded client isOkay main hmain _ _ hto =>
      rcases hto with hreturned | rfl
      · have hkept := hwatched.dataLinkKept (by rw [hmain]; rfl) client
        cases (hwatched.dataLinkReturned client hreturned).symm.trans hkept
      · rw [hmain]
        simp only [turnLeft, noticeLeft, comesTo, if_true]
        omega
    | checkedAll client isOkay hmain hlast =>
      cases isOkay with
      | true =>
        rw [hmain, noticeLeft, noticeLeft, comesTo_of_le hthrew hlast]
        simp [turnLeft, comesTo]
      | false =>
        rw [hmain]
        simp [turnLeft, noticeLeft, comesTo]
    | cleared hmain =>
      rw [hmain] at hstops
      cases hstops
  · cases mainStep_of_mainThread h with
    | watched _ hfrom | retrievedSEEDLink _ hfrom | retrievedWriter _ _ hfrom => exact absurd hfrom hwatching
    | started hmain | startedWriters _ hmain | startedSEEDLink _ hmain =>
      rw [hmain]
      simp only [turnLeft, noticeLeft, comesTo, if_true]
      omega
    | startedWriter client _ hmain =>
      have hlt := client.isLt
      rw [hmain]
      simp only [turnLeft, noticeLeft, comesTo, if_true]
      omega
    | cleared hmain | joined hmain | stoppedSEEDLink hmain | stoppedWriter _ _ hmain | stoppedWriters _ hmain
    | gotSEEDLink hmain | gotWriter _ hmain | gotWriters _ hmain | resetSEEDLink hmain | resetWriter _ hmain
    | finished _ hmain =>
      rw [hmain] at hstops
      cases hstops

/-! ### Whole runs -/

/-- A run in which every thread that can take a step gets its turn. It may go on for ever, and may idle. -/
structure FairRun (lib : Libraries) (options : ProcessOptions n) (savedState : Option Nat)
    (states : ℕ → Process n) (steps : ℕ → Option (Event n)) : Prop where
  first : states 0 = construct options savedState
  run : RunsForever (idling (Process.next lib options)) states steps
  turns : TakesTurns Event.thread (Ready lib options) states steps

/-- The main thread has stopped, and every other thread has ended. -/
def AllEnded (p : Process n) : Prop :=
  p.main = .stopped ∧ ∀ thread, thread ≠ .main → p.threadEnded thread = true

/-- A reason to stop: the main thread is interrupted while it waits, or a thread with a future has thrown. -/
def StopReason (p : Process n) (step : Option (Event n)) : Prop :=
  p.main = .waiting ∧ step = some (.main true) ∨ ∃ thread, p.threw thread = true

theorem stops_next (h : p.main.stops = true) {event : Event n} (hstep : Process.next lib options p event = some p') :
    p'.main.stops = true := by
  by_cases hthread : event.thread = .main
  · cases event with
    | main interrupted => exact (stopLeft_lt h hstep).1
    | _ => cases hthread
  · rwa [(threadStep_of_next hthread hstep).main]

/-- The main thread only stops for a reason. -/
theorem Governed.stopReason (h : Governed lib options p) (hstops : p.main.stops = false) {event : Event n}
    (hstep : Process.next lib options p event = some p') (hstops' : p'.main.stops = true) :
    StopReason p (some event) := by
  by_cases hthread : event.thread = .main
  · cases event with
    | main interrupted =>
      by_cases hwatching : p.main.watching = true
      · cases checkStep_of_mainThread hwatching hstep with
        | waited main hmain hto =>
          rcases hto with rfl | rfl
          · cases interrupted with
            | true => exact .inl ⟨hmain, rfl⟩
            | false =>
              change p.mainThread lib options false = _ at hstep
              simp [mainThread, hmain] at hstep
          · cases hstops'
        | writerEnded client isOkay main hmain _ hended =>
          exact .inr ⟨.writer client, h.watched.threw_writer (by rw [hmain]; rfl) hended⟩
        | checkedAll client isOkay hmain =>
          cases isOkay with
          | true => cases hstops'
          | false => exact .inr ⟨.seedLink, h.noticed client hmain⟩
        | cleared hmain =>
          rw [hmain] at hstops
          cases hstops
        | _ => cases hstops'
      · cases mainStep_of_mainThread hstep with
        | watched _ hfrom | retrievedSEEDLink _ hfrom | retrievedWriter _ _ hfrom =>
          exact absurd hfrom hwatching
        | started | startedWriter | startedWriters | startedSEEDLink => cases hstops'
        | cleared hmain | joined hmain | stoppedSEEDLink hmain | stoppedWriter _ _ hmain
        | stoppedWriters _ hmain | gotSEEDLink hmain | gotWriter _ hmain | gotWriters _ hmain
        | resetSEEDLink hmain | resetWriter _ hmain | finished _ hmain =>
          rw [hmain] at hstops
          cases hstops
    | _ => cases hthread
  · rw [(threadStep_of_next hthread hstep).main, hstops] at hstops'
    cases hstops'

theorem Governed.allEnded (h : Governed lib options p) (hstopped : p.main = .stopped) (anyClient : Fin n) :
    AllEnded p := by
  refine ⟨hstopped, fun thread hne => ?_⟩
  cases thread with
  | main => exact absurd rfl hne
  | metrics =>
    have hended := (h.joined anyClient).metrics (by rw [hstopped]; rfl)
    simp only [threadEnded, hended]
  | seedLink => exact (h.joined anyClient).seedLink (by rw [hstopped]; rfl)
  | writer client => exact (h.joined client).dataLink (by rw [hstopped]; rfl)

namespace FairRun

variable {savedState : Option Nat} {states : ℕ → Process n} {steps : ℕ → Option (Event n)}

theorem governed (h : FairRun lib options savedState states steps) (hroom : options.HaveRoom)
    (anyClient : Fin n) (m : ℕ) : Governed lib options (states m) := by
  refine h.run.always (fun _ _ _ hs hstep => hs.next hroom anyClient hstep) ?_ m
  rw [h.first]
  exact governed_construct savedState

/-- A stop that has begun comes to its end. -/
theorem ends (h : FairRun lib options savedState states steps) (hlib : lib.ReportsLength)
    (hroom : options.HaveRoom) (anyClient : Fin n) {start : ℕ} (hstops : (states start).main.stops = true) :
    ∃ m, start ≤ m ∧ (states m).main = .stopped :=
  h.turns.meets (I := fun p => Governed lib options p ∧ p.main.stops = true) (G := fun p => p.main = .stopped) h.run
    helper (stopRank options)
    (fun _ _ _ hs _ hstep => ⟨hs.1.next hroom anyClient hstep, stops_next hs.2 hstep⟩)
    (fun _ hs hrunning => hs.1.ready_helper hlib hrunning)
    (fun _ _ _ hs _ hstep => hs.1.stopRank_next hroom anyClient hs.2 hstep)
    ⟨h.governed hroom anyClient start, hstops⟩

/-- The main thread stops when a thread with a future has thrown. -/
theorem notices (h : FairRun lib options savedState states steps) (hroom : options.HaveRoom) (anyClient : Fin n)
    {start : ℕ} {thread : Thread n} (hthrew : (states start).threw thread = true) :
    ∃ m, start ≤ m ∧ (states m).main.stops = true := by
  refine h.turns.meets (I := fun p => Governed lib options p ∧ p.threw thread = true)
    (G := fun p => p.main.stops = true) h.run (fun _ => .main)
    (fun p => noticeLeft thread p.main) (fun p event p' hs _ hstep => ?_) (fun p hs hrunning => ?_)
    (fun p event p' hs hrunning hstep => ?_) ⟨h.governed hroom anyClient start, hthrew⟩
  · exact ⟨hs.1.next hroom anyClient hstep, threw_next hroom (hs.1.calling anyClient) hs.2 hstep⟩
  · refine hs.1.ready_main (fun waited hwaits => ?_) fun hstopped => hrunning (by rw [hstopped]; rfl)
    -- outside `stop` the main thread waits for no thread
    rcases waitsFor_cases hwaits with ⟨_, hmain⟩ | ⟨_, hmain, _⟩ | ⟨_, _, hmain, _⟩ <;>
      exact absurd (by rw [hmain]; rfl) hrunning
  · by_cases hthread : event.thread = .main
    · cases event with
      | main interrupted => exact .inl (noticeLeft_lt hs.1.watched hs.2 (Bool.eq_false_iff.mpr hrunning) hstep)
      | _ => cases hthread
    · exact .inr ⟨hthread, rfl, by rw [(threadStep_of_next hthread hstep).main]⟩

/-- Without a reason the main thread does not stop. -/
theorem exists_stopReason (h : FairRun lib options savedState states steps) (hroom : options.HaveRoom)
    (anyClient : Fin n) {m : ℕ} (hstops : (states m).main.stops = true) :
    ∃ k, StopReason (states k) (steps k) := by
  induction m with
  | zero =>
    rw [h.first] at hstops
    cases hstops
  | succ m ih =>
    cases hbefore : (states m).main.stops with
    | true => exact ih hbefore
    | false =>
      rcases h.run.step_cases m with ⟨_, hidle⟩ | ⟨event, hevent, hstep⟩
      · rw [hidle, hbefore] at hstops
        cases hstops
      · refine ⟨m, ?_⟩
        rw [hevent]
        exact (h.governed hroom anyClient m).stopReason hbefore hstep hstops

end FairRun

/-- **A process ends exactly when there is a reason to stop.** In every run in which the threads get their turns,
all threads end if the process is interrupted while it watches, or if the SEEDLink thread or a writer throws,
and not otherwise. -/
theorem allEnded_iff (lib : Libraries) (hlib : lib.ReportsLength) (options : ProcessOptions n)
    (hroom : options.HaveRoom) (hwriters : 0 < n) (savedState : Option Nat) (states : ℕ → Process n)
    (steps : ℕ → Option (Event n)) (h : FairRun lib options savedState states steps) :
    (∃ m, AllEnded (states m)) ↔ ∃ m, StopReason (states m) (steps m) := by
  have hends {start : ℕ} (hstops : (states start).main.stops = true) : ∃ m, AllEnded (states m) := by
    obtain ⟨m, _, hstopped⟩ := h.ends hlib hroom ⟨0, hwriters⟩ hstops
    exact ⟨m, (h.governed hroom ⟨0, hwriters⟩ m).allEnded hstopped ⟨0, hwriters⟩⟩
  constructor
  · rintro ⟨m, hstopped, _⟩
    have hstops : (states m).main.stops = true := by rw [hstopped]; rfl
    exact h.exists_stopReason hroom ⟨0, hwriters⟩ hstops
  · rintro ⟨m, ⟨hmain, hstep⟩ | ⟨thread, hthrew⟩⟩
    · have hnext := h.run m
      rw [hstep] at hnext
      change (states m).mainThread lib options true = some (states (m + 1)) at hnext
      simp only [mainThread, hmain, if_true] at hnext
      apply @hends (m + 1)
      rw [← Option.some.inj hnext]
      rfl
    · obtain ⟨k, _, hstops⟩ := h.notices hroom ⟨0, hwriters⟩ hthrew
      exact hends hstops

theorem governed_of_exec (hroom : options.HaveRoom) (anyClient : Fin n) {savedState : Option Nat}
    {events : List (Event n)}
    (hrun : exec (Process.next lib options) (construct options savedState) events = some p) :
    Governed lib options p :=
  invariant (I := fun p => Governed lib options p) (fun _ _ _ hs hstep => hs.next hroom anyClient hstep)
    (governed_construct savedState) hrun

/-- **The process is never stuck.** In every state of every run the process has stopped, or the main thread or
the thread that it waits for can take a step. -/
theorem never_stuck (lib : Libraries) (hlib : lib.ReportsLength) (options : ProcessOptions n)
    (hroom : options.HaveRoom) (hwriters : 0 < n) (savedState : Option Nat) (events : List (Event n))
    (p : Process n)
    (hrun : exec (Process.next lib options) (construct options savedState) events = some p) :
    AllEnded p ∨ Ready lib options .main p ∨
      ∃ thread, p.waitsFor = some thread ∧ Ready lib options thread p := by
  have hgoverned := governed_of_exec hroom ⟨0, hwriters⟩ hrun
  by_cases hstopped : p.main = .stopped
  · exact .inl (hgoverned.allEnded hstopped ⟨0, hwriters⟩)
  · have hready := hgoverned.ready_helper hlib hstopped
    rcases helper_cases p with ⟨hhelper, _⟩ | ⟨thread, hhelper, hwaits, _⟩ <;> rw [hhelper] at hready
    · exact .inr (.inl hready)
    · exact .inr (.inr ⟨thread, hwaits, hready⟩)

/-! ### A run to the end -/

theorem Governed.not_ready (h : Governed lib options p) (hended : AllEnded p) (anyClient : Fin n)
    (thread : Thread n) : ¬ Ready lib options thread p := by
  intro hready
  obtain ⟨event, hmem, hsome⟩ := hready
    { interrupted := false, poll := {}, pushSucceeds := true, answer := {}, fits := nofun }
  obtain ⟨p', hstep⟩ := Option.isSome_iff_exists.mp hsome
  have hthread : event.thread = thread := by
    cases thread <;> simp only [eventsOf, List.mem_cons, List.not_mem_nil, or_false] at hmem
    case seedLink => rcases hmem with rfl | rfl <;> rfl
    all_goals
      rw [hmem]
      rfl
  by_cases hmain : event.thread = .main
  · cases event with
    | main interrupted =>
      change p.mainThread lib options interrupted = some p' at hstep
      simp only [mainThread, hended.1] at hstep
      cases hstep
    | _ => cases hmain
  · cases (hended.2 _ hmain).symm.trans (not_threadEnded_of_next (h.calling anyClient) hstep)

theorem haveRoom_keepingState : keepingState.HaveRoom := ⟨by decide, fun _ => Nat.le_add_left 1 8191⟩

theorem knownRecordOnSecond_wellFormed : knownRecordOnSecond.WellFormed .integer32 [5] where
  minRecLen_lt := by decide
  length_lt := by decide
  reclen := by decide
  rate := by norm_num [knownRecordOnSecond, knownRecord]
  samples := ⟨by decide, rfl, rfl, rfl⟩

/-- The known record is received, and the process is interrupted. -/
theorem never_stuck_known :
    ∃ p, exec (Process.next (.knowing knownRecordOnSecond knownNames) keepingState)
        (construct keepingState none) (receiveOne ++ [.main true, .main false]) = some p ∧
      Ready (.knowing knownRecordOnSecond knownNames) keepingState .metrics p := by
  have hend : ((exec (Process.next (.knowing knownRecordOnSecond knownNames) keepingState)
      (construct keepingState none) (receiveOne ++ [.main true, .main false])).map
        fun p => (p.main, p.threadEnded .metrics)) = some (.joiningMetrics, false) := by
    decide +kernel
  obtain ⟨p, hrun, heq⟩ := Option.map_eq_some_iff.mp hend
  obtain ⟨hmain, hrunning⟩ := Prod.mk.inj heq
  refine ⟨p, hrun, ?_⟩
  have hwaits : p.waitsFor = some .metrics := by rw [waitsFor, hmain]
  rcases never_stuck _ (Libmseed.knowing_reportsLength knownRecordOnSecond_wellFormed) _ haveRoom_keepingState
    Nat.one_pos _ _ _ hrun with ⟨hstopped, _⟩ | hready | ⟨thread, hwaits', hready⟩
  · cases hmain.symm.trans hstopped
  · obtain ⟨_, hmem, hsome⟩ := hready
      { interrupted := false, poll := {}, pushSucceeds := true, answer := {}, fits := nofun }
    obtain ⟨p', hstep⟩ := Option.isSome_iff_exists.mp hsome
    rw [List.mem_singleton.mp hmem] at hstep
    cases (threadEnded_of_mainThread hstep hwaits).symm.trans hrunning
  · rwa [Option.some.inj (hwaits.symm.trans hwaits')]

/-- The known record is forwarded, and the process is interrupted. -/
theorem allEnded_iff_known :
    ∃ states steps, FairRun (.knowing knownRecordOnSecond knownNames) keepingState none states steps ∧
      (∃ m, AllEnded (states m)) ∧ ∃ m, StopReason (states m) (steps m) := by
  have hend : ((exec (Process.next (.knowing knownRecordOnSecond knownNames) keepingState)
      (construct keepingState none) (forwardOne ++ stopAll 2 2)).map fun p => p.main) = some .stopped := by
    decide +kernel
  obtain ⟨p, hrun, hstopped⟩ := Option.map_eq_some_iff.mp hend
  have hgoverned := governed_of_exec haveRoom_keepingState 0 hrun
  have hended := hgoverned.allEnded hstopped 0
  obtain ⟨states, steps, hforever, hturns, hfirst, hlast⟩ :=
    exists_takesTurns hrun (hgoverned.not_ready hended 0)
  have hfair : FairRun (.knowing knownRecordOnSecond knownNames) keepingState none states steps :=
    ⟨hfirst, hforever, hturns⟩
  rw [← hlast] at hended
  exact ⟨states, steps, hfair, ⟨_, hended⟩,
    (allEnded_iff _ (Libmseed.knowing_reportsLength knownRecordOnSecond_wellFormed) _ haveRoom_keepingState
      Nat.one_pos _ _ _ hfair).mp ⟨_, hended⟩⟩

end Process

end USEEDLinkToRingServer
