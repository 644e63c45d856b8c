import Mathlib.Data.Prod.Lex
import USEEDLinkToRingServer.Library.Fairness
import USEEDLinkToRingServer.WakeUp
import USEEDLinkToRingServer.WorkerLifeCycle

/-!
# A stop in the reconnect loop

A stop ends the waits of the loop and not its attempts to connect. The writer returns if one of the attempts
that remain succeeds, and throws if all of them fail, as it does without a stop.
-/

namespace USEEDLinkToRingServer

open Machine

namespace Writer

/-- A writer that is not to keep running is on its way to return. -/
def leaves (isConnected : Bool) : Writer → Bool
  | .notStarted | .checkingConnection | .threw _ => false
  | .recheckingConnection => isConnected
  | _ => true

/-- The writer has thrown or is about to. -/
def fails (isConnected : Bool) : Writer → Bool
  | .threw _ => true
  | .recheckingConnection => !isConnected
  | _ => false

/-- How many places a writer that is told to stop may come through before its end. -/
def placesLeft : Writer → Nat
  | .notStarted | .returned | .threw _ => 0
  | .testing => 1
  | .writing _ _ => 2
  | .naming _ _ => 3
  | .converting _ => 4
  | .dequeuing => 5
  | .recheckingConnection => 6
  | .connecting intervals => 7 + 5 * intervals.length
  | .testingTerminate intervals => 8 + 5 * intervals.length
  | .blocked intervals _ => 9 + 5 * intervals.length
  | .blocking intervals => 10 + 5 * intervals.length
  | .locking intervals => 11 + 5 * intervals.length
  | .checkingConnection => 12 + 5 * DataLinkClient.mReconnectInterval.length

/-- The records of the packet in work that are not written. -/
def recordsLeft : Writer → Nat
  | .writing _ dataLinkPackets => dataLinkPackets.length
  | _ => 0

/-- How far a writer that is told to stop is from its end. How many records it stays for at the last place
is only known when it gets there. -/
def rank (writer : Writer) : Nat ×ₗ Nat := toLex (writer.placesLeft, writer.recordsLeft)

variable {writer writer' : Writer}

theorem rank_lt_of_placesLeft (h : writer.placesLeft < writer'.placesLeft) : writer.rank < writer'.rank :=
  Prod.Lex.toLex_lt_toLex.mpr (.inl h)

theorem placesLeft_reconnect_lt {intervals : List Nat} {placesLeft : Nat} (hseven : 6 < placesLeft)
    (hbound : intervals ≠ [] → 11 + 5 * intervals.length < placesLeft) :
    (DataLinkClient.reconnect intervals).placesLeft < placesLeft := by
  cases intervals with
  | nil => exact hseven
  | cons interval rest => exact hbound (List.cons_ne_nil _ _)

theorem of_packetInWork (h : writer.packetInWork = true) (isConnected : Bool) :
    writer.fails isConnected = false ∧ 1 < writer.placesLeft := by
  cases writer with
  | converting | naming | writing =>
    refine ⟨rfl, ?_⟩
    simp only [placesLeft]
    omega
  | _ => cases h

theorem returned_of_ended {isConnected : Bool} (hended : writer.ended = true)
    (hfails : writer.fails isConnected = false) : writer = .returned := by
  cases writer with
  | returned => rfl
  | threw exception => cases hfails
  | _ => cases hended

end Writer

namespace DataLinkClient

/-- The answer is not that of the last attempt to connect or the last failure in a row that the writer
does not put up with. -/
structure PutsUpWith (c : DataLinkClient) (answer : Answer) : Prop where
  connect : ∀ intervals, c.writer = .connecting intervals → answer.returnCode < 0 → intervals.tail ≠ []
  write : ∀ streamIdentifier dataLinkPacket rest,
    c.writer = .writing streamIdentifier (dataLinkPacket :: rest) → dataLinkPacket.data ≠ [] →
    answer.returnCode < 0 → c.log.consecutiveWriteFailures + 1 < 32

/-- The writer puts up with what happens in the step. -/
def Spared (c : DataLinkClient) (a : Libmseed × Event) : Prop :=
  ∀ answer, a.2 = .write answer → c.PutsUpWith answer

/-- The writer is told to stop and on its way to return. -/
structure Leaving (c : DataLinkClient) : Prop where
  cleared : c.mKeepRunning = false
  leaves : c.writer.leaves c.isConnected = true

section

variable {lib : Libmseed} {options : WriterOptions} {c c' : DataLinkClient} {answer : Answer}
  {writer : Writer} {isConnected : Bool}

theorem leaves_of_placeStep (h : PlaceStep c answer writer isConnected) (hleaving : Leaving c)
    (hputsUp : c.PutsUpWith answer) : writer.leaves isConnected = true := by
  obtain ⟨hcleared, hleaves⟩ := hleaving
  cases h with
  | entered _ hkeep => cases hcleared.symm.trans hkeep
  | connected hwriter | disconnected hwriter =>
    rw [hwriter] at hleaves
    cases hleaves
  | gaveUp hwriter hdisconnected =>
    rw [hwriter, hdisconnected] at hleaves
    cases hleaves
  | failed intervals hwriter hfailed =>
    rw [reconnect, if_neg (by simpa using hputsUp.connect intervals hwriter hfailed)]
    rfl
  | killed _ _ _ hwriter hdata hfailed hmany =>
    exact absurd (hputsUp.write _ _ _ hwriter hdata hfailed) (not_lt.mpr hmany)
  | _ => rfl

/-- A writer at any other place than these puts up with every answer. -/
theorem putsUpWith_of_ne (hconnecting : ∀ intervals, c.writer ≠ .connecting intervals)
    (hwriting : ∀ streamIdentifier dataLinkPacket rest,
      c.writer ≠ .writing streamIdentifier (dataLinkPacket :: rest)) : c.PutsUpWith answer :=
  ⟨fun _ heq => absurd heq (hconnecting _), fun _ _ _ heq => absurd heq (hwriting _ _ _)⟩

theorem fails_of_placeStep (h : PlaceStep c answer writer isConnected) (hnot : ¬ c.PutsUpWith answer) :
    writer.fails isConnected = true := by
  cases h with
  | killed => rfl
  | failed intervals hwriter =>
    by_cases hlast : intervals.tail = []
    · rw [reconnect, hlast]
      rfl
    · refine absurd ⟨?_, ?_⟩ hnot
      · intro intervals' heq _
        rw [← Writer.connecting.inj (hwriter.symm.trans heq)]
        exact hlast
      · rw [hwriter]
        nofun
  | reconnected _ hwriter hconnected =>
    refine absurd ⟨fun _ _ hfailed => absurd hfailed (not_lt.mpr hconnected), ?_⟩ hnot
    rw [hwriter]
    nofun
  | wrote _ _ _ _ hwriter hfew =>
    refine absurd ⟨?_, ?_⟩ hnot
    · rw [hwriter]
      nofun
    · intro _ dataLinkPacket rest heq
      obtain ⟨_, hpackets⟩ := Writer.writing.inj (hwriter.symm.trans heq)
      obtain ⟨rfl, _⟩ := List.cons.inj hpackets
      exact hfew
  | left hwork hwriting =>
    refine absurd (putsUpWith_of_ne ?_ hwriting) hnot
    intro intervals hconnecting
    rw [hconnecting] at hwork
    cases hwork
  | returned hwriter | entered hwriter | connected hwriter | disconnected hwriter | locked _ hwriter
  | skipped _ hwriter | waits _ hwriter | blocked _ hwriter | woke _ _ hwriter | timedOut _ _ hwriter
  | resumed hwriter | gaveUp hwriter | foundNothing hwriter | took _ hwriter | converted _ _ hwriter
  | named _ _ _ hwriter =>
    refine absurd (putsUpWith_of_ne ?_ ?_) hnot <;> rw [hwriter] <;> nofun

/-- A writer that fails throws in its next step. -/
theorem fails_of_fails (h : PlaceStep c answer writer isConnected)
    (hfails : c.writer.fails c.isConnected = true) : writer.fails isConnected = true := by
  cases h with
  | gaveUp => rfl
  | resumed hwriter hconnected =>
    rw [hwriter, hconnected] at hfails
    cases hfails
  | left hwork => cases (Writer.of_packetInWork hwork c.isConnected).1.symm.trans hfails
  | returned hwriter | entered hwriter | connected hwriter | disconnected hwriter | locked _ hwriter
  | skipped _ hwriter | waits _ hwriter | blocked _ hwriter | woke _ _ hwriter | timedOut _ _ hwriter
  | failed _ hwriter | reconnected _ hwriter | foundNothing hwriter | took _ hwriter | converted _ _ hwriter
  | named _ _ _ hwriter | wrote _ _ _ _ hwriter | killed _ _ _ hwriter =>
    rw [hwriter] at hfails
    cases hfails

/-! ### The way to the end -/

/-- Each step of a writer that is told to stop brings it nearer to its end. -/
theorem rank_of_placeStep (h : PlaceStep c answer writer isConnected) (hcleared : c.mKeepRunning = false)
    (hterminate : c.mTerminateRequested = true) : writer.rank < c.writer.rank := by
  cases h with
  | entered _ hkeep => cases hcleared.symm.trans hkeep
  | waits _ _ hclear => cases hterminate.symm.trans hclear
  | disconnected hwriter =>
    rw [hwriter]
    exact Writer.rank_lt_of_placesLeft (Writer.placesLeft_reconnect_lt (by decide) fun _ => by decide)
  | failed intervals hwriter =>
    rw [hwriter]
    refine Writer.rank_lt_of_placesLeft (Writer.placesLeft_reconnect_lt ?_ fun hmore => ?_)
    · simp only [Writer.placesLeft]
      omega
    · have hlength := List.length_pos_iff.mpr hmore
      rw [List.length_tail] at hlength ⊢
      simp only [Writer.placesLeft]
      omega
  | wrote _ _ _ _ hwriter =>
    rw [hwriter]
    exact Prod.Lex.toLex_lt_toLex.mpr (.inr ⟨rfl, Nat.lt_succ_self _⟩)
  | left hwork => exact Writer.rank_lt_of_placesLeft (Writer.of_packetInWork hwork c.isConnected).2
  | returned hwriter | connected hwriter | locked _ hwriter | skipped _ hwriter | blocked _ hwriter
  | woke _ _ hwriter | timedOut _ _ hwriter | reconnected _ hwriter | resumed hwriter | gaveUp hwriter
  | foundNothing hwriter | took _ hwriter | converted _ _ hwriter | named _ _ _ hwriter
  | killed _ _ _ hwriter =>
    rw [hwriter]
    apply Writer.rank_lt_of_placesLeft
    simp only [Writer.placesLeft]
    omega

/-! ### Runs after the stop -/

theorem started_of_leaving (h : Leaving c) : c.writer ≠ .notStarted := by
  intro hnotStarted
  have hleaves := h.leaves
  rw [hnotStarted] at hleaves
  cases hleaves

theorem started_of_fails (h : c.writer.fails c.isConnected = true) : c.writer ≠ .notStarted := by
  intro hnotStarted
  rw [hnotStarted] at h
  cases h

/-- Other threads neither help nor hinder the writer. -/
theorem AsideStep.place (h : AsideStep c c') :
    c'.writer.leaves c'.isConnected = c.writer.leaves c.isConnected ∧
      c'.writer.fails c'.isConnected = c.writer.fails c.isConnected ∧ c'.writer.rank = c.writer.rank ∧
      c'.writer.ended = c.writer.ended := by
  rw [h.isConnected]
  rcases h.writer with heq | ⟨intervals, notified, heq, heq'⟩
  · rw [heq]
    exact ⟨rfl, rfl, rfl, rfl⟩
  · rw [heq, heq']
    exact ⟨rfl, rfl, rfl, rfl⟩

theorem leaving_of_runWriter (h : c.runWriter lib options answer = some c') (hleaving : Leaving c)
    (hputsUp : c.PutsUpWith answer) : Leaving c' := by
  obtain ⟨hplace, hkeep, _⟩ := placeStep_of_runWriter h
  exact ⟨hkeep.trans hleaving.cleared, leaves_of_placeStep hplace hleaving hputsUp⟩

theorem AsideStep.leaving (h : AsideStep c c') (hleaving : Leaving c) : Leaving c' :=
  ⟨h.mKeepRunning hleaving.cleared, h.place.1.trans hleaving.leaves⟩

theorem leaving_of_next {a : Libmseed × Event} (hspared : c.Spared a) (hleaving : Leaving c)
    (h : nextWith options c a = some c') : Leaving c' := by
  rcases step_cases (started_of_leaving hleaving) h with ⟨answer, heq, hrun⟩ | ⟨_, haside⟩
  · exact leaving_of_runWriter hrun hleaving (hspared answer heq)
  · exact haside.leaving hleaving

theorem fails_of_next {a : Libmseed × Event} (hnot : ¬ c.Spared a) (hleaving : Leaving c)
    (h : nextWith options c a = some c') : c'.writer.fails c'.isConnected = true := by
  rcases step_cases (started_of_leaving hleaving) h with ⟨answer, heq, hrun⟩ | ⟨haside, _⟩
  · refine fails_of_placeStep (placeStep_of_runWriter hrun).1 fun hputsUp => hnot ?_
    intro answer' heq'
    rwa [← Event.write.inj (heq.symm.trans heq')]
  · exact absurd (fun answer heq => absurd heq (haside answer)) hnot

theorem fails_next {a : Libmseed × Event} (hfails : c.writer.fails c.isConnected = true)
    (h : nextWith options c a = some c') : c'.writer.fails c'.isConnected = true := by
  rcases step_cases (started_of_fails hfails) h with ⟨answer, _, hrun⟩ | ⟨_, haside⟩
  · exact fails_of_fails (placeStep_of_runWriter hrun).1 hfails
  · exact haside.place.2.1.trans hfails

/-- **The two ends of a run after the stop.** -/
theorem leaving_or_fails {as : List (Libmseed × Event)} (hleaving : Leaving c)
    (hrun : exec (nextWith options) c as = some c') :
    Along (nextWith options) Spared c as ∧ Leaving c' ∨
      ¬ Along (nextWith options) Spared c as ∧ c'.writer.fails c'.isConnected = true :=
  along_or_not (fun _ _ _ hspared hs hnext => leaving_of_next hspared hs hnext)
    (fun _ _ _ hnot hs hnext => fails_of_next hnot hs hnext)
    (fun _ _ _ hfails hnext => fails_next hfails hnext) hleaving hrun

theorem Leaving.returned (h : Leaving c) (hended : c.writer.ended = true) : c.writer = .returned := by
  have hleaves := h.leaves
  cases hwriter : c.writer with
  | returned => rfl
  | threw exception =>
    rw [hwriter] at hleaves
    cases hleaves
  | _ =>
    rw [hwriter] at hended
    cases hended

theorem leaving_stop (hloop : c.writer.reconnecting = true) (hcalled : c.stopping = .idle) :
    Leaving c.stop := by
  rw [stop, hcalled]
  refine ⟨rfl, ?_⟩
  dsimp only
  cases hwriter : c.writer <;> rw [hwriter] at hloop <;> first | rfl | cases hloop

/-! ### The end of the writer -/

/-- A call of `stop` has begun, and no other thread clears what it sets. -/
structure Stopped (c : DataLinkClient) : Prop where
  cleared : c.mKeepRunning = false
  started : c.writer ≠ .notStarted
  requests : c.stopping = .clearedKeepRunning ∨ c.mTerminateRequested = true

theorem Stopped.stop (h : Stopped c) : Stopped c.stop ∧ c.stop.mTerminateRequested = true := by
  have hrequested : c.stop.mTerminateRequested = true := by
    rcases h.requests with hcleared | hterminate
    · rw [DataLinkClient.stop, hcleared]
    · exact asideStep_stop.mTerminateRequested hterminate
  exact ⟨⟨asideStep_stop.mKeepRunning h.cleared, asideStep_stop.started h.started, .inr hrequested⟩,
    hrequested⟩

theorem Stopped.next {a : Libmseed × Event} (h : Stopped c) (hnext : nextWith options c a = some c') :
    Stopped c' := by
  have hstarted := started_of_next h.started hnext
  obtain ⟨lib, event⟩ := a
  cases event with
  | write answer =>
    obtain ⟨_, hkeep, hterminate, hstopping⟩ := placeStep_of_runWriter hnext
    refine ⟨hkeep.trans h.cleared, hstarted, ?_⟩
    rw [hstopping, hterminate]
    exact h.requests
  | stop =>
    obtain rfl := Option.some.inj hnext
    exact h.stop.1
  | start =>
    rw [nextWith, DataLinkClient.next, start_eq_none h.started] at hnext
    cases hnext
  | enqueue packet | produce pushSucceeds =>
    obtain ⟨queue, _, rfl⟩ := Option.map_eq_some_iff.mp hnext
    exact ⟨h.cleared, h.started, h.requests⟩

/-- Each step of the writer brings it nearer to its end, and no other step takes it farther from it. -/
theorem rank_of_next {a : Libmseed × Event} (h : Stopped c) (hterminate : c.mTerminateRequested = true)
    (hnext : nextWith options c a = some c') :
    c'.mTerminateRequested = true ∧ c'.writer.rank ≤ c.writer.rank ∧
      ((∃ answer, a.2 = .write answer) → c'.writer.rank < c.writer.rank) := by
  rcases step_cases h.started hnext with ⟨answer, heq, hrun⟩ | ⟨haside, hstep⟩
  · obtain ⟨hplace, _, hterminate', _⟩ := placeStep_of_runWriter hrun
    have hlt := rank_of_placeStep hplace h.cleared hterminate
    exact ⟨hterminate'.trans hterminate, hlt.le, fun _ => hlt⟩
  · refine ⟨hstep.mTerminateRequested hterminate, hstep.place.2.2.1.le, ?_⟩
    rintro ⟨answer, heq⟩
    exact absurd heq (haside answer)

end

/-- A run that begins with a call of `stop` while the writer is in its reconnect loop. The call goes on, and
the writer gets its turns until it ends. -/
structure StoppedRun (options : WriterOptions) (c : DataLinkClient) (states : ℕ → DataLinkClient)
    (steps : ℕ → Libmseed × Event) : Prop where
  loop : c.writer.reconnecting = true
  called : c.stopping = .idle
  first : states 0 = c.stop
  run : RunsForever (nextWith options) states steps
  goesOn : ∃ n, (steps n).2 = .stop
  turns : ∀ n, (states n).writer.ended = true ∨ ∃ m, n ≤ m ∧ ∃ answer, (steps m).2 = .write answer

namespace StoppedRun

variable {options : WriterOptions} {c : DataLinkClient} {states : ℕ → DataLinkClient}
  {steps : ℕ → Libmseed × Event}

theorem stopped (h : StoppedRun options c states steps) (n : ℕ) : (states n).Stopped := by
  refine h.run.invariant (fun _ _ _ hs hnext => hs.next hnext) ?_ (Nat.zero_le n)
  have hleaving := leaving_stop h.loop h.called
  rw [h.first]
  refine ⟨hleaving.cleared, started_of_leaving hleaving, .inl ?_⟩
  rw [stop, h.called]

/-- The writer ends in every run. -/
theorem ends (h : StoppedRun options c states steps) : ∃ n, (states n).writer.ended = true := by
  obtain ⟨n, hn⟩ := h.goesOn
  have hrequested : (states (n + 1)).mTerminateRequested = true := by
    have hstep := h.run n
    rw [nextWith, hn] at hstep
    rw [← Option.some.inj hstep]
    exact (h.stopped n).stop.2
  refine h.run.meets (I := fun c => c.Stopped ∧ c.mTerminateRequested = true) (fun c => c.writer.ended = true)
    (fun a => ∃ answer, a.2 = .write answer) (fun c => c.writer.rank) (fun _ _ _ hs hnext => ?_)
    (fun _ _ _ hs hwrite hnext => ?_) ⟨h.stopped (n + 1), hrequested⟩ fun m _ => h.turns m
  · obtain ⟨hterminate, hle, _⟩ := rank_of_next hs.1 hs.2 hnext
    exact ⟨⟨hs.1.next hnext, hterminate⟩, hle⟩
  · exact (rank_of_next hs.1 hs.2 hnext).2.2 hwrite

/-- A writer that has returned has left the loop behind. -/
theorem returned_of_le (h : StoppedRun options c states steps) {n m : ℕ} (hle : n ≤ m)
    (hreturned : (states n).writer = .returned) : (states m).writer = .returned := by
  refine h.run.invariant (I := fun c => c.writer = .returned) (fun c a c' hs hnext => ?_) hreturned hle
  rcases step_cases (by rw [hs]; nofun) hnext with ⟨answer, _, hrun⟩ | ⟨_, haside⟩
  · simp only [runWriter, hs] at hrun
    cases hrun
  · rcases haside.writer with heq | ⟨_, _, heq, _⟩
    · exact heq.trans hs
    · cases hs.symm.trans heq

/-- A writer that fails does not return. -/
theorem not_returned (h : StoppedRun options c states steps) {m : ℕ}
    (hfails : (states m).writer.fails (states m).isConnected = true) (n : ℕ) :
    (states n).writer ≠ .returned := by
  intro hreturned
  have hreturned' := h.returned_of_le (Nat.le_max_left n m) hreturned
  have hfails' := h.run.invariant (I := fun c => c.writer.fails c.isConnected = true)
    (fun _ _ _ hs hnext => fails_next hs hnext) hfails (Nat.le_max_right n m)
  rw [hreturned'] at hfails'
  cases hfails'

/-- The writer returns when no step is one too many for it, and only then. -/
theorem returns_iff (h : StoppedRun options c states steps) :
    (∃ n, (states n).writer = .returned) ↔ ∀ n, (states n).Spared (steps n) := by
  have hleaving : (states 0).Leaving := by
    rw [h.first]
    exact leaving_stop h.loop h.called
  constructor
  · rintro ⟨n, hreturned⟩ m
    rcases leaving_or_fails hleaving (h.run.exec_eq (m + 1)) with ⟨halong, _⟩ | ⟨_, hfails⟩
    · exact (h.run.along_iff _).mp halong m (Nat.lt_succ_self m)
    · exact absurd hreturned (h.not_returned hfails n)
  · intro hspared
    obtain ⟨n, hended⟩ := h.ends
    have halong := (h.run.along_iff n).mpr fun m _ => hspared m
    obtain ⟨_, hleaves⟩ := (leaving_or_fails hleaving (h.run.exec_eq n)).resolve_right
      fun hfails => hfails.1 halong
    exact ⟨n, hleaves.returned hended⟩

end StoppedRun

end DataLinkClient

/-! ### The process that stops -/

namespace Process

variable {n : Nat} {lib : Libraries} {options : ProcessOptions n} {savedState : Option Nat} {p p' : Process n}
  {client : Fin n}

/-- The writer of the client puts up with what happens in the step. -/
def Spared (client : Fin n) (p : Process n) (event : Event n) : Prop :=
  ∀ answer, event = .writer client answer → (p.dataLink client).PutsUpWith answer

/-- The main thread calls `stop` of a client while its writer is in the reconnect loop. -/
structure StopsInLoop (lib : Libraries) (options : ProcessOptions n) (savedState : Option Nat)
    (client : Fin n) (p : Process n) : Prop where
  reached : Reaches (Process.next lib options) (construct options savedState) p
  main : p.main = .stoppingWriter client
  called : (p.dataLink client).stopping = .idle
  loop : (p.dataLink client).writer.reconnecting = true

/-- What has happened before is right for the main thread to wait for the writer. -/
structure Awaited (lib : Libraries) (options : ProcessOptions n) (client : Fin n) (p : Process n) : Prop where
  flows : Flows lib options p client
  joined : Joined p client

theorem Awaited.next (h : Awaited lib options client p) {event : Event n}
    (hstep : Process.next lib options p event = some p') : Awaited lib options client p' :=
  ⟨h.flows.next hstep, h.joined.next h.flows.starting hstep⟩

theorem StopsInLoop.awaited (h : StopsInLoop lib options savedState client p) :
    Awaited lib options client p := by
  obtain ⟨as, hrun⟩ := h.reached
  exact invariant (fun _ _ _ hs hstep => hs.next hstep)
    ⟨flows_construct savedState, joined_construct savedState⟩ hrun

/-- What the step of a process does to a writer that has been started: it is a step of the writer, one
aside, or the end of the client when the writer has been waited for. -/
inductive ClientStep (lib : Libraries) (options : ProcessOptions n) (p : Process n) (client : Fin n)
    (event : Event n) : DataLinkClient → Prop
  | wrote (answer : Answer) (c : DataLinkClient) : event = .writer client answer →
      (p.dataLink client).runWriter lib (options.dataLink client) answer = some c →
      ClientStep lib options p client event c
  | aside (c : DataLinkClient) : (∀ answer, event ≠ .writer client answer) →
      (p.dataLink client).AsideStep c → ClientStep lib options p client event c
  | destroyed : (∀ answer, event ≠ .writer client answer) → p.main.writerJoined client = true →
      ClientStep lib options p client event (p.dataLink client).destroy

theorem clientStep_main {interrupted : Bool} (hstarted : (p.dataLink client).writer ≠ .notStarted)
    (h : p.mainThread lib options interrupted = some p') :
    ClientStep lib options p client (.main interrupted) (p'.dataLink client) := by
  have hsame : ClientStep lib options p client (.main interrupted) (p.dataLink client) :=
    .aside _ nofun .refl
  cases mainStep_of_mainThread h with
  | startedWriter other c _ hstart =>
    by_cases heq : client = other
    · subst heq
      rw [DataLinkClient.start_eq_none hstarted] at hstart
      cases hstart
    · show ClientStep lib options p client _ ((p.setDataLink other c).dataLink client)
      rw [setDataLink_of_ne heq]
      exact hsame
  | stoppedWriter other =>
    by_cases heq : client = other
    · subst heq
      show ClientStep lib options p client _ ((p.setDataLink client _).dataLink client)
      rw [setDataLink_self]
      exact .aside _ nofun DataLinkClient.asideStep_stop
    · show ClientStep lib options p client _ ((p.setDataLink other _).dataLink client)
      rw [setDataLink_of_ne heq]
      exact hsame
  | resetWriter other hmain =>
    by_cases heq : client = other
    · subst heq
      show ClientStep lib options p client _ ((p.setDataLink client _).dataLink client)
      rw [setDataLink_self]
      exact .destroyed nofun (by rw [hmain]; rfl)
    · show ClientStep lib options p client _ ((p.setDataLink other _).dataLink client)
      rw [setDataLink_of_ne heq]
      exact hsame
  | _ => exact hsame

theorem clientStep_of_next {event : Event n} (hstarted : (p.dataLink client).writer ≠ .notStarted)
    (h : Process.next lib options p event = some p') :
    ClientStep lib options p client event (p'.dataLink client) := by
  cases event with
  | main interrupted => exact clientStep_main hstarted h
  | seedLink answer =>
    obtain ⟨seedLink, _, ⟨_, _, _, _, _, rfl⟩ | ⟨_, _, rfl⟩⟩ := pollSEEDLink_cases h
    · exact .aside _ nofun .refl
    · exact .aside _ nofun .refl
  | callback pushSucceeds =>
    obtain ⟨mImportQueue, _, rfl⟩ := Option.map_eq_some_iff.mp h
    exact .aside _ nofun .refl
  | metrics pushSucceeds =>
    cases metricsStep_of_tabulateMetrics h with
    | handedOver _ other queue | produced _ other queue =>
      refine .aside _ nofun ?_
      exact setDataLink_related (fun _ => .refl) (DataLinkClient.asideStep_queue queue) client
    | _ => exact .aside _ nofun .refl
  | writer other answer =>
    obtain ⟨c, hc, rfl⟩ := Option.map_eq_some_iff.mp h
    by_cases heq : client = other
    · subst heq
      rw [setDataLink_self]
      exact .wrote answer c rfl hc
    · rw [setDataLink_of_ne heq]
      exact .aside _ (fun _ hevent => heq (Event.writer.inj hevent).1.symm) .refl

theorem leaving_next {event : Event n} (h : (p.dataLink client).Leaving) (hjoined : Joined p client)
    (hspared : Spared client p event) (hstep : Process.next lib options p event = some p') :
    (p'.dataLink client).Leaving := by
  have hclient := clientStep_of_next (DataLinkClient.started_of_leaving h) hstep
  generalize p'.dataLink client = c' at hclient ⊢
  cases hclient with
  | wrote answer _ heq hrun => exact DataLinkClient.leaving_of_runWriter hrun h (hspared answer heq)
  | aside _ _ haside => exact haside.leaving h
  | destroyed _ hwaited =>
    refine ⟨rfl, ?_⟩
    rw [DataLinkClient.destroy, h.returned (hjoined.dataLink hwaited)]
    rfl

/-- The writer of the client has thrown or is about to. -/
def Fails (client : Fin n) (p : Process n) : Prop :=
  (p.dataLink client).writer.fails (p.dataLink client).isConnected = true

theorem fails_of_next {event : Event n} (h : (p.dataLink client).Leaving) (hnot : ¬ Spared client p event)
    (hstep : Process.next lib options p event = some p') : Fails client p' := by
  have hclient := clientStep_of_next (DataLinkClient.started_of_leaving h) hstep
  unfold Fails
  generalize p'.dataLink client = c' at hclient ⊢
  cases hclient with
  | wrote answer _ heq hrun =>
    refine DataLinkClient.fails_of_placeStep (DataLinkClient.placeStep_of_runWriter hrun).1 fun hputsUp => ?_
    refine hnot fun answer' heq' => ?_
    obtain ⟨_, rfl⟩ := Event.writer.inj (heq.symm.trans heq')
    exact hputsUp
  | aside _ hother | destroyed hother => exact absurd (fun answer heq => absurd heq (hother answer)) hnot

theorem Fails.next {event : Event n} (h : Fails client p)
    (hstep : Process.next lib options p event = some p') : Fails client p' := by
  have hclient := clientStep_of_next (DataLinkClient.started_of_fails h) hstep
  unfold Fails at h ⊢
  generalize p'.dataLink client = c' at hclient ⊢
  cases hclient with
  | wrote _ _ _ hrun => exact DataLinkClient.fails_of_fails (DataLinkClient.placeStep_of_runWriter hrun).1 h
  | aside _ _ haside => exact haside.place.2.1.trans h
  | destroyed =>
    rw [DataLinkClient.destroy]
    cases hwriter : (p.dataLink client).writer <;> rw [hwriter] at h <;> first | rfl | cases h

/-- The two ends of a run of the process after the stop. -/
theorem StopsInLoop.leaving_or_fails (h : StopsInLoop lib options savedState client p) {interrupted : Bool}
    {events : List (Event n)}
    (hrun : exec (Process.next lib options) p (.main interrupted :: events) = some p') :
    (Along (Process.next lib options) (Spared client) p (.main interrupted :: events) ∧
        (p'.dataLink client).Leaving ∧ Joined p' client) ∨
      ¬ Along (Process.next lib options) (Spared client) p (.main interrupted :: events) ∧
        Fails client p' := by
  obtain ⟨mid, hmid, hrest⟩ := exec_cons_eq_some.mp hrun
  have hstopped : (mid.dataLink client).Leaving := by
    change p.mainThread lib options interrupted = some mid at hmid
    simp only [mainThread, h.main, client.isLt, dif_pos] at hmid
    rw [← Option.some.inj hmid]
    show ((p.setDataLink client (p.dataLink client).stop).dataLink client).Leaving
    rw [setDataLink_self]
    exact DataLinkClient.leaving_stop h.loop h.called
  have hends := along_or_not (P := Spared client) (D := Fails client)
    (I := fun p => (p.dataLink client).Leaving ∧ Awaited lib options client p)
    (fun _ _ _ hs h hstep => ⟨leaving_next h.1 h.2.joined hs hstep, h.2.next hstep⟩)
    (fun _ _ _ hnot h hstep => fails_of_next h.1 hnot hstep) (fun _ _ _ hfails hstep => hfails.next hstep)
    ⟨hstopped, h.awaited.next hmid⟩ hrest
  have hmain : Spared client p (.main interrupted) := nofun
  rw [along_cons hmid, and_iff_right hmain]
  exact hends.imp_left fun hend => ⟨hend.1, hend.2.1, hend.2.2.joined⟩

/-- The exception of a call on a future is that of its worker. -/
theorem thrown_of_futureCalls {call : FutureCall n} (h : call ∈ p.futureCalls) :
    call.thrown = [] ∨ call.thrown = (p.job call.worker).thrown := by
  have hcheck {worker : Worker n} (h : call ∈ p.checkCalls worker) :
      call.thrown = [] ∨ call.thrown = (p.job call.worker).thrown := by
    unfold checkCalls at h
    rcases List.mem_cons.mp h with rfl | hget
    · exact .inl rfl
    · split at hget
      · rw [List.mem_singleton.mp hget]
        exact .inr rfl
      · cases hget
  have hstop {worker : Worker n} (h : call ∈ p.stopCalls worker) :
      call.thrown = [] ∨ call.thrown = (p.job call.worker).thrown := by
    unfold stopCalls at h
    split at h
    · rw [List.mem_singleton.mp h]
      exact .inr rfl
    · cases h
  unfold futureCalls at h
  split at h
  · exact hcheck h
  · split at h
    · exact hcheck h
    · cases h
  · exact hstop h
  · split at h
    · exact hstop h
    · cases h
  · cases h

theorem no_call_thrown (h : (p.dataLink client).Leaving) {call : FutureCall n} (hcall : call ∈ p.futureCalls)
    (hworker : call.worker = .dataLink client) : call.thrown = [] := by
  rcases thrown_of_futureCalls hcall with hnone | hthrown
  · exact hnone
  · rw [hthrown, hworker]
    have hleaves := h.leaves
    show (p.dataLink client).writer.job.thrown = []
    cases hwriter : (p.dataLink client).writer with
    | threw exception =>
      rw [hwriter] at hleaves
      cases hleaves
    | _ => rfl

/-- **No error is seen** of a writer that is stopped in its reconnect loop, as long as it puts up with what
happens: its future has no exception. When it has been waited for, it has returned or something was too much
for it. -/
theorem StopsInLoop.seesNoError (h : StopsInLoop lib options savedState client p) {interrupted : Bool}
    {events : List (Event n)}
    (hrun : exec (Process.next lib options) p (.main interrupted :: events) = some p') :
    (Along (Process.next lib options) (Spared client) p (.main interrupted :: events) →
        ∀ call ∈ p'.futureCalls, call.worker = .dataLink client → call.thrown = []) ∧
      (p'.main.writerJoined client = true →
        ((p'.dataLink client).writer = .returned ↔
          Along (Process.next lib options) (Spared client) p (.main interrupted :: events))) := by
  rcases h.leaving_or_fails hrun with ⟨halong, hleaving, hjoined⟩ | ⟨hnot, hfails⟩
  · refine ⟨fun _ call hcall hworker => no_call_thrown hleaving hcall hworker, fun hwaited => ?_⟩
    exact iff_of_true (hleaving.returned (hjoined.dataLink hwaited)) halong
  · refine ⟨fun halong => absurd halong hnot, fun _ => iff_of_false (fun hreturned => ?_) hnot⟩
    rw [Fails, hreturned] at hfails
    cases hfails

end Process

/-- **A requested stop is not reported as a failure** exactly when, after it, the last attempt to connect
that remains does not fail and the writes that follow a new connection do not fail once too often. -/
theorem requestedStop_returns_iff (writer : WriterOptions) {n : Nat} (lib : Libraries)
    (options : ProcessOptions n) (savedState : Option Nat) :
    (∀ (c : DataLinkClient) (states : ℕ → DataLinkClient) (steps : ℕ → Libmseed × DataLinkClient.Event),
        DataLinkClient.StoppedRun writer c states steps →
          ((∃ n, (states n).writer = .returned) ↔ ∀ n, (states n).Spared (steps n))) ∧
      ∀ (client : Fin n) (p p' : Process n) (interrupted : Bool) (events : List (Process.Event n)),
        Process.StopsInLoop lib options savedState client p →
        exec (Process.next lib options) p (.main interrupted :: events) = some p' →
          (Along (Process.next lib options) (Process.Spared client) p (.main interrupted :: events) →
              ∀ call ∈ p'.futureCalls, call.worker = .dataLink client → call.thrown = []) ∧
            (p'.main.writerJoined client = true →
              ((p'.dataLink client).writer = .returned ↔
                Along (Process.next lib options) (Process.Spared client) p
                  (.main interrupted :: events))) :=
  ⟨fun _ _ _ h => h.returns_iff, fun _ _ _ _ _ h hrun => h.seesNoError hrun⟩

/-! ### A link that goes down -/

namespace DataLinkClient

variable {options : WriterOptions} {c c' : DataLinkClient}

theorem ended_of_next {a : Libmseed × Event} (hended : c.writer.ended = true)
    (h : nextWith options c a = some c') : c'.writer.ended = true := by
  have hstarted : c.writer ≠ .notStarted := by
    intro hnotStarted
    rw [hnotStarted] at hended
    cases hended
  rcases step_cases hstarted h with ⟨answer, _, hrun⟩ | ⟨_, haside⟩
  · have hrunning := (writeStep_frame (writeStep_of_runWriter hrun)).1
    cases hended.symm.trans hrunning
  · exact haside.place.2.2.2.trans hended

/-- A run in which the writer ends goes on for ever with further calls of `stop`. -/
theorem exists_stoppedRun {lib : Libmseed} {answer : Answer} {as : List (Libmseed × Event)}
    (hloop : c.writer.reconnecting = true) (hcalled : c.stopping = .idle)
    (hrun : exec (nextWith options) c.stop (as ++ [(lib, .write answer)]) = some c')
    (hended : c'.writer.ended = true) :
    ∃ states steps, StoppedRun options c states steps ∧ states (as.length + 1) = c' := by
  obtain ⟨states, hforever, hfirst, hlast⟩ := exists_runsForever (a := (lib, Event.stop))
    (fun c => ⟨c.stop, rfl⟩) hrun
  rw [List.length_append, List.length_singleton] at hlast
  refine ⟨states, _, ⟨hloop, hcalled, hfirst, hforever, ⟨as.length + 1, ?_⟩, fun n => ?_⟩, hlast⟩
  · simp
  · rcases Nat.lt_or_ge as.length n with hafter | hbefore
    · rw [← hlast] at hended
      exact .inl (hforever.invariant (I := fun c => c.writer.ended = true)
        (fun _ _ _ hs hnext => ended_of_next hs hnext) hended hafter)
    · refine .inr ⟨as.length, hbefore, answer, ?_⟩
      simp

/-- The writer is stopped in its first wait. Then it takes these steps, and ends with a last one. -/
theorem exists_stoppedRun_known (after : List Event) (fails : Bool)
    (hend : ((exec (nextWith {}) {} (withKnown (linkGoesDown ++ [.write {}]))).bind fun c =>
      (exec (nextWith {}) c.stop (withKnown after ++ withKnown [.write {}])).map fun c' =>
        (c.stopping, c.writer.reconnecting, c'.writer.ended, c'.writer.fails c'.isConnected)) =
      some (.idle, true, true, fails)) :
    ∃ c states steps, StoppedRun {} c states steps ∧ ∃ n, (states n).writer.ended = true ∧
      (states n).writer.fails (states n).isConnected = fails := by
  obtain ⟨c, _, hafter⟩ := Option.bind_eq_some_iff.mp hend
  obtain ⟨c', hrun, heq⟩ := Option.map_eq_some_iff.mp hafter
  simp only [Prod.mk.injEq] at heq
  obtain ⟨hcalled, hloop, hended, hfails⟩ := heq
  obtain ⟨states, steps, hstopped, hlast⟩ := exists_stoppedRun hloop hcalled hrun hended
  rw [← hlast] at hended hfails
  exact ⟨c, states, steps, hstopped, _, hended, hfails⟩

/-- The writer is woken and its attempt to connect fails, or it goes to the next wait and does not wait. -/
def attemptFailsStopped : List Event := [.write {}, .write {}, .write { returnCode := -1 }]

/-- A writer that is stopped while the server is down throws. -/
theorem requestedStop_throws :
    ¬ ∀ (options : WriterOptions) (c : DataLinkClient) (states : ℕ → DataLinkClient)
      (steps : ℕ → Libmseed × Event), StoppedRun options c states steps →
        ∃ n, (states n).writer = .returned := by
  intro hclaim
  obtain ⟨c, states, steps, hrun, n, _, hfails⟩ := exists_stoppedRun_known
    ([.stop, .stop] ++ attemptFailsStopped ++ attemptFailsStopped ++ attemptFailsStopped ++
      attemptFailsStopped) true (by decide +kernel)
  obtain ⟨m, hreturned⟩ := hclaim {} c states steps hrun
  exact hrun.not_returned hfails m hreturned

end DataLinkClient

namespace Process

/-- The link of the only writer goes down at the first write, and the main thread comes to the call of its
`stop` when it has blocked. -/
def stopInLoop : List (Event 1) :=
  receiveOne ++ List.replicate 7 (.metrics true) ++ writerSteps 5 ++
    [.writer ⟨0, Nat.one_pos⟩ { returnCode := -1, linkUp := false }] ++ writerSteps 6 ++ [.main true, .main false] ++
    List.replicate 2 (.metrics true) ++ List.replicate 2 (.main false)

/-- The other threads end, and the main thread waits for them. -/
def endAll : List (Event 1) :=
  List.replicate 3 (.main false) ++ List.replicate 6 (.seedLink {}) ++ writerSteps 6 ++
    List.replicate 2 (.main false)

end Process

/-- The server is up again when the writer and when the process are stopped. -/
theorem requestedStop_returns_iff_known :
    (∃ c states steps, DataLinkClient.StoppedRun {} c states steps ∧
        ∀ n, (states n).Spared (steps n)) ∧
      ∃ p p', Process.StopsInLoop (.knowing knownRecordOnSecond knownNames) {} none (0 : Fin 1) p ∧
        exec (Process.next (.knowing knownRecordOnSecond knownNames) {}) p
          (.main false :: Process.endAll) = some p' ∧
        Along (Process.next (.knowing knownRecordOnSecond knownNames) {}) (Process.Spared 0) p
          (.main false :: Process.endAll) ∧
        ∀ call ∈ p'.futureCalls, call.worker = .dataLink 0 → call.thrown = [] := by
  obtain ⟨c, states, steps, hstopped, n, hended, hfails⟩ :=
    DataLinkClient.exists_stoppedRun_known ([.stop, .stop] ++ List.replicate 5 (.write {})) false
      (by decide +kernel)
  obtain ⟨hwriter, hprocess⟩ := requestedStop_returns_iff {} (.knowing knownRecordOnSecond knownNames)
    ({} : ProcessOptions 1) none
  refine ⟨⟨c, states, steps, hstopped,
    (hwriter c states steps hstopped).mp ⟨n, Writer.returned_of_ended hended hfails⟩⟩, ?_⟩
  have hend : ((exec (Process.next (.knowing knownRecordOnSecond knownNames) {})
      (Process.construct {} none) Process.stopInLoop).bind fun p =>
        (exec (Process.next (.knowing knownRecordOnSecond knownNames) {}) p
          (.main false :: Process.endAll)).map fun p' =>
            (p.main, (p.dataLink 0).stopping, (p.dataLink 0).writer.reconnecting,
              p'.main.writerJoined 0, (p'.dataLink 0).writer.ended,
              (p'.dataLink 0).writer.fails (p'.dataLink 0).isConnected)) =
      some (.stoppingWriter 0, .idle, true, true, true, false) := by
    decide +kernel
  obtain ⟨p, hreached, hafter⟩ := Option.bind_eq_some_iff.mp hend
  obtain ⟨p', hrun, heq⟩ := Option.map_eq_some_iff.mp hafter
  simp only [Prod.mk.injEq] at heq
  obtain ⟨hmain, hcalled, hloop, hwaited, hended', hfails'⟩ := heq
  have hstops : Process.StopsInLoop (.knowing knownRecordOnSecond knownNames) {} none (0 : Fin 1) p :=
    ⟨⟨_, hreached⟩, hmain, hcalled, hloop⟩
  obtain ⟨hnone, hreturned⟩ := hprocess _ _ _ _ _ hstops hrun
  have halong := (hreturned hwaited).mp (Writer.returned_of_ended hended' hfails')
  exact ⟨p, p', hstops, hrun, halong, hnone halong⟩

end USEEDLinkToRingServer
