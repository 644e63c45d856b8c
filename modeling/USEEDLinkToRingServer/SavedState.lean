import USEEDLinkToRingServer.Library.Journal
import USEEDLinkToRingServer.PollingLoop
import USEEDLinkToRingServer.PacketFlow
import USEEDLinkToRingServer.ThreadLifecycle

/-!
# What is lost when the process is killed

The process drives the SEEDLink client through its four calls only. The client keeps a journal of the payloads
whose packets it gives to the callback, and the state file is the mark in it. A process that is killed at any
time leaves a mark behind which every packet was given to the callback.
-/

namespace USEEDLinkToRingServer

open Machine

namespace SEEDLinkClient

/-- The state was saved since the client was constructed. -/
def hasSaved (c : SEEDLinkClient) : Bool := decide (0 < c.loopSaves) || !c.connected

/-- The payloads and their packets, with the state that was saved. -/
def toJournal (c : SEEDLinkClient) : Journal (PayloadFormat × Bytes) Packet where
  taken := c.collected
  handedOver := c.offered
  pending := c.poller.remaining
  mark := if c.hasSaved then c.savedState else none

variable {lib : Libraries} {options : SEEDLinkOptions} {c c' : SEEDLinkClient}

/-- Control moves and no packet is given to the callback. -/
theorem reaches_moved {before poller : Poller} (hpoller : c.poller = before)
    (hsame : poller.remaining = before.remaining) :
    Reaches (Journal.next (unpacked lib)) c.toJournal (toJournal { c with poller }) := by
  have heq : toJournal { c with poller } = c.toJournal := by
    unfold toJournal hasSaved
    rw [hpoller, hsame]
  rw [heq]
  exact .refl _

/-- The state is saved and the counter starts again, or the counter goes up. -/
theorem countPayload_cases (hsaves : lib.SavesState) (huse : options.mUseStateFile = true) (c : SEEDLinkClient) :
    c.countPayload lib options =
        { c with
          savedState := some c.collected.length
          updateStateFile := 1
          loopSaves := c.loopSaves + 1 } ∨
      c.countPayload lib options = { c with updateStateFile := c.updateStateFile + 1 } := by
  rw [countPayload, if_pos huse]
  dsimp only
  split
  · rw [saveState, hsaves]
    exact .inl rfl
  · exact .inr rfl

theorem reaches_counted (hsaves : lib.SavesState) (huse : options.mUseStateFile = true)
    (hpoller : c.poller = .updatingStateFile) :
    Reaches (Journal.next (unpacked lib)) c.toJournal
      (toJournal { c.countPayload lib options with poller := .testing }) := by
  have hpending : c.poller.remaining = [] := by rw [hpoller]; rfl
  rcases countPayload_cases hsaves huse c with heq | heq <;> rw [heq]
  · refine Reaches.step (.refl _) (a := .save) ?_
    rw [Journal.next_save hpending]
    simp [toJournal, hasSaved, Poller.remaining, hpoller]
  · have hsame : toJournal { c with updateStateFile := c.updateStateFile + 1, poller := .testing } =
        c.toJournal := by
      simp [toJournal, hasSaved, Poller.remaining, hpoller]
    rw [hsame]
    exact .refl _

theorem reaches_poll (hsaves : lib.SavesState) (huse : options.mUseStateFile = true) {answer : PollAnswer}
    (h : c.packetToCallback lib options answer = some c') :
    Reaches (Journal.next (unpacked lib)) c.toJournal c'.toJournal := by
  cases loopStep_of_packetToCallback h with
  | collected payloadFormat payload _ hpoller _ hcollect =>
    obtain ⟨poller, rfl, hremaining, _⟩ := collect_eq_some hcollect
    have hpending : c.toJournal.pending = [] := by
      show c.poller.remaining = []
      rw [hpoller]
      rfl
    refine Reaches.step (.refl _) (a := .take (payloadFormat, payload)) ?_
    rw [Journal.next_take hpending, ← hremaining]
    rfl
  | offered packet rest hpoller =>
    refine Reaches.step (.refl _) (a := .handOver) ?_
    have hpending : c.toJournal.pending = packet :: rest := by
      show c.poller.remaining = packet :: rest
      rw [hpoller]
      rfl
    rw [Journal.next_handOver hpending]
    rfl
  | counted hpoller => exact reaches_counted hsaves huse hpoller
  | purged hpoller _ =>
    refine Reaches.step (.refl _) (a := .forget) ?_
    simp [Journal.next, toJournal, Poller.remaining, hpoller]
  | recovered hpoller | notRecovered _ hpoller | entered hpoller | stopped hpoller | terminated hpoller
  | collectedNothing hpoller | offeredAll hpoller | calledBack _ hpoller | kept hpoller
  | notPurged _ hpoller | endedEarly _ hpoller | returned hpoller =>
    exact reaches_moved hpoller rfl

theorem remaining_of_ended {poller : Poller} (h : poller.ended = true) : poller.remaining = [] := by
  cases poller <;> first | rfl | cases h

/-- The destructor leaves everything but the connection and the state file. -/
theorem destroy_cases (hsaves : lib.SavesState) (huse : options.mUseStateFile = true)
    (h : c.destroy lib options = some c') :
    c.poller.ended = true ∧
      (c' = { c.stop with savedState := some c.collected.length, connected := false } ∨
        c.connected = false ∧ c' = c.stop) := by
  rw [destroy] at h
  split at h
  · next hended =>
    obtain rfl := Option.some.inj h
    refine ⟨hended, ?_⟩
    cases hconnected : c.connected with
    | true =>
      rw [disconnect, if_pos (show c.stop.connected = true from hconnected), if_pos huse, saveState, hsaves]
      exact .inl rfl
    | false =>
      rw [disconnect, if_neg (by simp [stop, hconnected])]
      exact .inr ⟨rfl, rfl⟩
  · cases h

theorem reaches_destroy (hsaves : lib.SavesState) (huse : options.mUseStateFile = true)
    (h : c.destroy lib options = some c') :
    Reaches (Journal.next (unpacked lib)) c.toJournal c'.toJournal := by
  obtain ⟨hended, rfl | ⟨_, rfl⟩⟩ := destroy_cases hsaves huse h
  · refine Reaches.step (.refl _) (a := .save) ?_
    rw [Journal.next_save (remaining_of_ended hended)]
    simp [toJournal, hasSaved, stop]
  · exact .refl _

/-- The client keeps a journal, if saves succeed. -/
theorem refines_journal (hsaves : lib.SavesState) (huse : options.mUseStateFile = true) :
    Refines (next lib options) (Journal.next (unpacked lib)) toJournal fun _ => True := by
  intro c event c' _ h
  cases event with
  | start =>
    obtain ⟨_, hnotStarted, rfl⟩ := start_eq_some.mp h
    exact reaches_moved (c := { c with mKeepRunning := true, updateStateFile := 1 }) hnotStarted rfl
  | poll answer => exact reaches_poll hsaves huse h
  | stop =>
    obtain rfl := Option.some.inj h
    exact .refl _
  | destroy => exact reaches_destroy hsaves huse h

/-! ### How old the saved state is -/

/-- The state file was purged at the end of the loop, and the destructor has not saved the state again. -/
structure Purged (options : SEEDLinkOptions) (c : SEEDLinkClient) : Prop where
  deletes : options.mDeleteStateFileOnStop = true
  pastLoop : c.poller.pastLoop = true
  connected : c.connected = true
  savedState : c.savedState = none

/-- When the state was saved. -/
structure SavedAt (options : SEEDLinkOptions) (interval : Nat) (initial : Option Nat) (c : SEEDLinkClient) :
    Prop where
  counting : c.Counting interval
  unsaved : c.hasSaved = false → c.savedState = initial ∨ c.Purged options
  inLoop : c.connected = true → 0 < c.loopSaves → c.Purged options ∨ ∃ k, c.savedState = some k ∧
    k ≤ c.collected.length ∧ (c.collected.take k).countP (·.1.isMSEED) = c.loopSaves * (interval + 1)
  atEnd : c.connected = false → c.savedState = some c.collected.length

/-- What moves control, and at most takes a payload, leaves the saved state where it is. -/
theorem SavedAt.of_collected {interval : Nat} {initial : Option Nat} (h : SavedAt options interval initial c)
    (hconnected : c.connected = true) (hcounting : c'.Counting interval) (hconnected' : c'.connected = c.connected)
    (hsaves : c'.loopSaves = c.loopSaves) (hsaved : c'.savedState = c.savedState)
    (hcollected : c.collected <+: c'.collected)
    (hpast : c.poller.pastLoop = true → c'.poller.pastLoop = true) : SavedAt options interval initial c' := by
  have hpurged (hbefore : c.Purged options) : c'.Purged options := {
    deletes := hbefore.deletes
    pastLoop := hpast hbefore.pastLoop
    connected := hconnected'.trans hconnected
    savedState := hsaved.trans hbefore.savedState }
  refine ⟨hcounting, ?_, ?_, ?_⟩
  · rw [hasSaved, hconnected', hsaves, hsaved]
    intro hunsaved
    exact (h.unsaved hunsaved).imp_right hpurged
  · rw [hconnected', hsaves, hsaved]
    intro hconn hpos
    refine (h.inLoop hconn hpos).imp hpurged ?_
    rintro ⟨k, hk, hle, hcount⟩
    have htake : c'.collected.take k = c.collected.take k := by
      obtain ⟨more, hmore⟩ := hcollected
      rw [← hmore, List.take_append_of_le_length hle]
    refine ⟨k, hk, hle.trans hcollected.length_le, ?_⟩
    rw [htake]
    exact hcount
  · intro hdisconnected
    cases (hconnected'.trans hconnected).symm.trans hdisconnected

/-- A save from the loop comes at a multiple of `interval + 1` payloads. -/
theorem SavedAt.counted {interval : Nat} {initial : Option Nat} (h : SavedAt options interval initial c)
    (hsaves : lib.SavesState) (huse : options.mUseStateFile = true) (hconnected : c.connected = true)
    (hpoller : c.poller = .updatingStateFile)
    (hcounting : Counting interval { c.countPayload lib options with poller := .testing }) :
    SavedAt options interval initial { c.countPayload lib options with poller := .testing } := by
  rcases countPayload_cases hsaves huse c with heq | heq <;> rw [heq] at hcounting ⊢
  · obtain ⟨count, hpayloads, hcounter, hloop⟩ := hcounting.counts
    have hmod : count % (interval + 1) = 0 := by
      have hone : (1 : Int) = (1 + count % (interval + 1) : Nat) := hcounter
      omega
    have hdiv := Nat.div_add_mod count (interval + 1)
    have hall : c.payloads = count := hpayloads
    have hloop' : c.loopSaves + 1 = count / (interval + 1) := hloop
    refine ⟨hcounting, ?_, fun _ _ => .inr ⟨_, rfl, le_refl _, ?_⟩, fun hno => ?_⟩
    · simp [hasSaved]
    · show (c.collected.take c.collected.length).countP _ = (c.loopSaves + 1) * (interval + 1)
      rw [List.take_length, hloop', Nat.mul_comm]
      exact hall.trans (by omega)
    · cases hconnected.symm.trans hno
  · refine h.of_collected hconnected hcounting rfl rfl rfl (List.prefix_refl _) ?_
    rw [hpoller]
    nofun

theorem SavedAt.poll {interval : Nat} {initial : Option Nat} (hsaves : lib.SavesState)
    (huse : options.mUseStateFile = true) (hinterval : options.mStateFileUpdateInterval = interval)
    (h : SavedAt options interval initial c) (hconnected : c.connected = true) {answer : PollAnswer}
    (hstep : c.packetToCallback lib options answer = some c') : SavedAt options interval initial c' := by
  have hloop : loopNext lib options c (.poll answer) = some c' := hstep
  have hcounting := h.counting.next huse hinterval hloop
  have hinside {poller : Poller} (hpoller : c.poller = poller) (hin : poller.pastLoop = false) :
      c.poller.pastLoop = true → c'.poller.pastLoop = true := by
    rw [hpoller, hin]
    nofun
  cases loopStep_of_packetToCallback hstep with
  | collected payloadFormat payload _ hpoller _ hcollect =>
    obtain ⟨poller, rfl, _⟩ := collect_eq_some hcollect
    exact h.of_collected hconnected hcounting rfl rfl rfl (List.prefix_append _ _) (hinside hpoller rfl)
  | counted hpoller => exact h.counted hsaves huse hconnected hpoller hcounting
  | purged _ hdelete =>
    have hpurged : Purged options { c with poller := .leaving, savedState := none } :=
      ⟨hdelete, rfl, hconnected, rfl⟩
    exact ⟨hcounting, fun _ => .inr hpurged, fun _ _ => .inl hpurged,
      fun hno => (by cases hconnected.symm.trans hno)⟩
  | endedEarly | returned =>
    exact h.of_collected hconnected hcounting rfl rfl rfl (List.prefix_refl _) fun _ => rfl
  | recovered hpoller | notRecovered _ hpoller | entered hpoller | stopped hpoller | terminated hpoller
  | collectedNothing hpoller | offeredAll hpoller | offered _ _ hpoller | calledBack _ hpoller | kept hpoller
  | notPurged _ hpoller =>
    exact h.of_collected hconnected hcounting rfl rfl rfl (List.prefix_refl _) (hinside hpoller rfl)

theorem SavedAt.next {interval : Nat} {initial : Option Nat} (hsaves : lib.SavesState)
    (huse : options.mUseStateFile = true) (hinterval : options.mStateFileUpdateInterval = interval)
    (h : SavedAt options interval initial c) (hended : c.connected = false → c.poller.ended = true)
    {event : Event} (hstep : next lib options c event = some c') :
    SavedAt options interval initial c' ∧ (c'.connected = false → c'.poller.ended = true) := by
  cases event with
  | start =>
    obtain ⟨hconnected, hnotStarted, rfl⟩ := start_eq_some.mp hstep
    have hloop : loopNext lib options c .start = some _ := hstep
    have hcounting := h.counting.next huse hinterval hloop
    refine ⟨h.of_collected hconnected hcounting rfl rfl rfl (List.prefix_refl _) ?_, fun hdisconnected => ?_⟩
    · rw [hnotStarted]
      nofun
    · cases hconnected.symm.trans hdisconnected
  | poll answer =>
    obtain ⟨hrunning, hsame⟩ := packetToCallback_frame hstep
    have hconnected : c.connected = true := by
      refine Bool.of_not_eq_false fun hdisconnected => ?_
      cases hrunning.symm.trans (hended hdisconnected)
    exact ⟨h.poll hsaves huse hinterval hconnected hstep,
      fun hdisconnected => (by cases (hsame.trans hconnected).symm.trans hdisconnected)⟩
  | stop =>
    obtain rfl := Option.some.inj hstep
    have hloop : loopNext lib options c (.setRunning false) = some c.stop := rfl
    have hcounting := h.counting.next huse hinterval hloop
    have hpurged (hbefore : c.Purged options) : c.stop.Purged options := ⟨hbefore.1, hbefore.2, hbefore.3, hbefore.4⟩
    exact ⟨⟨hcounting, fun hunsaved => (h.unsaved hunsaved).imp_right hpurged,
      fun hconn hpos => (h.inLoop hconn hpos).imp_left hpurged, h.atEnd⟩, hended⟩
  | destroy =>
    obtain ⟨hpoller, hcases⟩ := destroy_cases hsaves huse hstep
    obtain ⟨⟨count, hpayloads, hcounter, hloop⟩, hnotStarted⟩ := h.counting
    have hcounting : Counting interval c' := by
      rcases hcases with rfl | ⟨_, rfl⟩ <;> exact ⟨⟨count, hpayloads, hcounter, hloop⟩, hnotStarted⟩
    rcases hcases with rfl | ⟨hdisconnected, rfl⟩
    · refine ⟨⟨hcounting, ?_, nofun, fun _ => rfl⟩, fun _ => hpoller⟩
      simp [hasSaved]
    · have hconnected (hno : c.connected = true) : False := by cases hdisconnected.symm.trans hno
      refine ⟨⟨hcounting, ?_, fun hno => (hconnected hno).elim, h.atEnd⟩, hended⟩
      simp [hasSaved, stop, hdisconnected]

/-- Where the saved state is in every run of the client. -/
theorem savedAt_of_reaches {interval : Nat} (hsaves : lib.SavesState) (huse : options.mUseStateFile = true)
    (hinterval : options.mStateFileUpdateInterval = interval) {before : Option Nat}
    (h : Reaches (next lib options) (initializeClient options before) c) :
    SavedAt options interval (initializeClient options before).savedState c := by
  obtain ⟨events, hrun⟩ := h
  have hcounting : (initializeClient options before).Counting interval :=
    ⟨⟨0, rfl, by simp [initializeClient], by simp [initializeClient]⟩, fun _ => rfl⟩
  have hconnected : (initializeClient options before).connected ≠ false := Bool.false_ne_true.symm
  have hstart : SavedAt options interval (initializeClient options before).savedState
      (initializeClient options before) :=
    ⟨hcounting, fun _ => .inl rfl, fun _ hloop => absurd hloop (Nat.lt_irrefl 0),
      fun hclosed => absurd hclosed hconnected⟩
  exact (invariant (I := fun c => SavedAt options interval (initializeClient options before).savedState c ∧
    (c.connected = false → c.poller.ended = true))
    (fun _ _ _ hs hstep => hs.1.next hsaves huse hinterval hs.2 hstep)
    ⟨hstart, fun hclosed => absurd hclosed hconnected⟩ hrun).1

/-- The payloads after the last save are few. -/
theorem SavedAt.unsaved_le {interval : Nat} {initial : Option Nat} (h : SavedAt options interval initial c) :
    (c.hasSaved = false → c.payloads ≤ interval + 1) ∧
      (c.hasSaved = true → c.Purged options ∨ ∃ k, c.savedState = some k ∧
        (c.collected.drop k).countP (·.1.isMSEED) ≤ interval + 1) := by
  obtain ⟨count, hpayloads, _, hsaves⟩ := h.counting.counts
  have hmod : count % (interval + 1) ≤ interval := Nat.le_of_lt_succ (Nat.mod_lt count (Nat.succ_pos interval))
  have hdiv := Nat.div_add_mod count (interval + 1)
  have hhandling : (if c.poller.handling then 1 else 0) ≤ 1 := by split <;> omega
  rw [← hsaves] at hdiv
  refine ⟨fun hunsaved => ?_, fun hsaved => ?_⟩
  · have hnone : c.loopSaves = 0 := by
      simp only [hasSaved, Bool.or_eq_false_iff, decide_eq_false_iff_not] at hunsaved
      omega
    rw [hnone] at hdiv
    omega
  · cases hconnected : c.connected with
    | false =>
      refine .inr ⟨_, h.atEnd hconnected, ?_⟩
      rw [List.drop_length]
      exact Nat.zero_le _
    | true =>
      have hpos : 0 < c.loopSaves := by simpa [hasSaved, hconnected] using hsaved
      refine (h.inLoop hconnected hpos).imp_right ?_
      rintro ⟨k, hk, _, htaken⟩
      have hsplit : (c.collected.take k).countP (·.1.isMSEED) + (c.collected.drop k).countP (·.1.isMSEED) =
          c.payloads := by
        rw [← List.countP_append, List.take_append_drop]
        rfl
      rw [htaken, Nat.mul_comm] at hsplit
      exact ⟨k, hk, by omega⟩

end SEEDLinkClient

namespace Process

variable {n : Nat} {lib : Libraries} {options : ProcessOptions n} {p p' : Process n}

/-- The process drives the SEEDLink client only through its calls. -/
theorem refines_seedLinkClient (lib : Libraries) (options : ProcessOptions n) (anyClient : Fin n) :
    Refines (Process.next lib options) (SEEDLinkClient.next lib options.seedLink) Process.seedLink
      fun p => Joined p anyClient := by
  intro p event p' hjoined hstep
  cases event with
  | main interrupted =>
    cases mainStep_of_mainThread hstep with
    | startedSEEDLink seedLink _ hstart => exact Reaches.step (a := .start) (.refl _) hstart
    | stoppedSEEDLink => exact Reaches.step (a := .stop) (.refl _) rfl
    | resetSEEDLink hmain =>
      refine Reaches.step (a := .destroy) (.refl _) ?_
      rw [SEEDLinkClient.next, SEEDLinkClient.destroy, if_pos (hjoined.seedLink (by rw [hmain]; rfl))]
    | _ => exact .refl _
  | callback pushSucceeds =>
    obtain ⟨mImportQueue, _, rfl⟩ := Option.map_eq_some_iff.mp hstep
    exact .refl _
  | writer client answer =>
    obtain ⟨c, _, rfl⟩ := Option.map_eq_some_iff.mp hstep
    exact .refl _
  | metrics pushSucceeds => cases metricsStep_of_tabulateMetrics hstep <;> exact .refl _
  | seedLink answer =>
    obtain ⟨seedLink, hpoll, hcases⟩ := pollSEEDLink_cases hstep
    have hreaches : Reaches (SEEDLinkClient.next lib options.seedLink) p.seedLink seedLink :=
      Reaches.step (a := .poll answer) (.refl _) hpoll
    rcases hcases with ⟨_, _, _, _, _, rfl⟩ | ⟨_, _, rfl⟩ <;> exact hreaches

theorem reaches_seedLink (anyClient : Fin n) {savedState : Option Nat} {events : List (Event n)}
    (hrun : exec (Process.next lib options) (construct options savedState) events = some p) :
    Reaches (SEEDLinkClient.next lib options.seedLink) (.initializeClient options.seedLink savedState)
      p.seedLink := by
  have hawaited : Reaches (SEEDLinkClient.next lib options.seedLink) (construct options savedState).seedLink
      p.seedLink ∧ Flows lib options p anyClient ∧ Joined p anyClient := by
    refine invariant (I := fun p => Reaches (SEEDLinkClient.next lib options.seedLink)
      (construct options savedState).seedLink p.seedLink ∧ Flows lib options p anyClient ∧ Joined p anyClient)
      ?_ ⟨.refl _, flows_construct savedState, joined_construct savedState⟩ hrun
    rintro q event q' ⟨hreaches, hflows, hjoined⟩ hstep
    exact ⟨hreaches.trans (refines_seedLinkClient lib options anyClient q event q' hjoined hstep),
      hflows.next hstep, hjoined.next hflows.starting hstep⟩
  exact hawaited.1

/-- **What a kill loses.** Suppose that saves succeed and the process is killed at any time. As long as nothing was
saved, the state file is as the client found it, and there were at most `interval + 1` data payloads. After a save
there is a state file, the packets of all payloads that it covers have been handed to the import queue, and at most
`interval + 1` data payloads are not covered. In both cases the file may instead be gone, only if it is to be deleted
on stop, and from the purge at the end of the polling loop to the destructor's save. -/
theorem savedState_behind (lib : Libraries) (hsaves : lib.SavesState) (options : ProcessOptions n) (hwriters : 0 < n)
    (interval : Nat) (hinterval : options.seedLink.mStateFileUpdateInterval = interval)
    (huse : options.seedLink.mUseStateFile = true) (savedState : Option Nat) (events : List (Event n))
    (p : Process n) (hrun : exec (Process.next lib options) (construct options savedState) events = some p) :
    (p.seedLink.hasSaved = false →
        (p.seedLink.savedState = (construct options savedState).seedLink.savedState ∨
          p.seedLink.Purged options.seedLink) ∧
        p.seedLink.payloads ≤ interval + 1) ∧
      (p.seedLink.hasSaved = true → p.seedLink.Purged options.seedLink ∨
        ∃ k, p.seedLink.savedState = some k ∧ k ≤ p.seedLink.collected.length ∧
          (p.seedLink.collected.take k).flatMap (unpacked lib) <+: p.mImportQueue.handedIn ∧
          (p.seedLink.collected.drop k).countP (·.1.isMSEED) ≤ interval + 1) := by
  have hreaches := reaches_seedLink ⟨0, hwriters⟩ hrun
  have hsavedAt := SEEDLinkClient.savedAt_of_reaches hsaves huse hinterval hreaches
  obtain ⟨hunsaved, hfew⟩ := hsavedAt.unsaved_le
  refine ⟨fun hnone => ⟨hsavedAt.unsaved hnone, hunsaved hnone⟩, fun hsaved => (hfew hsaved).imp_right ?_⟩
  rintro ⟨k, hk, hrest⟩
  obtain ⟨as, has⟩ := hreaches
  have hjournal :=
    (SEEDLinkClient.refines_journal hsaves huse).reaches (fun _ _ _ _ _ => trivial) trivial has
  have hempty : SEEDLinkClient.toJournal (.initializeClient options.seedLink savedState) = {} := rfl
  rw [hempty] at hjournal
  have hsound := Journal.sound_of_reaches hjournal
  have hmark : p.seedLink.toJournal.mark = some k := by
    rw [SEEDLinkClient.toJournal, if_pos hsaved, hk]
  have hflows : Flows lib options p ⟨0, hwriters⟩ := flows_of_exec hrun
  refine ⟨k, hk, hsound.mark_le k hmark, ?_, hrest⟩
  rw [hflows.offered]
  exact hsound.covered k hmark

/-- The next payload is received. -/
def receiveNext : List (Event 1) :=
  List.replicate 4 (.seedLink {}) ++
    [.seedLink { collected := .packet .mseed3 knownRecordOnSecond.bytes }, .seedLink {}, .callback true,
      .callback true]

def savingState : ProcessOptions 1 := { seedLink := SEEDLinkClient.savingEvery 1 }

/-- The process is killed when the state covers two of three payloads. -/
theorem savedState_behind_known :
    ∃ p, exec (Process.next (.knowing knownRecordOnSecond knownNames) savingState) (construct savingState none)
        (receiveOne ++ receiveNext ++ receiveNext) = some p ∧
      p.seedLink.collected.length = 3 ∧
      (p.seedLink.collected.take 2).flatMap (unpacked (.knowing knownRecordOnSecond knownNames)) <+:
        p.mImportQueue.handedIn := by
  have hend : ((exec (Process.next (.knowing knownRecordOnSecond knownNames) savingState)
      (construct savingState none) (receiveOne ++ receiveNext ++ receiveNext)).map fun p =>
        (p.seedLink.hasSaved, p.seedLink.savedState, p.seedLink.collected.length)) = some (true, some 2, 3) := by
    decide +kernel
  obtain ⟨p, hrun, hp⟩ := Option.map_eq_some_iff.mp hend
  simp only [Prod.mk.injEq] at hp
  obtain ⟨hsaved, hmark, hcollected⟩ := hp
  have hbehind := savedState_behind _ Libraries.knowing_savesState savingState Nat.one_pos 1 rfl rfl none _ p hrun
  refine ⟨p, hrun, hcollected, ?_⟩
  rcases hbehind.2 hsaved with hpurged | ⟨k, hk, _, hcovered, _⟩
  · cases hmark.symm.trans hpurged.savedState
  · obtain rfl := Option.some.inj (hmark.symm.trans hk)
    exact hcovered

end Process

end USEEDLinkToRingServer
