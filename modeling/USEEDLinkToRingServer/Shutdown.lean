import USEEDLinkToRingServer.ThreadLifecycle

/-!
# Shutdown

`stop` joins the metrics thread before it stops the SEEDLink thread, and every loop ends at the test of
its flag whatever its queue holds. What is left in a queue is never written, and the state that the
SEEDLink client saves last covers it all the same.
-/

namespace USEEDLinkToRingServer

open Machine

namespace Process

variable {n : Nat} {lib : Libraries} {options : ProcessOptions n} {p p' : Process n} {client : Fin n}

/-- The step leaves no packet behind: no loop ends while its queue holds a packet, no packet is pushed
for a metrics thread that has ended, and no packet is taken of which the packer makes nothing. -/
def LeavesNothing (lib : Libraries) (options : ProcessOptions n) (p : Process n) : Event n → Prop
  | .main _ | .seedLink _ => True
  | .callback pushSucceeds =>
    pushSucceeds = true → (p.mImportQueue.producer matches .pushing _) → ¬ (p.metrics matches .ended)
  | .metrics _ => (p.metrics matches .testing) → p.mKeepRunning = false → p.mImportQueue.items = []
  | .writer client _ =>
    (((p.dataLink client).writer matches .testing) → (p.dataLink client).mKeepRunning = false →
        (p.dataLink client).queue.items = []) ∧
      (((p.dataLink client).writer matches .dequeuing) →
        ∀ packet ∈ (p.dataLink client).queue.items.head?,
          ¬ DataLinkClient.PacksNothing lib (options.dataLink client).packing packet)

instance : ∀ event, Decidable (LeavesNothing lib options p event)
  | .main _ | .seedLink _ => instDecidableTrue
  | .callback _ | .metrics _ => instDecidableForall
  | .writer _ _ => instDecidableAnd

/-- Every packet that was accepted and not lost at a full queue has been passed to `dl_write` by the
writer, unless it could not be converted. -/
structure PassedOn (lib : Libraries) (options : ProcessOptions n) (p : Process n) (client : Fin n) :
    Prop where
  accounted : p.mImportQueue.handedIn.Perm (p.mImportQueue.lost ++
    ((p.dataLink client).queue.lost ++ (p.dataLink client).queue.obtained))
  written : (p.dataLink client).log.calls.map (·.written) =
    (p.dataLink client).queue.obtained.flatMap (DataLinkClient.writes lib (options.dataLink client))
  visible : ∀ packet ∈ (p.dataLink client).queue.obtained,
    DataLinkClient.Accepted lib (options.dataLink client) packet →
      DataLinkClient.writes lib (options.dataLink client) packet ≠ []

/-! ### Loops that end with an empty queue -/

/-- A loop that has ended has left its queue empty, and something is written of every packet taken. -/
structure Drained (lib : Libraries) (options : ProcessOptions n) (p : Process n) (client : Fin n) :
    Prop where
  imported : p.metrics = .ended → p.mImportQueue.items = []
  exported : (p.dataLink client).writer = .returned →
    p.metrics = .ended ∧ (p.dataLink client).queue.items = []
  packed : ∀ packet ∈ (p.dataLink client).queue.obtained,
    ¬ DataLinkClient.PacksNothing lib (options.dataLink client).packing packet

theorem Drained.mainThread {interrupted : Bool} (h : Drained lib options p client)
    (hstarting : p.main = .starting → p.metrics = .notStarted)
    (hstep : p.mainThread lib options interrupted = some p') : Drained lib options p' client := by
  have hframe := movesNothing_of_mainStep client (mainStep_of_mainThread hstep)
  have hended (hended : p'.metrics = .ended) : p.metrics = .ended := by
    rcases hframe.metrics with heq | ⟨_, htesting⟩
    · rw [← heq, hended]
    · cases htesting.symm.trans hended
  refine ⟨?_, fun hreturned => ?_, ?_⟩
  · rw [hframe.importQueue]
    exact h.imported ∘ hended
  · have hbefore : (p.dataLink client).writer = .returned := by
      rcases hframe.control.writer with heq | ⟨_, _, _, hrunning⟩
      · rw [← heq, hreturned]
      · rw [hreturned] at hrunning
        cases hrunning
    obtain ⟨hmetrics, hitems⟩ := h.exported hbefore
    rw [hframe.control.queue]
    refine ⟨?_, hitems⟩
    rcases hframe.metrics with heq | ⟨hmain, _⟩
    · rw [heq, hmetrics]
    · cases (hstarting hmain).symm.trans hmetrics
  · rw [hframe.control.queue]
    exact h.packed

theorem Drained.callBack {pushSucceeds : Bool} (h : Drained lib options p client)
    (hleaves : LeavesNothing lib options p (.callback pushSucceeds))
    (hstep : p.callBack options pushSucceeds = some p') : Drained lib options p' client := by
  obtain ⟨mImportQueue, hproduce, rfl⟩ := Option.map_eq_some_iff.mp hstep
  refine ⟨fun hended => ?_, h.exported, h.packed⟩
  have hitems := h.imported hended
  rcases BoundedQueue.produce_cases hproduce with ⟨hsame, _⟩ | ⟨_, _, _, _, hcons, _⟩ |
    ⟨packet, hpushing, rfl, _⟩ | ⟨_, _, _, rfl⟩
  · exact hsame.trans hitems
  · cases hitems.symm.trans hcons
  · dsimp only at hended
    simp [LeavesNothing, hpushing, hended] at hleaves
  · exact hitems

/-- A step of the metrics thread is only possible while no writer has returned. -/
theorem Drained.tabulateMetrics {pushSucceeds : Bool} (h : Drained lib options p client)
    (hleaves : LeavesNothing lib options p (.metrics pushSucceeds))
    (hstep : p.tabulateMetrics options pushSucceeds = some p') : Drained lib options p' client := by
  have hrunning {metrics : Metrics} (hmetrics : p.metrics = metrics) (hne : metrics ≠ .ended) :
      (p.dataLink client).writer ≠ .returned :=
    fun hreturned => hne (hmetrics.symm.trans (h.exported hreturned).1)
  have hqueue {other : Fin n} {queue : BoundedQueue Packet} {before metrics : Metrics}
      (hmetrics : p.metrics = before) (hbefore : before ≠ .ended) (hafter : metrics ≠ .ended)
      (hobtained : queue.obtained = (p.dataLink other).queue.obtained) :
      Drained lib options { p.setDataLink other { p.dataLink other with queue } with metrics }
        client := by
    obtain ⟨hwriter, hobtained'⟩ := setDataLink_related (p := p)
      (R := fun c c' => c'.writer = c.writer ∧ c'.queue.obtained = c.queue.obtained)
      (fun _ => ⟨rfl, rfl⟩) (c := { p.dataLink other with queue }) ⟨rfl, hobtained⟩ client
    refine ⟨fun hended => absurd hended hafter, fun hreturned => ?_, ?_⟩
    · exact absurd (hwriter.symm.trans hreturned) (hrunning hmetrics hbefore)
    · dsimp only
      rw [hobtained']
      exact h.packed
  cases metricsStep_of_tabulateMetrics hstep with
  | left hmetrics hclear =>
    have hempty : p.mImportQueue.items = [] := by simpa [LeavesNothing, hmetrics, hclear] using hleaves
    exact ⟨fun _ => hempty,
      fun hreturned => absurd hreturned (hrunning hmetrics nofun), h.packed⟩
  | tested hmetrics | foundNothing hmetrics | took _ _ hmetrics | updated _ hmetrics
  | propagated _ _ hmetrics | enqueued _ _ hmetrics =>
    exact ⟨nofun, fun hreturned => absurd hreturned (hrunning hmetrics nofun), h.packed⟩
  | handedOver packet other queue hmetrics hcall =>
    obtain ⟨_, rfl⟩ := BoundedQueue.call_eq_some.mp hcall
    exact hqueue hmetrics nofun nofun rfl
  | produced packet other queue hmetrics hproduce =>
    have hne : p.metrics ≠ .ended := by
      rw [hmetrics]
      nofun
    exact hqueue hmetrics nofun hne (BoundedQueue.produce_frame hproduce).2

theorem Drained.runWriter {other : Fin n} {answer : Answer} (h : Drained lib options p client)
    (hjoined : Joined p client) (hleaves : LeavesNothing lib options p (.writer other answer))
    (hstep : p.runWriter lib options other answer = some p') : Drained lib options p' client := by
  obtain ⟨c, hc, rfl⟩ := Option.map_eq_some_iff.mp hstep
  by_cases heq : client = other
  · subst heq
    have hwrite := DataLinkClient.writeStep_of_runWriter hc
    refine ⟨h.imported, ?_, ?_⟩ <;> rw [setDataLink_self]
    · intro hreturned
      obtain ⟨htesting, hclear, hqueue⟩ := (DataLinkClient.writeStep_frame hwrite).2.2 hreturned
      have hempty : (p.dataLink client).queue.items = [] := by
        simpa [LeavesNothing, htesting, hclear] using hleaves
      rw [hqueue]
      exact ⟨hjoined.cleared hclear, hempty⟩
    · rcases DataLinkClient.writeStep_queue hwrite with hqueue | ⟨packet, hdequeuing, htake⟩
      · rw [hqueue]
        exact h.packed
      · obtain ⟨rest, hitems, hqueue⟩ := BoundedQueue.take_eq_some.mp htake
        have hpacked : ¬ DataLinkClient.PacksNothing lib (options.dataLink client).packing packet := by
          simpa [LeavesNothing, hdequeuing, hitems] using hleaves
        rw [hqueue]
        intro taken hmem
        rcases List.mem_append.mp hmem with hearlier | hlast
        · exact h.packed taken hearlier
        · rw [List.mem_singleton.mp hlast]
          exact hpacked
  · refine ⟨h.imported, ?_, ?_⟩ <;> rw [setDataLink_of_ne heq]
    · exact h.exported
    · exact h.packed

theorem Drained.next (h : Drained lib options p client) (hjoined : Joined p client)
    (hstarting : p.main = .starting → p.metrics = .notStarted) {event : Event n}
    (hleaves : LeavesNothing lib options p event)
    (hstep : Process.next lib options p event = some p') : Drained lib options p' client := by
  cases event with
  | main interrupted => exact h.mainThread hstarting hstep
  | callback pushSucceeds => exact h.callBack hleaves hstep
  | metrics pushSucceeds => exact h.tabulateMetrics hleaves hstep
  | writer other answer => exact h.runWriter hjoined hleaves hstep
  | seedLink answer =>
    obtain ⟨seedLink, _, hcases⟩ := pollSEEDLink_cases hstep
    rcases hcases with ⟨_, _, _, _, hcall, rfl⟩ | ⟨_, _, rfl⟩
    · obtain ⟨_, rfl⟩ := BoundedQueue.call_eq_some.mp hcall
      exact ⟨h.imported, h.exported, h.packed⟩
    · exact ⟨h.imported, h.exported, h.packed⟩

/-! ### Whole runs -/

/-- Everything that holds in a run that leaves nothing behind. -/
structure Settled (lib : Libraries) (options : ProcessOptions n) (p : Process n) (client : Fin n) :
    Prop where
  flows : Flows lib options p client
  joined : Joined p client
  calling : Calling p client
  saved : Saved lib options p
  drained : Drained lib options p client

theorem settled_of_exec {savedState : Option Nat} {as : List (Event n)}
    (hrun : exec (Process.next lib options) (construct options savedState) as = some p)
    (hleaves : Along (Process.next lib options) (LeavesNothing lib options)
      (construct options savedState) as) :
    Settled lib options p client := by
  refine invariant_along (I := fun p => Settled lib options p client)
    (fun q event q' hleaves h hstep => ?_) ?_ hleaves hrun
  · exact {
      flows := h.flows.next hstep
      joined := h.joined.next h.flows.starting hstep
      calling := h.calling.next h.flows.starting hstep
      saved := h.saved.next h.joined hstep
      drained := h.drained.next h.joined h.flows.starting hleaves hstep }
  · exact {
      flows := flows_construct savedState
      joined := joined_construct savedState
      calling := calling_construct savedState
      saved := saved_construct savedState
      drained := ⟨nofun, nofun, nofun⟩ }

/-- When `stop` is done nothing is left in a queue. -/
theorem Settled.passedOn (h : Settled lib options p client) (hstopped : p.main = .stopped)
    (hnotFailed : ∀ exception, (p.dataLink client).writer ≠ .threw exception) :
    PassedOn lib options p client := by
  have hmetrics : p.metrics = .ended := h.joined.metrics (by rw [hstopped]; rfl)
  have hpoller : p.seedLink.poller.ended = true := h.joined.seedLink (by rw [hstopped]; rfl)
  have hreturned : (p.dataLink client).writer = .returned := by
    have hended := h.joined.dataLink (by rw [hstopped]; rfl)
    cases hwriter : (p.dataLink client).writer with
    | returned => rfl
    | threw exception => exact absurd hwriter (hnotFailed exception)
    | _ =>
      rw [hwriter] at hended
      cases hended
  have himporting : p.mImportQueue.inHand = [] := by
    refine BoundedQueue.inHand_eq_nil.mpr (h.calling.importing.resolve_right ?_)
    rintro ⟨rest, hcalling⟩
    rw [hcalling] at hpoller
    cases hpoller
  have hexporting : (p.dataLink client).queue.inHand = [] := by
    refine BoundedQueue.inHand_eq_nil.mpr (h.calling.exporting.resolve_right ?_)
    rintro ⟨packet, henqueuing⟩
    cases hmetrics.symm.trans henqueuing
  have himported := (LossyFifo.ordered_accounted_of_reaches h.flows.imported).2
  have hexported := (LossyFifo.ordered_accounted_of_reaches h.flows.exported).2
  simp only [LossyFifo.Accounted, BoundedQueue.toFifo, himporting, h.drained.imported hmetrics,
    List.append_nil] at himported
  simp only [LossyFifo.Accounted, BoundedQueue.toFifo, hexporting, (h.drained.exported hreturned).2,
    List.append_nil] at hexported
  have hforwarded : p.mImportQueue.obtained = (p.dataLink client).queue.handedIn := by
    rw [h.flows.forwarded, hmetrics]
    exact List.append_nil _
  obtain ⟨pending, hrelays⟩ := h.flows.relays
  refine ⟨?_, hrelays.returned hreturned, fun packet hmem haccepted hnothing => ?_⟩
  · rw [hforwarded] at himported
    exact (himported.trans List.perm_append_comm).trans
      ((hexported.trans List.perm_append_comm).append_left _)
  · exact h.drained.packed packet hmem (DataLinkClient.packsNothing_iff.mpr ⟨haccepted, hnothing⟩)

/-- **Clean shutdown.** In every run to the end of `stop` in which no step leaves a packet behind, the
last saved state covers everything that was collected, if saves succeed, and every writer that has not failed has passed
on every packet that was accepted. -/
theorem stop_passesOn (lib : Libraries) (options : ProcessOptions n) (savedState : Option Nat)
    (as : List (Event n)) (p : Process n)
    (hrun : exec (Process.next lib options) (construct options savedState) as = some p)
    (hleaves : Along (Process.next lib options) (LeavesNothing lib options)
      (construct options savedState) as)
    (hstopped : p.main = .stopped) (client : Fin n)
    (hnotFailed : ∀ exception, (p.dataLink client).writer ≠ .threw exception) :
    (lib.SavesState → options.seedLink.mUseStateFile = true →
        p.seedLink.savedState = some p.seedLink.collected.length) ∧
      PassedOn lib options p client := by
  have hsettled : Settled lib options p client := settled_of_exec hrun hleaves
  have hreset : p.main.seedLinkReset = true := by
    rw [hstopped]
    rfl
  exact ⟨fun hsaves => hsettled.saved.saved hsaves hreset, hsettled.passedOn hstopped hnotFailed⟩

/-- The main thread stops a process with one writer, while the other threads take as many steps as they
need to end. -/
def stopAll (metrics writer : Nat) : List (Event 1) :=
  [.main true, .main false] ++ List.replicate metrics (.metrics true) ++
    List.replicate 6 (.main false) ++ List.replicate 6 (.seedLink {}) ++ writerSteps writer ++
    List.replicate 6 (.main false)

def keepingState : ProcessOptions 1 := { seedLink := { stateFile := some "state" } }

/-- Once the known record is forwarded the process can be stopped. -/
theorem stop_passesOn_known :
    ∃ p, exec (Process.next (.knowing knownRecordOnSecond knownNames) keepingState)
        (construct keepingState none) (forwardOne ++ stopAll 2 2) = some p ∧
      p.seedLink.savedState = some p.seedLink.collected.length ∧
      PassedOn (.knowing knownRecordOnSecond knownNames) keepingState p 0 := by
  have hend : ((exec (Process.next (.knowing knownRecordOnSecond knownNames) keepingState)
      (construct keepingState none) (forwardOne ++ stopAll 2 2)).map
        fun p => (p.main, (p.dataLink 0).writer matches .threw _)) = some (.stopped, false) := by
    decide +kernel
  obtain ⟨p, hrun, hp⟩ := Option.map_eq_some_iff.mp hend
  obtain ⟨hstopped, hwriter⟩ := Prod.mk.inj hp
  have hleaves : Along (Process.next (.knowing knownRecordOnSecond knownNames) keepingState)
      (LeavesNothing (.knowing knownRecordOnSecond knownNames) keepingState) (construct keepingState none)
      (forwardOne ++ stopAll 2 2) := by decide +kernel
  have hpassed := stop_passesOn _ keepingState none _ p hrun hleaves hstopped 0
    (fun exception hthrew => by simp [hthrew] at hwriter)
  exact ⟨p, hrun, hpassed.1 Libraries.knowing_savesState rfl, hpassed.2⟩

/-- A record that is received just before the metrics thread ends is never written. -/
theorem stop_leavesPacket :
    ¬ ∀ (n : Nat) (lib : Libraries), lib.SavesState → ∀ (options : ProcessOptions n)
      (savedState : Option Nat) (as : List (Event n)) (p : Process n), options.seedLink.mUseStateFile = true →
      options.seedLink.mDeleteStateFileOnStop = false →
      exec (Process.next lib options) (construct options savedState) as = some p → p.main = .stopped →
      ∀ client, (∀ exception, (p.dataLink client).writer ≠ .threw exception) →
        PassedOn lib options p client := by
  intro hclaim
  have hend : ((exec (Process.next (.knowing knownRecordOnSecond knownNames) keepingState)
      (construct keepingState none) (receiveOne ++ stopAll 1 1)).map
        fun p => (p.main, (p.dataLink 0).writer matches .threw _, p.mImportQueue.handedIn.length,
          p.mImportQueue.lost.length + (p.dataLink 0).queue.lost.length,
          (p.dataLink 0).queue.obtained.length)) = some (.stopped, false, 1, 0, 0) := by
    decide +kernel
  obtain ⟨p, hrun, hp⟩ := Option.map_eq_some_iff.mp hend
  simp only [Prod.mk.injEq] at hp
  obtain ⟨hstopped, hwriter, hhandedIn, hlost, hobtained⟩ := hp
  have hpassed := hclaim 1 _ Libraries.knowing_savesState keepingState none _ p rfl rfl hrun hstopped 0
    (fun exception hthrew => by simp [hthrew] at hwriter)
  have hlength := hpassed.accounted.length_eq
  simp only [List.length_append] at hlength
  omega

end Process

end USEEDLinkToRingServer
