import USEEDLinkToRingServer.PacketFlow

/-!
# The life of the threads

Which threads have ended when the main thread is at a given place, and which thread is in which queue's
producer. Both hold in every run.
-/

namespace USEEDLinkToRingServer

open Machine

namespace Main

/-- The main thread has joined the metrics thread. -/
def metricsJoined : Main → Bool
  | .stoppingSEEDLink | .stoppingWriter _ | .gettingSEEDLink | .gettingWriter _ | .resettingSEEDLink
  | .resettingWriter _ | .stopped => true
  | _ => false

/-- The main thread has started the SEEDLink thread. -/
def seedLinkStarted : Main → Bool
  | .starting | .startingWriter _ | .startingSEEDLink => false
  | _ => true

/-- The main thread has started the writer of a client. -/
def writerStarted (client : Nat) : Main → Bool
  | .starting => false
  | .startingWriter current => client < current
  | _ => true

/-- The main thread has waited for the SEEDLink thread. -/
def seedLinkJoined : Main → Bool
  | .gettingWriter _ | .resettingSEEDLink | .resettingWriter _ | .stopped => true
  | _ => false

/-- The main thread has waited for the writer of a client. -/
def writerJoined (client : Nat) : Main → Bool
  | .gettingWriter current => client < current
  | .resettingSEEDLink | .resettingWriter _ | .stopped => true
  | _ => false

/-- The main thread has destroyed the SEEDLink client. -/
def seedLinkReset : Main → Bool
  | .resettingWriter _ | .stopped => true
  | _ => false

variable {main : Main}

theorem seedLinkJoined_of_reset (h : main.seedLinkReset = true) : main.seedLinkJoined = true := by
  cases main <;> first | rfl | cases h

/-- Going on from one writer to the next concerns no other writer. -/
theorem writerStarted_of_succ {client other : Nat} (hne : client ≠ other)
    (h : (startingWriter (other + 1)).writerStarted client = true) :
    (startingWriter other).writerStarted client = true := by
  simp only [writerStarted, decide_eq_true_eq] at h ⊢
  omega

theorem writerJoined_of_succ {client other : Nat} (hne : client ≠ other)
    (h : (gettingWriter (other + 1)).writerJoined client = true) :
    (gettingWriter other).writerJoined client = true := by
  simp only [writerJoined, decide_eq_true_eq] at h ⊢
  omega

theorem started_of_watching (h : main.watching = true) (client : Nat) :
    main.seedLinkStarted = true ∧ main.writerStarted client = true := by
  cases main <;> first | exact ⟨rfl, rfl⟩ | cases h

theorem not_joined_of_watching (h : main.watching = true) (client : Nat) :
    main.metricsJoined = false ∧ main.seedLinkJoined = false ∧ main.writerJoined client = false := by
  cases main <;> first | exact ⟨rfl, rfl, rfl⟩ | cases h

theorem not_reset_of_watching (h : main.watching = true) : main.seedLinkReset = false := by
  cases main <;> first | rfl | cases h

end Main

namespace Process

variable {n : Nat} {lib : Libraries} {options : ProcessOptions n} {p p' : Process n} {client : Fin n}

/-! ### Threads that have ended -/

/-- What the main thread knows of the other threads. A future that has been retrieved is of a thread
that has ended. -/
structure Joined (p : Process n) (client : Fin n) : Prop where
  metrics : p.main.metricsJoined = true → p.metrics = .ended
  cleared : (p.dataLink client).mKeepRunning = false → p.metrics = .ended
  seedLinkFuture : p.seedLinkFuture = false → p.main.seedLinkStarted = true →
    p.seedLink.poller.ended = true
  dataLinkFuture : p.dataLinkFuture client = false → p.main.writerStarted client = true →
    (p.dataLink client).writer.ended = true
  seedLink : p.main.seedLinkJoined = true → p.seedLink.poller.ended = true
  dataLink : p.main.writerJoined client = true → (p.dataLink client).writer.ended = true

/-- A step of another thread than the main thread: a thread that has ended stays so. -/
theorem Joined.of_thread (h : Joined p client) (hmain : p'.main = p.main)
    (hseedLinkFuture : p'.seedLinkFuture = p.seedLinkFuture)
    (hdataLinkFuture : p'.dataLinkFuture = p.dataLinkFuture)
    (hmetrics : p.metrics = .ended → p'.metrics = .ended)
    (hpoller : p.seedLink.poller.ended = true → p'.seedLink.poller.ended = true)
    (hkeep : (p'.dataLink client).mKeepRunning = (p.dataLink client).mKeepRunning)
    (hwriter : (p.dataLink client).writer.ended = true → (p'.dataLink client).writer.ended = true) :
    Joined p' client where
  metrics := by rw [hmain]; exact hmetrics ∘ h.metrics
  cleared := by rw [hkeep]; exact hmetrics ∘ h.cleared
  seedLinkFuture := by
    rw [hmain, hseedLinkFuture]
    exact fun hfuture hstarted => hpoller (h.seedLinkFuture hfuture hstarted)
  dataLinkFuture := by
    rw [hmain, hdataLinkFuture]
    exact fun hfuture hstarted => hwriter (h.dataLinkFuture hfuture hstarted)
  seedLink := by rw [hmain]; exact hpoller ∘ h.seedLink
  dataLink := by rw [hmain]; exact hwriter ∘ h.dataLink

/-- A step of the main thread that changes nothing else the invariant is about. -/
theorem Joined.of_main (h : Joined p client) {main : Main}
    (hmetrics : main.metricsJoined = true → p.metrics = .ended)
    (hseedLinkStarted : main.seedLinkStarted = true → p.main.seedLinkStarted = true)
    (hwriterStarted : main.writerStarted client = true → p.main.writerStarted client = true)
    (hseedLink : main.seedLinkJoined = true → p.seedLink.poller.ended = true)
    (hdataLink : main.writerJoined client = true → (p.dataLink client).writer.ended = true) :
    Joined { p with main } client where
  metrics := hmetrics
  cleared := h.cleared
  seedLinkFuture hfuture hstarted := h.seedLinkFuture hfuture (hseedLinkStarted hstarted)
  dataLinkFuture hfuture hstarted := h.dataLinkFuture hfuture (hwriterStarted hstarted)
  seedLink := hseedLink
  dataLink := hdataLink

/-- A step of the main thread at the client of a writer. Once the metrics thread is joined the flag of
the writer may be cleared. -/
theorem Joined.of_control {other : Fin n} {c : DataLinkClient} (h : Joined p client)
    (hcontrol : (p.dataLink other).ControlStep c)
    (hkeep : c.mKeepRunning = false → p.metrics = .ended) :
    Joined (p.setDataLink other c) client := by
  have hwriter : (p.dataLink other).writer.ended = true → c.writer.ended = true := by
    intro hended
    rcases hcontrol.writer with heq | ⟨_, _, hrunning, _⟩
    · rw [heq, hended]
    · cases hended.symm.trans hrunning
  by_cases heq : client = other
  · subst heq
    have hself : (p.setDataLink client c).dataLink client = c := setDataLink_self client c
    refine ⟨h.metrics, ?_, h.seedLinkFuture, ?_, h.seedLink, ?_⟩ <;> rw [hself]
    · exact hkeep
    · exact fun hfuture hstarted => hwriter (h.dataLinkFuture hfuture hstarted)
    · exact hwriter ∘ h.dataLink
  · have hother : (p.setDataLink other c).dataLink client = p.dataLink client := setDataLink_of_ne heq c
    refine ⟨h.metrics, ?_, h.seedLinkFuture, ?_, h.seedLink, ?_⟩ <;> rw [hother]
    · exact h.cleared
    · exact h.dataLinkFuture
    · exact h.dataLink

/-- A future that is not valid after one was set: the one that was set, or one that was not valid before. -/
theorem dataLinkFuture_of_update {other : Fin n} {valid : Bool}
    (h : Function.update p.dataLinkFuture other valid client = false) :
    client = other ∧ valid = false ∨ client ≠ other ∧ p.dataLinkFuture client = false := by
  by_cases heq : client = other
  · subst heq
    rw [Function.update_self] at h
    exact .inl ⟨rfl, h⟩
  · rw [Function.update_of_ne heq] at h
    exact .inr ⟨heq, h⟩

/-- After one future was set to a value it has the value if it had it before, in case it is not the one. -/
theorem dataLinkFuture_update {other : Fin n} {valid : Bool}
    (h : client ≠ other → p.dataLinkFuture client = valid) :
    Function.update p.dataLinkFuture other valid client = valid := by
  by_cases heq : client = other
  · subst heq
    exact Function.update_self ..
  · rw [Function.update_of_ne heq]
    exact h heq

/-- A writer is started anew with its flag set, and its future is valid. -/
theorem Joined.startedWriter {other : Fin n} {c : DataLinkClient} (h : Joined p client)
    (hmain : p.main = .startingWriter other) (hstart : (p.dataLink other).start = some c) :
    Joined
      { p.setDataLink other c with
        dataLinkFuture := Function.update p.dataLinkFuture other true
        main := .startingWriter (other + 1) } client := by
  have hkeep : c.mKeepRunning = true := by
    unfold DataLinkClient.start at hstart
    split at hstart
    · rw [← Option.some.inj hstart]
    · cases hstart
  have hcontrol := h.of_control (DataLinkClient.controlStep_start hstart)
    (fun hcleared => nomatch hkeep.symm.trans hcleared)
  refine ⟨nofun, hcontrol.cleared, nofun, fun hfuture hstarted => ?_, nofun, nofun⟩
  rcases dataLinkFuture_of_update hfuture with ⟨_, hvalid⟩ | ⟨hne, hinvalid⟩
  · cases hvalid
  · apply hcontrol.dataLinkFuture hinvalid
    show p.main.writerStarted client = true
    rw [hmain]
    exact Main.writerStarted_of_succ (Fin.val_ne_of_ne hne) hstarted

/-- The main thread goes on from a writer when its future is taken or the writer has ended. -/
theorem Joined.gotWriter {other : Fin n} (h : Joined p client) (hmain : p.main = .gettingWriter other)
    (hended : p.dataLinkFuture other = false ∨ (p.dataLink other).writer.ended = true) :
    Joined
      { p with
        dataLinkFuture := Function.update p.dataLinkFuture other false
        main := .gettingWriter (other + 1) } client := by
  have hpoller : p.seedLink.poller.ended = true := h.seedLink (by rw [hmain]; rfl)
  have hwriter (heq : client = other) : (p.dataLink client).writer.ended = true := by
    subst heq
    exact hended.elim (fun hfuture => h.dataLinkFuture hfuture (by rw [hmain]; rfl)) id
  refine ⟨fun _ => h.metrics (by rw [hmain]; rfl), h.cleared, fun _ _ => hpoller, fun hfuture _ => ?_,
    fun _ => hpoller, fun hafter => ?_⟩
  · rcases dataLinkFuture_of_update hfuture with ⟨heq, _⟩ | ⟨_, hinvalid⟩
    · exact hwriter heq
    · exact h.dataLinkFuture hinvalid (by rw [hmain]; rfl)
  · by_cases heq : client = other
    · exact hwriter heq
    · apply h.dataLink
      rw [hmain]
      exact Main.writerJoined_of_succ (Fin.val_ne_of_ne heq) hafter

theorem Joined.mainThread {interrupted : Bool} (h : Joined p client)
    (hstarting : p.main = .starting → p.metrics = .notStarted)
    (hstep : p.mainThread lib options interrupted = some p') : Joined p' client := by
  have hjoined {main : Main} (hmain : p.main = main) (hafter : main.metricsJoined = true) :
      p.metrics = .ended := h.metrics (by rw [hmain, hafter])
  have hpoller {main : Main} (hmain : p.main = main) (hafter : main.seedLinkJoined = true) :
      p.seedLink.poller.ended = true := h.seedLink (by rw [hmain, hafter])
  cases mainStep_of_mainThread hstep with
  | started hmain =>
    have hrunning : p.metrics ≠ .ended := by
      rw [hstarting hmain]
      nofun
    exact ⟨nofun, fun hcleared => absurd (h.cleared hcleared) hrunning, nofun,
      fun _ hstarted => absurd hstarted (by simp [Main.writerStarted]), nofun, nofun⟩
  | startedWriter other c hmain hstart => exact h.startedWriter hmain hstart
  | startedWriters current hmain hlast =>
    refine h.of_main nofun nofun (fun _ => ?_) nofun nofun
    simp only [hmain, Main.writerStarted, decide_eq_true_eq]
    omega
  | startedSEEDLink seedLink hmain hstart =>
    refine ⟨nofun, h.cleared, nofun, fun hfuture _ => h.dataLinkFuture hfuture ?_, nofun, nofun⟩
    rw [hmain]
    rfl
  | watched main hfrom hto =>
    obtain ⟨hmetrics, hseedLink, hdataLink⟩ := Main.not_joined_of_watching hto client
    obtain ⟨hseedLinkStarted, hwriterStarted⟩ := Main.started_of_watching hfrom client
    exact h.of_main (fun hafter => nomatch hmetrics.symm.trans hafter) (fun _ => hseedLinkStarted)
      (fun _ => hwriterStarted) (fun hafter => nomatch hseedLink.symm.trans hafter)
      (fun hafter => nomatch hdataLink.symm.trans hafter)
  | retrievedSEEDLink main hfrom hto hended =>
    obtain ⟨hmetrics, hseedLink, hdataLink⟩ := Main.not_joined_of_watching hto client
    obtain ⟨hseedLinkStarted, hwriterStarted⟩ := Main.started_of_watching hfrom client
    exact ⟨fun hafter => (nomatch hmetrics.symm.trans hafter), h.cleared, fun _ _ => hended,
      fun hfuture _ => h.dataLinkFuture hfuture hwriterStarted,
      fun hafter => (nomatch hseedLink.symm.trans hafter),
      fun hafter => (nomatch hdataLink.symm.trans hafter)⟩
  | retrievedWriter other main hfrom hto hended =>
    obtain ⟨hmetrics, hseedLink, hdataLink⟩ := Main.not_joined_of_watching hto client
    obtain ⟨hseedLinkStarted, hwriterStarted⟩ := Main.started_of_watching hfrom client
    refine ⟨fun hafter => (nomatch hmetrics.symm.trans hafter), h.cleared,
      fun hfuture _ => h.seedLinkFuture hfuture hseedLinkStarted, fun hfuture _ => ?_,
      fun hafter => (nomatch hseedLink.symm.trans hafter),
      fun hafter => (nomatch hdataLink.symm.trans hafter)⟩
    rcases dataLinkFuture_of_update hfuture with ⟨heq, _⟩ | ⟨_, hinvalid⟩
    · rw [heq]
      exact hended
    · exact h.dataLinkFuture hinvalid hwriterStarted
  | cleared hmain =>
    exact ⟨nofun, h.cleared, fun hfuture _ => h.seedLinkFuture hfuture (by rw [hmain]; rfl),
      fun hfuture _ => h.dataLinkFuture hfuture (by rw [hmain]; rfl), nofun, nofun⟩
  | joined hmain hended =>
    exact h.of_main (fun _ => hended) (fun _ => by rw [hmain]; rfl) (fun _ => by rw [hmain]; rfl) nofun
      nofun
  | stoppedSEEDLink hmain =>
    exact ⟨fun _ => hjoined hmain rfl, h.cleared,
      fun hfuture _ => h.seedLinkFuture hfuture (by rw [hmain]; rfl),
      fun hfuture _ => h.dataLinkFuture hfuture (by rw [hmain]; rfl), nofun, nofun⟩
  | stoppedWriter other nextClient hmain =>
    have hmetrics := hjoined hmain rfl
    have hcontrol : Joined (p.setDataLink other (p.dataLink other).stop) client :=
      h.of_control DataLinkClient.controlStep_stop fun _ => hmetrics
    have hmain' : (p.setDataLink other (p.dataLink other).stop).main = .stoppingWriter other := hmain
    exact hcontrol.of_main (fun _ => hmetrics) (fun _ => by rw [hmain']; rfl)
      (fun _ => by rw [hmain']; rfl) nofun nofun
  | stoppedWriters current hmain hlast =>
    exact h.of_main (fun _ => hjoined hmain rfl) (fun _ => by rw [hmain]; rfl)
      (fun _ => by rw [hmain]; rfl) nofun nofun
  | gotSEEDLink hmain hended =>
    have hpollerEnded : p.seedLink.poller.ended = true :=
      hended.elim (fun hfuture => h.seedLinkFuture hfuture (by rw [hmain]; rfl)) id
    exact ⟨fun _ => hjoined hmain rfl, h.cleared, fun _ _ => hpollerEnded,
      fun hfuture _ => h.dataLinkFuture hfuture (by rw [hmain]; rfl), fun _ => hpollerEnded,
      fun hafter => absurd hafter (by simp [Main.writerJoined])⟩
  | gotWriter other hmain hended => exact h.gotWriter hmain hended
  | gotWriters current hmain hlast =>
    refine h.of_main (fun _ => hjoined hmain rfl) (fun _ => by rw [hmain]; rfl)
      (fun _ => by rw [hmain]; rfl) (fun _ => hpoller hmain rfl) (fun _ => h.dataLink ?_)
    simp only [hmain, Main.writerJoined, decide_eq_true_eq]
    omega
  | resetSEEDLink hmain =>
    have hsame : ((p.seedLink.stop).disconnect lib options.seedLink).poller.ended = true := by
      rw [SEEDLinkClient.disconnect_poller]
      exact hpoller hmain rfl
    exact ⟨fun _ => hjoined hmain rfl, h.cleared, fun _ _ => hsame,
      fun hfuture _ => h.dataLinkFuture hfuture (by rw [hmain]; rfl), fun _ => hsame,
      fun _ => h.dataLink (by rw [hmain]; rfl)⟩
  | resetWriter other hmain =>
    have hmetrics := hjoined hmain rfl
    have hcontrol : Joined (p.setDataLink other (p.dataLink other).destroy) client :=
      h.of_control DataLinkClient.controlStep_destroy fun _ => hmetrics
    have hmain' : (p.setDataLink other (p.dataLink other).destroy).main = .resettingWriter other := hmain
    exact hcontrol.of_main (fun _ => hmetrics) (fun _ => by rw [hmain']; rfl)
      (fun _ => by rw [hmain']; rfl) (fun _ => hpoller hmain rfl)
      (fun _ => hcontrol.dataLink (by rw [hmain']; rfl))
  | finished current hmain hlast =>
    exact h.of_main (fun _ => hjoined hmain rfl) (fun _ => by rw [hmain]; rfl)
      (fun _ => by rw [hmain]; rfl) (fun _ => hpoller hmain rfl)
      (fun _ => h.dataLink (by rw [hmain]; rfl))

/-- The flag is as before, and a writer that had ended still has. -/
def KeepsEnded (c c' : DataLinkClient) : Prop :=
  c'.mKeepRunning = c.mKeepRunning ∧ (c.writer.ended = true → c'.writer.ended = true)

theorem Joined.tabulateMetrics {pushSucceeds : Bool} (h : Joined p client)
    (hstep : p.tabulateMetrics options pushSucceeds = some p') : Joined p' client := by
  have hlocal {metrics : Metrics} (hrunning : p.metrics ≠ .ended) {queue : BoundedQueue Packet} :
      Joined { p with mImportQueue := queue, metrics } client :=
    h.of_thread rfl rfl rfl (absurd · hrunning) id rfl id
  have hqueue {metrics : Metrics} (hrunning : p.metrics ≠ .ended) {other : Fin n}
      {queue : BoundedQueue Packet} :
      Joined { p.setDataLink other { p.dataLink other with queue } with metrics } client := by
    obtain ⟨hkeep, hwriter⟩ := setDataLink_related (R := KeepsEnded) (fun _ => ⟨rfl, id⟩)
      (c := { p.dataLink other with queue }) ⟨rfl, id⟩ client
    exact h.of_thread rfl rfl rfl (absurd · hrunning) id hkeep hwriter
  cases metricsStep_of_tabulateMetrics hstep with
  | tested hmetrics | left hmetrics | foundNothing hmetrics | took _ _ hmetrics | updated _ hmetrics
  | propagated _ _ hmetrics | enqueued _ _ hmetrics =>
    exact hlocal (by rw [hmetrics]; nofun)
  | handedOver _ other _ hmetrics | produced _ other _ hmetrics =>
    exact hqueue (by rw [hmetrics]; nofun)

theorem Joined.runWriter {other : Fin n} {answer : Answer} (h : Joined p client)
    (hstep : p.runWriter lib options other answer = some p') : Joined p' client := by
  obtain ⟨c, hc, rfl⟩ := Option.map_eq_some_iff.mp hstep
  obtain ⟨hrunning, hkeep, _⟩ :=
    DataLinkClient.writeStep_frame (DataLinkClient.writeStep_of_runWriter hc)
  have hkeeps : KeepsEnded (p.dataLink other) c :=
    ⟨hkeep, fun hended => nomatch hended.symm.trans hrunning⟩
  obtain ⟨hkeep', hwriter'⟩ := setDataLink_related (fun _ => ⟨rfl, id⟩) hkeeps client
  exact h.of_thread rfl rfl rfl id id hkeep' hwriter'

theorem Joined.next (h : Joined p client) (hstarting : p.main = .starting → p.metrics = .notStarted)
    {event : Event n} (hstep : Process.next lib options p event = some p') : Joined p' client := by
  cases event with
  | main interrupted => exact h.mainThread hstarting hstep
  | metrics pushSucceeds => exact h.tabulateMetrics hstep
  | writer other answer => exact h.runWriter hstep
  | callback pushSucceeds =>
    obtain ⟨mImportQueue, _, rfl⟩ := Option.map_eq_some_iff.mp hstep
    exact h.of_thread rfl rfl rfl id id rfl id
  | seedLink answer =>
    obtain ⟨seedLink, hpoll, hcases⟩ := pollSEEDLink_cases hstep
    have hrunning := (SEEDLinkClient.packetToCallback_frame hpoll).1
    have hpoller : p.seedLink.poller.ended = true → seedLink.poller.ended = true :=
      fun hended => nomatch hended.symm.trans hrunning
    rcases hcases with ⟨_, _, _, _, _, rfl⟩ | ⟨_, _, rfl⟩ <;>
      exact h.of_thread rfl rfl rfl id hpoller rfl id

theorem joined_construct (savedState : Option Nat) : Joined (construct options savedState) client :=
  ⟨nofun, nofun, nofun, nofun, nofun, nofun⟩

/-! ### Threads in a queue -/

/-- A producer in a call is a thread in the callback or in `enqueue`. -/
structure Calling (p : Process n) (client : Fin n) : Prop where
  importing : p.mImportQueue.producer = .idle ∨ ∃ rest, p.seedLink.poller = .callingBack rest
  exporting : (p.dataLink client).queue.producer = .idle ∨ ∃ packet, p.metrics = .enqueuing packet client

theorem Calling.pollSEEDLink {answer : PollAnswer} (h : Calling p client)
    (hstep : p.pollSEEDLink lib options answer = some p') : Calling p' client := by
  obtain ⟨seedLink, hpoll, hcases⟩ := pollSEEDLink_cases hstep
  have hoffers := SEEDLinkClient.packetToCallback_offered hpoll
  rcases hcases with ⟨packet, rest, mImportQueue, hoffering, _, rfl⟩ | ⟨hidle, _, rfl⟩
  · rcases hoffers with ⟨_, rest', _, hcalling, _⟩ | ⟨hnot, _⟩
    · exact ⟨Or.inr ⟨rest', hcalling⟩, h.exporting⟩
    · exact absurd hoffering (hnot packet rest)
  · refine ⟨Or.inl ?_, h.exporting⟩
    rcases h.importing with hidle' | ⟨rest, hcalling⟩
    · exact hidle'
    · exact hidle rest hcalling

theorem Calling.tabulateMetrics {pushSucceeds : Bool} (h : Calling p client)
    (hstep : p.tabulateMetrics options pushSucceeds = some p') : Calling p' client := by
  have hidle (hnot : ∀ packet, p.metrics ≠ .enqueuing packet client) :
      (p.dataLink client).queue.producer = .idle := by
    rcases h.exporting with hidle | ⟨packet, henqueuing⟩
    · exact hidle
    · exact absurd henqueuing (hnot packet)
  cases metricsStep_of_tabulateMetrics hstep with
  | tested hmetrics | left hmetrics | foundNothing hmetrics | updated _ hmetrics
  | propagated _ _ hmetrics =>
    exact ⟨h.importing, Or.inl (hidle (by rw [hmetrics]; nofun))⟩
  | took packet mImportQueue hmetrics htake =>
    obtain ⟨_, _, rfl⟩ := BoundedQueue.take_eq_some.mp htake
    exact ⟨h.importing, Or.inl (hidle (by rw [hmetrics]; nofun))⟩
  | enqueued packet other hmetrics hother =>
    refine ⟨h.importing, Or.inl ?_⟩
    by_cases heq : client = other
    · rw [heq]
      exact hother
    · refine hidle fun packet' henqueuing => heq ?_
      exact Fin.ext (Metrics.enqueuing.inj (henqueuing.symm.trans hmetrics)).2
  | handedOver packet other queue hmetrics _ =>
    refine ⟨h.importing, ?_⟩
    by_cases heq : client = other
    · exact Or.inr ⟨packet, by rw [heq]⟩
    · have hother := setDataLink_of_ne (p := p) heq { p.dataLink other with queue }
      apply Or.inl
      dsimp only
      rw [hother]
      exact hidle (by rw [hmetrics]; nofun)
  | produced packet other queue hmetrics _ =>
    refine ⟨h.importing, ?_⟩
    by_cases heq : client = other
    · exact Or.inr ⟨packet, by rw [heq]; exact hmetrics⟩
    · rw [setDataLink_of_ne heq]
      exact h.exporting

theorem Calling.next (h : Calling p client) (hstarting : p.main = .starting → p.metrics = .notStarted)
    {event : Event n} (hstep : Process.next lib options p event = some p') : Calling p' client := by
  cases event with
  | seedLink answer => exact h.pollSEEDLink hstep
  | metrics pushSucceeds => exact h.tabulateMetrics hstep
  | callback pushSucceeds =>
    obtain ⟨mImportQueue, hproduce, rfl⟩ := Option.map_eq_some_iff.mp hstep
    refine ⟨Or.inr ?_, h.exporting⟩
    rcases h.importing with hidle | hcalling
    · simp [BoundedQueue.produce, hidle] at hproduce
    · exact hcalling
  | writer other answer =>
    obtain ⟨c, hc, rfl⟩ := Option.map_eq_some_iff.mp hstep
    obtain ⟨_, hproducer, _⟩ :=
      DataLinkClient.writeStep_queue_frame (DataLinkClient.writeStep_of_runWriter hc)
    refine ⟨h.importing, ?_⟩
    rw [setDataLink_related (R := fun c c' => c'.queue.producer = c.queue.producer) (fun _ => rfl)
      hproducer client]
    exact h.exporting
  | main interrupted =>
    have hframe := movesNothing_of_mainStep client (mainStep_of_mainThread hstep)
    constructor
    · rw [hframe.importQueue]
      rcases hframe.poller with heq | hnotStarted
      · rw [heq]
        exact h.importing
      · refine Or.inl (h.importing.resolve_right ?_)
        rintro ⟨rest, hcalling⟩
        cases hnotStarted.symm.trans hcalling
    · rw [hframe.control.queue]
      rcases hframe.metrics with heq | ⟨hmain, _⟩
      · rw [heq]
        exact h.exporting
      · refine Or.inl (h.exporting.resolve_right ?_)
        rintro ⟨packet, henqueuing⟩
        cases (hstarting hmain).symm.trans henqueuing

theorem calling_construct (savedState : Option Nat) : Calling (construct options savedState) client :=
  ⟨Or.inl rfl, Or.inl rfl⟩

/-! ### The saved state -/

/-- The SEEDLink client is connected until the main thread destroys it, and then the state that is saved
covers everything that was collected, if saves succeed. -/
structure Saved (lib : Libraries) (options : ProcessOptions n) (p : Process n) : Prop where
  connected : p.main.seedLinkReset = false → p.seedLink.connected = true
  saved : lib.SavesState → p.main.seedLinkReset = true → options.seedLink.mUseStateFile = true →
    p.seedLink.savedState = some p.seedLink.collected.length

theorem Saved.mainThread {interrupted : Bool} (h : Saved lib options p)
    (hstep : p.mainThread lib options interrupted = some p') : Saved lib options p' := by
  have hconnected {main : Main} (hmain : p.main = main) (hbefore : main.seedLinkReset = false) :
      p.seedLink.connected = true := h.connected (by rw [hmain, hbefore])
  cases mainStep_of_mainThread hstep with
  | startedSEEDLink seedLink hmain hstart =>
    obtain ⟨hconnected, _, rfl⟩ := SEEDLinkClient.start_eq_some.mp hstart
    exact ⟨fun _ => hconnected, fun _ => nofun⟩
  | watched main hfrom hto | retrievedSEEDLink main hfrom hto | retrievedWriter _ main hfrom hto =>
    exact ⟨fun _ => h.connected (Main.not_reset_of_watching hfrom),
      fun _ hreset => nomatch (Main.not_reset_of_watching hto).symm.trans hreset⟩
  | resetSEEDLink hmain =>
    exact ⟨nofun, fun hsaves _ huse =>
      SEEDLinkClient.savedState_of_disconnect hsaves (c := p.seedLink.stop) (hconnected hmain rfl) huse⟩
  | resetWriter _ hmain | finished _ hmain =>
    exact ⟨nofun, fun hsaves _ => h.saved hsaves (by rw [hmain]; rfl)⟩
  | started hmain | startedWriter _ _ hmain | startedWriters _ hmain | cleared hmain | joined hmain
  | stoppedSEEDLink hmain | stoppedWriter _ _ hmain | stoppedWriters _ hmain | gotSEEDLink hmain
  | gotWriter _ hmain | gotWriters _ hmain =>
    exact ⟨fun _ => hconnected hmain rfl, fun _ => nofun⟩

theorem Saved.next (h : Saved lib options p) (hjoined : Joined p client) {event : Event n}
    (hstep : Process.next lib options p event = some p') : Saved lib options p' := by
  cases event with
  | main interrupted => exact h.mainThread hstep
  | metrics pushSucceeds =>
    cases metricsStep_of_tabulateMetrics hstep <;> exact ⟨h.connected, h.saved⟩
  | callback pushSucceeds =>
    obtain ⟨mImportQueue, _, rfl⟩ := Option.map_eq_some_iff.mp hstep
    exact ⟨h.connected, h.saved⟩
  | writer other answer =>
    obtain ⟨c, _, rfl⟩ := Option.map_eq_some_iff.mp hstep
    exact ⟨h.connected, h.saved⟩
  | seedLink answer =>
    obtain ⟨seedLink, hpoll, hcases⟩ := pollSEEDLink_cases hstep
    obtain ⟨hrunning, hconnected⟩ := SEEDLinkClient.packetToCallback_frame hpoll
    have hnotReset : p.main.seedLinkReset = true → False := fun hreset =>
      nomatch (hjoined.seedLink (Main.seedLinkJoined_of_reset hreset)).symm.trans hrunning
    rcases hcases with ⟨_, _, _, _, _, rfl⟩ | ⟨_, _, rfl⟩ <;>
      exact ⟨fun hbefore => hconnected.trans (h.connected hbefore), fun _ hreset => (hnotReset hreset).elim⟩

theorem saved_construct (savedState : Option Nat) : Saved lib options (construct options savedState) :=
  ⟨fun _ => rfl, fun _ => nofun⟩

end Process

end USEEDLinkToRingServer
