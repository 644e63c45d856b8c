import USEEDLinkToRingServer.ThreadTurns

/-!
# What the threads have been told

The main thread launches each thread once and tells each to stop once. Where it is says which threads run and
which of them have been told.
-/

namespace USEEDLinkToRingServer

open Machine

namespace Main

/-- The main thread is in `stop`. -/
def stops : Main → Bool
  | .clearingKeepRunning | .joiningMetrics | .stoppingSEEDLink | .stoppingWriter _ | .gettingSEEDLink
  | .gettingWriter _ | .resettingSEEDLink | .resettingWriter _ | .stopped => true
  | _ => false

/-- The metrics thread has been told to stop. -/
def metricsTold : Main → Bool
  | .joiningMetrics | .stoppingSEEDLink | .stoppingWriter _ | .gettingSEEDLink | .gettingWriter _
  | .resettingSEEDLink | .resettingWriter _ | .stopped => true
  | _ => false

/-- The SEEDLink thread has been told to stop. -/
def seedLinkTold : Main → Bool
  | .stoppingWriter _ | .gettingSEEDLink | .gettingWriter _ | .resettingSEEDLink | .resettingWriter _
  | .stopped => true
  | _ => false

/-- The writer of a client has been told to stop. -/
def writerTold (client : Nat) : Main → Bool
  | .stoppingWriter current => client < current
  | .gettingSEEDLink | .gettingWriter _ | .resettingSEEDLink | .resettingWriter _ | .stopped => true
  | _ => false

theorem writerStarted_startingWriter (current client : Nat) :
    (startingWriter current).writerStarted client = decide (client < current) := rfl

theorem writerTold_stoppingWriter (current client : Nat) :
    (stoppingWriter current).writerTold client = decide (client < current) := rfl

variable {main : Main}

theorem not_told_of_watching (h : main.watching = true) (client : Nat) :
    main.metricsTold = false ∧ main.seedLinkTold = false ∧ main.writerTold client = false ∧
      main ≠ .starting ∧ main ≠ .stoppingWriter client := by
  cases main with
  | waiting | checkingSEEDLink | checkingWriter | clearingKeepRunning | undefined =>
    exact ⟨rfl, rfl, rfl, nofun, nofun⟩
  | _ => cases h

end Main

/-- Whether the writer of a client runs, and what it has been told. -/
structure DataLinkClient.Commanded (main : Main) (client : Nat) (c : DataLinkClient) : Prop where
  started : c.writer = .notStarted ↔ main.writerStarted client = false
  told : main.writerTold client = true → c.mKeepRunning = false ∧ c.mTerminateRequested = true
  idle : main ≠ .stoppingWriter client → c.stopping = .idle
  cleared : c.stopping ≠ .idle → c.mKeepRunning = false
  requested : c.stopping = .requestedTerminate → c.mTerminateRequested = true

namespace DataLinkClient

variable {main main' : Main} {client : Nat} {c c' : DataLinkClient}

theorem Commanded.of_main (h : Commanded main client c)
    (hstarted : main'.writerStarted client = main.writerStarted client)
    (htold : main'.writerTold client = true → main.writerTold client = true)
    (hidle : main ≠ .stoppingWriter client) : Commanded main' client c where
  started := by rw [hstarted, h.started]
  told := h.told ∘ htold
  idle _ := h.idle hidle
  cleared := h.cleared
  requested := h.requested

theorem Commanded.of_flagsKept (h : Commanded main client c) (hkept : Process.FlagsKept c c') :
    Commanded main client c' where
  started := hkept.started.trans h.started
  told := by
    rw [hkept.mKeepRunning, hkept.mTerminateRequested]
    exact h.told
  idle := by
    rw [hkept.stopping]
    exact h.idle
  cleared := by
    rw [hkept.stopping, hkept.mKeepRunning]
    exact h.cleared
  requested := by
    rw [hkept.stopping, hkept.mTerminateRequested]
    exact h.requested

theorem start_eq_some (h : c.start = some c') :
    c.stopping = .idle ∧
      c' = { c with mKeepRunning := true, mTerminateRequested := false, writer := .testing } := by
  unfold start at h
  split at h
  · next _ hidle => exact ⟨hidle, (Option.some.inj h).symm⟩
  · cases h

/-- One step of the call of `stop`. The call is over when nothing is left to be done. -/
theorem Commanded.stop (h : Commanded (.stoppingWriter client) client c) :
    Commanded (.stoppingWriter (if c.stop.stopping = .idle then client + 1 else client)) client c.stop := by
  have hstarted : c.stop.writer ≠ .notStarted :=
    asideStep_stop.started fun hnot => Bool.false_ne_true (h.started.mp hnot).symm
  have hlaunched {current : Nat} : c.stop.writer = .notStarted ↔
      (Main.stoppingWriter current).writerStarted client = false := iff_of_false hstarted Bool.false_ne_true.symm
  have hnotTold (htold : (Main.stoppingWriter client).writerTold client = true) : False := by
    simp [Main.writerTold_stoppingWriter] at htold
  cases hstopping : c.stopping with
  | idle =>
    have hnext : c.stop.stopping = .clearedKeepRunning := by rw [DataLinkClient.stop, hstopping]
    have hcleared : c.stop.mKeepRunning = false := by rw [DataLinkClient.stop, hstopping]
    rw [hnext, if_neg (by decide)]
    refine ⟨hlaunched, fun htold => (hnotTold htold).elim, fun hne => absurd rfl hne, fun _ => hcleared, ?_⟩
    rw [hnext]
    exact fun heq => absurd heq (by decide)
  | clearedKeepRunning =>
    have hnext : c.stop.stopping = .requestedTerminate := by rw [DataLinkClient.stop, hstopping]
    have hcleared : c.stop.mKeepRunning = false :=
      asideStep_stop.mKeepRunning (h.cleared (by rw [hstopping]; decide))
    have hrequested : c.stop.mTerminateRequested = true := by rw [DataLinkClient.stop, hstopping]
    rw [hnext, if_neg (by decide)]
    exact ⟨hlaunched, fun htold => (hnotTold htold).elim, fun hne => absurd rfl hne, fun _ => hcleared,
      fun _ => hrequested⟩
  | requestedTerminate =>
    have hnext : c.stop.stopping = .idle := by rw [DataLinkClient.stop, hstopping]
    have hcleared : c.stop.mKeepRunning = false :=
      asideStep_stop.mKeepRunning (h.cleared (by rw [hstopping]; decide))
    have hrequested : c.stop.mTerminateRequested = true :=
      asideStep_stop.mTerminateRequested (h.requested hstopping)
    rw [hnext, if_pos rfl]
    exact ⟨hlaunched, fun _ => ⟨hcleared, hrequested⟩, fun _ => hnext, fun _ => hcleared, fun _ => hrequested⟩

end DataLinkClient

namespace Process

variable {n : Nat} {lib : Libraries} {options : ProcessOptions n} {p p' : Process n}

/-- What holds of the new state of a client and of the other clients holds of every client after the update. -/
theorem setDataLink_cases {P : Fin n → DataLinkClient → Prop} {other : Fin n} {c : DataLinkClient}
    (hself : P other c) (hothers : ∀ client, client ≠ other → P client (p.dataLink client)) (client : Fin n) :
    P client ((p.setDataLink other c).dataLink client) := by
  by_cases heq : client = other
  · rw [heq, setDataLink_self]
    exact hself
  · rw [setDataLink_of_ne heq]
    exact hothers client heq

/-- Which threads run, and what they have been told. -/
structure Commanded (p : Process n) : Prop where
  defined : p.main ≠ .undefined
  metrics : p.metrics = .notStarted ↔ p.main = .starting
  metricsTold : p.main.metricsTold = true → p.mKeepRunning = false
  poller : p.seedLink.poller = .notStarted ↔ p.main.seedLinkStarted = false
  seedLinkTold : p.main.seedLinkTold = true → p.seedLink.mKeepRunning = false
  dataLink : ∀ client : Fin n, (p.dataLink client).Commanded p.main client

/-- A step of the main thread that sets no flag and launches no thread. -/
theorem Commanded.of_main (h : Commanded p) {main : Main} {seedLinkFuture : Bool}
    {dataLinkFuture : Fin n → Bool} (hdefined : main ≠ .undefined)
    (hstarting : main = .starting ↔ p.main = .starting)
    (hmetricsTold : main.metricsTold = true → p.main.metricsTold = true)
    (hseedLinkStarted : main.seedLinkStarted = p.main.seedLinkStarted)
    (hseedLinkTold : main.seedLinkTold = true → p.main.seedLinkTold = true)
    (hdataLink : ∀ client : Fin n, (p.dataLink client).Commanded main client) :
    Commanded { p with main, seedLinkFuture, dataLinkFuture } where
  defined := hdefined
  metrics := h.metrics.trans hstarting.symm
  metricsTold := h.metricsTold ∘ hmetricsTold
  poller := by rw [hseedLinkStarted, h.poller]
  seedLinkTold := h.seedLinkTold ∘ hseedLinkTold
  dataLink := hdataLink

/-- Nothing is told while the main thread watches. -/
theorem Commanded.watch (h : Commanded p) (hfrom : p.main.watching = true) {main : Main}
    {seedLinkFuture : Bool} {dataLinkFuture : Fin n → Bool} (hto : main.watching = true)
    (hdefined : main ≠ .undefined) : Commanded { p with main, seedLinkFuture, dataLinkFuture } := by
  have hstarted (client : Nat) : main.writerStarted client = p.main.writerStarted client := by
    rw [(Main.started_of_watching hto client).2, (Main.started_of_watching hfrom client).2]
  refine h.of_main hdefined ?_ (fun htold => ?_) ?_ (fun htold => ?_) fun client => ?_
  · exact iff_of_false (Main.not_told_of_watching hto 0).2.2.2.1 (Main.not_told_of_watching hfrom 0).2.2.2.1
  · cases (Main.not_told_of_watching hto 0).1.symm.trans htold
  · rw [(Main.started_of_watching hto 0).1, (Main.started_of_watching hfrom 0).1]
  · cases (Main.not_told_of_watching hto 0).2.1.symm.trans htold
  · obtain ⟨_, _, hnotTold, _⟩ := Main.not_told_of_watching hto client
    refine (h.dataLink client).of_main (hstarted client) (fun htold => ?_)
      (Main.not_told_of_watching hfrom client).2.2.2.2
    cases hnotTold.symm.trans htold

theorem Commanded.check (h : Commanded p) (hwatched : Watched p) (hstep : CheckStep p p') : Commanded p' := by
  have hwatching {main : Main} (hmain : p.main = main) (hfrom : main.watching = true) :
      p.main.watching = true := by rw [hmain, hfrom]
  cases hstep with
  | waited main hmain hto =>
    refine h.watch (hwatching hmain rfl) ?_ ?_ <;> rcases hto with rfl | rfl <;> first | rfl | nofun
  | misusedSEEDLink hmain hinvalid =>
    cases hinvalid.symm.trans (hwatched.seedLinkFuture (by rw [hmain]; rfl))
  | misusedWriter client isOkay hmain hinvalid =>
    cases hinvalid.symm.trans (hwatched.dataLinkFuture client (by rw [hmain]; rfl))
  | seedLinkRuns hmain | writerRuns _ _ hmain => exact h.watch (hwatching hmain rfl) rfl nofun
  | seedLinkEnded isOkay hmain => exact h.watch (hwatching hmain rfl) rfl nofun
  | writerEnded client isOkay main hmain _ _ hto =>
    rcases hto with hreturned | rfl
    · have hkept := hwatched.dataLinkKept (by rw [hmain]; rfl) client
      cases (hwatched.dataLinkReturned client hreturned).symm.trans hkept
    · exact h.watch (hwatching hmain rfl) rfl nofun
  | checkedAll client isOkay hmain =>
    cases isOkay <;> exact h.watch (hwatching hmain rfl) rfl nofun
  | cleared hmain =>
    have hsame := h.dataLink
    rw [hmain] at hsame
    refine ⟨nofun, ?_, fun _ => rfl, ?_, nofun, fun client => (hsame client).of_main rfl nofun nofun⟩
    · exact h.metrics.trans (iff_of_false (by rw [hmain]; nofun) nofun)
    · exact h.poller.trans (by rw [hmain]; rfl)

theorem stoppingWriter_eq {interrupted : Bool} {client : Fin n} (hmain : p.main = .stoppingWriter client)
    (h : p.mainThread lib options interrupted = some p') :
    p'.main = .stoppingWriter (if (p.dataLink client).stop.stopping = .idle then client + 1 else client) := by
  simp only [Process.mainThread, hmain, client.isLt, dif_pos, Fin.eta] at h
  rw [← Option.some.inj h]

theorem Commanded.mainThread {interrupted : Bool} (h : Commanded p) (hwatched : Watched p)
    (hstep : p.mainThread lib options interrupted = some p') : Commanded p' := by
  by_cases hwatching : p.main.watching = true
  · exact h.check hwatched (checkStep_of_mainThread hwatching hstep)
  have hsame := h.dataLink
  cases mainStep_of_mainThread hstep with
  | watched _ hfrom | retrievedSEEDLink _ hfrom | retrievedWriter _ _ hfrom =>
    exact absurd hfrom hwatching
  | cleared hmain =>
    rw [hmain] at hwatching
    exact absurd rfl hwatching
  | started hmain =>
    rw [hmain] at hsame
    refine ⟨nofun, iff_of_false nofun nofun, nofun, h.poller.trans (by rw [hmain]; rfl), nofun, fun client => ?_⟩
    refine (hsame client).of_main ?_ nofun nofun
    exact decide_eq_false (Nat.not_lt_zero client)
  | startedWriter other c hmain hstart =>
    rw [hmain] at hsame
    refine ⟨nofun, h.metrics.trans (by rw [hmain]; simp), nofun, h.poller.trans (by rw [hmain]; rfl), nofun, ?_⟩
    refine setDataLink_cases (P := fun client c => c.Commanded _ client) ?_ fun client hne => ?_
    · obtain ⟨hidle, rfl⟩ := DataLinkClient.start_eq_some hstart
      refine ⟨iff_of_false nofun ?_, nofun, fun _ => hidle, fun hcalled => absurd hidle hcalled, fun hcalled => ?_⟩
      · simp [Main.writerStarted_startingWriter]
      · cases hidle.symm.trans hcalled
    · have hval := Fin.val_ne_of_ne hne
      refine (hsame client).of_main ?_ nofun nofun
      simp only [Main.writerStarted_startingWriter, decide_eq_decide]
      omega
  | startedWriters current hmain hlast =>
    rw [hmain] at hsame
    refine h.of_main nofun (by rw [hmain]; simp) nofun (by rw [hmain]; rfl) nofun fun client => ?_
    refine (hsame client).of_main ?_ nofun nofun
    exact (decide_eq_true (client.isLt.trans_le hlast)).symm
  | startedSEEDLink seedLink hmain hstart =>
    rw [hmain] at hsame
    obtain ⟨_, hnotStarted, rfl⟩ := SEEDLinkClient.start_eq_some.mp hstart
    refine ⟨nofun, h.metrics.trans (by rw [hmain]; simp), nofun, iff_of_false nofun nofun, nofun, fun client => ?_⟩
    exact (hsame client).of_main rfl nofun nofun
  | joined hmain =>
    rw [hmain] at hsame
    exact h.of_main nofun (by rw [hmain]; simp) (fun _ => by rw [hmain]; rfl) (by rw [hmain]; rfl) nofun
      fun client => (hsame client).of_main rfl nofun nofun
  | stoppedSEEDLink hmain =>
    rw [hmain] at hsame
    refine ⟨nofun, h.metrics.trans (by rw [hmain]; simp), fun _ => h.metricsTold (by rw [hmain]; rfl),
      h.poller.trans (by rw [hmain]; rfl), fun _ => rfl, fun client => (hsame client).of_main rfl ?_ nofun⟩
    simp [Main.writerTold_stoppingWriter]
  | stoppedWriter other nextClient hmain =>
    have hnext := stoppingWriter_eq hmain hstep
    rw [hmain] at hsame
    refine ⟨nofun, h.metrics.trans (by rw [hmain]; simp), fun _ => h.metricsTold (by rw [hmain]; rfl),
      h.poller.trans (by rw [hmain]; rfl), fun _ => h.seedLinkTold (by rw [hmain]; rfl), ?_⟩
    rw [Main.stoppingWriter.inj hnext]
    refine setDataLink_cases (P := fun client c => c.Commanded _ client) (hsame other).stop fun client hne => ?_
    have hval := Fin.val_ne_of_ne hne
    refine (hsame client).of_main rfl ?_ fun heq => hval (Main.stoppingWriter.inj heq).symm
    simp only [Main.writerTold_stoppingWriter, decide_eq_true_eq]
    split <;> omega
  | stoppedWriters current hmain hlast =>
    rw [hmain] at hsame
    refine h.of_main nofun (by rw [hmain]; simp) (fun _ => by rw [hmain]; rfl) (by rw [hmain]; rfl)
      (fun _ => by rw [hmain]; rfl) fun client => ?_
    have hlt : (client : Nat) < current := client.isLt.trans_le hlast
    refine (hsame client).of_main rfl (fun _ => ?_) ?_
    · simpa [Main.writerTold_stoppingWriter] using hlt
    · simp [Nat.ne_of_gt hlt]
  | gotSEEDLink hmain | gotWriter _ hmain | gotWriters _ hmain | finished _ hmain =>
    rw [hmain] at hsame
    exact h.of_main nofun (by rw [hmain]; simp) (fun _ => by rw [hmain]; rfl) (by rw [hmain]; rfl)
      (fun _ => by rw [hmain]; rfl) fun client => (hsame client).of_main rfl (fun _ => rfl) nofun
  | resetSEEDLink hmain =>
    rw [hmain] at hsame
    refine ⟨nofun, h.metrics.trans (by rw [hmain]; simp), fun _ => h.metricsTold (by rw [hmain]; rfl), ?_,
      fun _ => ?_, fun client => (hsame client).of_main rfl (fun _ => rfl) nofun⟩
    · rw [SEEDLinkClient.disconnect_poller]
      exact h.poller.trans (by rw [hmain]; rfl)
    · exact SEEDLinkClient.disconnect_mKeepRunning
  | resetWriter other hmain =>
    rw [hmain] at hsame
    refine ⟨nofun, h.metrics.trans (by rw [hmain]; simp), fun _ => h.metricsTold (by rw [hmain]; rfl),
      h.poller.trans (by rw [hmain]; rfl), fun _ => h.seedLinkTold (by rw [hmain]; rfl), ?_⟩
    have hmoved (client : Fin n) : (p.dataLink client).Commanded (.resettingWriter (other + 1)) client :=
      (hsame client).of_main rfl (fun _ => rfl) nofun
    have hdestroyed := hmoved other
    exact setDataLink_cases (P := fun client c => c.Commanded _ client)
      ⟨hdestroyed.started, fun _ => ⟨rfl, rfl⟩, hdestroyed.idle, fun _ => rfl, fun _ => rfl⟩
      fun client _ => hmoved client

theorem Commanded.next (h : Commanded p) (hwatched : Watched p) {event : Event n}
    (hstep : Process.next lib options p event = some p') : Commanded p' := by
  by_cases hthread : event.thread = .main
  · cases event with
    | main interrupted => exact h.mainThread hwatched hstep
    | _ => cases hthread
  · have hkept := threadStep_of_next hthread hstep
    refine ⟨?_, ?_, ?_, ?_, ?_, fun client => ?_⟩
    · rw [hkept.main]
      exact h.defined
    · rw [hkept.main]
      exact hkept.metricsStarted.trans h.metrics
    · rw [hkept.main, hkept.mKeepRunning]
      exact h.metricsTold
    · rw [hkept.main]
      exact hkept.pollerStarted.trans h.poller
    · rw [hkept.main, hkept.seedLink]
      exact h.seedLinkTold
    · rw [hkept.main]
      exact (h.dataLink client).of_flagsKept (hkept.dataLink client)

theorem commanded_construct (savedState : Option Nat) : Commanded (construct options savedState) where
  defined := nofun
  metrics := iff_of_true rfl rfl
  metricsTold := nofun
  poller := iff_of_true rfl rfl
  seedLinkTold := nofun
  dataLink _ := ⟨iff_of_true rfl rfl, nofun, fun _ => rfl, fun hcalled => absurd rfl hcalled, nofun⟩

/-! ### Threads that have thrown -/

theorem threadEnded_of_threw {thread : Thread n} (h : p.threw thread = true) : p.threadEnded thread = true := by
  cases thread with
  | main | metrics => cases h
  | seedLink => exact Poller.ended_of_hasThrown h
  | writer client => exact Writer.ended_of_hasThrown h

/-- A thread that has thrown has ended for good. -/
theorem threw_next (hroom : options.HaveRoom) {client : Fin n} (hcalling : Calling p client) {thread : Thread n}
    (h : p.threw thread = true) {event : Event n} (hstep : Process.next lib options p event = some p') :
    p'.threw thread = true := by
  have hended := threadEnded_of_threw h
  by_cases hthread : event.thread = .main
  · cases event with
    | main interrupted =>
      cases thread with
      | main | metrics => cases h
      | seedLink =>
        rcases (movesNothing_of_mainStep client (mainStep_of_mainThread hstep)).poller with heq | hnotStarted
        · rwa [threw, heq]
        · rw [threadEnded, hnotStarted] at hended
          cases hended
      | writer other =>
        have hwriter := (movesNothing_of_mainStep other (mainStep_of_mainThread hstep)).control.writer
        rcases hwriter with heq | ⟨_, _, hrunning, _⟩
        · rwa [threw, heq]
        · cases hrunning.symm.trans hended
    | _ => cases hthread
  · by_cases hother : event.thread = thread
    · rw [← hother, not_threadEnded_of_next hcalling hstep] at hended
      cases hended
    · rwa [(distance_le hroom hthread hother hstep).2.2]

/-! ### Everything that holds in a run -/

structure Governed (lib : Libraries) (options : ProcessOptions n) (p : Process n) : Prop where
  commanded : Commanded p
  watched : Watched p
  joined : ∀ client, Joined p client
  calling : ∀ client, Calling p client
  saved : Saved lib options p
  /-- Only a client that is there is handed a packet. -/
  enqueuing : ∀ packet client, p.metrics = .enqueuing packet client → client < n
  /-- The check has gone wrong because the SEEDLink thread has thrown. -/
  noticed : ∀ client, p.main = .checkingWriter client false → p.threw .seedLink = true

theorem enqueuing_next (anyClient : Fin n)
    (h : ∀ packet client, p.metrics = .enqueuing packet client → client < n) {event : Event n}
    (hstep : Process.next lib options p event = some p') (packet : Packet) (client : Nat)
    (henqueuing : p'.metrics = .enqueuing packet client) : client < n := by
  cases event with
  | main interrupted =>
    rcases (movesNothing_of_mainStep anyClient (mainStep_of_mainThread hstep)).metrics with heq | ⟨_, htesting⟩
    · exact h packet client (heq.symm.trans henqueuing)
    · cases htesting.symm.trans henqueuing
  | callback pushSucceeds =>
    obtain ⟨mImportQueue, _, rfl⟩ := Option.map_eq_some_iff.mp hstep
    exact h packet client henqueuing
  | writer other answer =>
    obtain ⟨c, _, rfl⟩ := Option.map_eq_some_iff.mp hstep
    exact h packet client henqueuing
  | seedLink answer =>
    obtain ⟨seedLink, _, hcases⟩ := pollSEEDLink_cases hstep
    rcases hcases with ⟨_, _, _, _, _, rfl⟩ | ⟨_, _, rfl⟩ <;> exact h packet client henqueuing
  | metrics pushSucceeds =>
    cases metricsStep_of_tabulateMetrics hstep with
    | handedOver _ other =>
      rw [← (Metrics.enqueuing.inj henqueuing).2]
      exact other.isLt
    | produced => exact h packet client henqueuing
    | _ => cases henqueuing

/-- While it polls, the main thread has told no thread to stop, so a thread with a future that has ended has
thrown. -/
theorem Watched.threw_seedLink (h : Watched p) (hkeeps : p.main.keepsClients = true)
    (hended : p.threadEnded .seedLink = true) : p.threw .seedLink = true := by
  refine Poller.hasThrown_of_ended hended fun hreturned => ?_
  cases (h.seedLinkReturned hreturned).symm.trans (h.seedLinkKept hkeeps)

theorem Watched.threw_writer (h : Watched p) (hkeeps : p.main.keepsClients = true) {client : Fin n}
    (hended : p.threadEnded (.writer client) = true) : p.threw (.writer client) = true := by
  refine Writer.hasThrown_of_ended hended fun hreturned => ?_
  cases (h.dataLinkReturned client hreturned).symm.trans (h.dataLinkKept hkeeps client)

theorem Governed.noticed_next (h : Governed lib options p) (hroom : options.HaveRoom) (anyClient : Fin n)
    {event : Event n} (hstep : Process.next lib options p event = some p') (client : Nat)
    (hchecking : p'.main = .checkingWriter client false) : p'.threw .seedLink = true := by
  have hthrew (hbefore : p.threw .seedLink = true) : p'.threw .seedLink = true :=
    threw_next hroom (h.calling anyClient) hbefore hstep
  by_cases hthread : event.thread = .main
  · cases event with
    | main interrupted =>
      apply hthrew
      by_cases hwatching : p.main.watching = true
      · cases checkStep_of_mainThread hwatching hstep with
        | seedLinkEnded isOkay hmain _ hended => exact h.watched.threw_seedLink (by rw [hmain]; rfl) hended
        | writerRuns other isOkay hmain =>
          rw [(Main.checkingWriter.inj hchecking).2] at hmain
          exact h.noticed other hmain
        | waited main _ hto => rcases hto with rfl | rfl <;> cases hchecking
        | writerEnded other isOkay main hmain _ hended hto =>
          rcases hto with hreturned | rfl
          · have hkept := h.watched.dataLinkKept (by rw [hmain]; rfl) other
            cases (h.watched.dataLinkReturned other hreturned).symm.trans hkept
          · cases hchecking
        | checkedAll _ isOkay => cases isOkay <;> cases hchecking
        | _ => cases hchecking
      · cases mainStep_of_mainThread hstep with
        | watched _ hfrom | retrievedSEEDLink _ hfrom | retrievedWriter _ _ hfrom =>
          exact absurd hfrom hwatching
        | _ => cases hchecking
    | _ => cases hthread
  · rw [(threadStep_of_next hthread hstep).main] at hchecking
    exact hthrew (h.noticed client hchecking)

theorem Governed.next (h : Governed lib options p) (hroom : options.HaveRoom) (anyClient : Fin n) {event : Event n}
    (hstep : Process.next lib options p event = some p') : Governed lib options p' where
  commanded := h.commanded.next h.watched hstep
  watched := h.watched.next hstep
  joined client := (h.joined client).next h.commanded.metrics.mpr hstep
  calling client := (h.calling client).next h.commanded.metrics.mpr hstep
  saved := h.saved.next (h.joined anyClient) hstep
  enqueuing := enqueuing_next anyClient h.enqueuing hstep
  noticed := h.noticed_next hroom anyClient hstep

theorem governed_construct (savedState : Option Nat) : Governed lib options (construct options savedState) where
  commanded := commanded_construct savedState
  watched := watched_construct savedState
  joined _ := joined_construct savedState
  calling _ := calling_construct savedState
  saved := saved_construct savedState
  enqueuing := nofun
  noticed := nofun

end Process

end USEEDLinkToRingServer
