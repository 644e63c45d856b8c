import USEEDLinkToRingServer.Library.AListSum
import USEEDLinkToRingServer.Library.Machine
import USEEDLinkToRingServer.MetricsConservation
import USEEDLinkToRingServer.PacketClasses

/-!
# The activity summary

The main thread prints now and then how many packets were received since the last report. It takes the
number from the maps the telemetry reads, which the metrics thread fills when a tabulation is due, and only
if metrics are exported. The two threads take steps in any order.

Of the metrics thread this is the part that counts. The packets it dequeues are given by the environment.
-/

namespace USEEDLinkToRingServer

open Machine

/-! ### The two threads -/

/-- The options that the summary depends on; the interval is in minutes. -/
structure SummaryOptions where
  exportMetrics : Bool := false
  printSummaryInterval : Int := 15

/-- Where the loop of `tabulateMetrics` is, with the streams it has still to tabulate. -/
inductive Tabulator
  | testing
  | tabulating (left : List Str)
  | dequeuing
  | ended
deriving DecidableEq, Repr

/-- Where a call of `printSummary` is, with the keys it has still to look up and the sum so far. -/
inductive Summarizer
  | watching
  | takingKeys
  | summing (keys : List Str) (result : Int)
deriving DecidableEq, Repr

structure Report where
  received : Int
  written : Int
deriving DecidableEq, Repr

structure ActivitySummary where
  metrics : MetricsStore
  tabulator : Tabulator := .testing
  summarizer : Summarizer := .watching
  mLastReport : Int
  mReceivedLastReport : Int := 0
  mWrittenLastReport : Int := 0
  reports : List Report := []
  /-- The packets dequeued so far, but those whose update threw. -/
  processed : Nat := 0
  /-- When a tabulation was last due, whether or not metrics are exported. -/
  lastDue : Int
  /-- The packets processed by then. -/
  processedWhenDue : Nat := 0
  /-- The same at the last report. -/
  processedAtReport : Nat := 0

inductive SummaryEvent
  /-- The test of the loop, and the time the tabulation reads. -/
  | testKeepRunning (keepRunning : Bool) (now : Int)
  | tabulate
  | dequeue (arrival : Option Arrival)
  /-- The time is in seconds. -/
  | printSummary (now : Int)
  | takeKeys
  | lookUp
  | report (nWritten : Int)

namespace ActivitySummary

section

variable (options : SummaryOptions) (s : ActivitySummary)

/-- A tabulation is due. Without exported metrics none is made, and the schedule goes on without it. -/
def due (now : Int) : Bool :=
  if options.exportMetrics then s.metrics.due now
  else now > s.lastDue + seconds s.metrics.map.mSampleInterval

def noteDue (now : Int) : ActivitySummary :=
  if s.due options now then { s with lastDue := now, processedWhenDue := s.processed } else s

/-- A dequeued packet is counted, and goes on to the writers. -/
def receive (arrival : Arrival) : ActivitySummary :=
  if options.exportMetrics then
    match s.metrics.update arrival.packet arrival.now arrival.later with
    | (metrics, .ok ()) => { s with metrics, processed := s.processed + 1, tabulator := .testing }
    | (metrics, .error _) => { s with metrics, tabulator := .testing }
  else { s with processed := s.processed + 1, tabulator := .testing }

/-- One step of `tabulateMetrics`. -/
def tabulateMetrics : SummaryEvent → Option ActivitySummary
  | .testKeepRunning keepRunning now =>
    if s.tabulator = .testing then
      if !keepRunning then some { s with tabulator := .ended }
      else
        let noted := s.noteDue options now
        if options.exportMetrics && s.metrics.due now then
          some
            { noted with
              metrics := s.metrics.setSampleTime now
              tabulator := .tabulating s.metrics.map.mMetrics.keysInOrder }
        else some { noted with tabulator := .dequeuing }
    else none
  | .tabulate =>
    match s.tabulator with
    | .tabulating (name :: left) =>
      some { s with metrics := s.metrics.tabulateStream name, tabulator := .tabulating left }
    | .tabulating [] => some { s with tabulator := .dequeuing }
    | _ => none
  | .dequeue arrival =>
    if s.tabulator = .dequeuing then
      match arrival with
      | none => some { s with tabulator := .testing }
      | some arrival => some (s.receive options arrival)
    else none
  | _ => none

/-- A call of `printSummary` at this time goes on to report. -/
def reportDue (now : Int) : Bool :=
  0 < options.printSummaryInterval && s.mLastReport + options.printSummaryInterval * 60 ≤ now

/-- One step of `printSummary` and of the sum over the exported totals that it takes. -/
def printSummary : SummaryEvent → Option ActivitySummary
  | .printSummary now =>
    if s.summarizer = .watching then
      if s.reportDue options now then some { s with mLastReport := now, summarizer := .takingKeys }
      else some s
    else none
  | .takeKeys =>
    if s.summarizer = .takingKeys then
      some { s with summarizer := .summing s.metrics.observables.mObservableTotalPacketsReceived.keys 0 }
    else none
  | .lookUp =>
    match s.summarizer with
    | .summing (key :: keys) result =>
      match s.metrics.observables.mObservableTotalPacketsReceived.get key with
      | some value => some { s with summarizer := .summing keys (result + value) }
      | none => some { s with summarizer := .summing keys result }
    | _ => none
  | .report nWritten =>
    match s.summarizer with
    | .summing [] nReceived =>
      some
        { s with
          summarizer := .watching
          reports := s.reports ++ [⟨nReceived - s.mReceivedLastReport, nWritten - s.mWrittenLastReport⟩]
          mReceivedLastReport := nReceived
          mWrittenLastReport := nWritten
          processedAtReport := s.processedWhenDue }
    | _ => none
  | _ => none

end

/-- A step of the metrics thread or of the main thread. -/
def next (options : SummaryOptions) (s : ActivitySummary) (e : SummaryEvent) : Option ActivitySummary :=
  match e with
  | .testKeepRunning _ _ | .tabulate | .dequeue _ => s.tabulateMetrics options e
  | _ => s.printSummary options e

/-- The threads when they start; the clock readings are in microseconds and in seconds. -/
def start (started startedSeconds : Int) : ActivitySummary where
  metrics := { map := { mLastSampleTime := started } }
  mLastReport := startedSeconds
  lastDue := started

/-- The received counts of all reports make up the packets processed when a tabulation was last due before
the last report. -/
def Truthful (s : ActivitySummary) : Prop :=
  (s.reports.map (·.received)).sum = s.processedAtReport

end ActivitySummary

/-! ### Sums over the streams -/

namespace MetricsStore

variable {s : MetricsStore} {name : Str}

/-- All that was exported as received. -/
def exportedTotal (s : MetricsStore) : Int :=
  AListSum.total id s.observables.mObservableTotalPacketsReceived.mMap

/-- What the streams have counted since they were tabulated. -/
def runningTotal (s : MetricsStore) : Int := AListSum.total (·.running .total) s.map.mMetrics

/-- The running total of one stream, zero if there is none. -/
def runningOf (s : MetricsStore) (name : Str) : Int :=
  AListSum.value (·.running .total) s.map.mMetrics name

theorem count_eq_value (m : ObservableMap) (key : Str) : m.count key = AListSum.value id m.mMap key := by
  rw [ObservableMap.count, ObservableMap.get, AListSum.value, Option.map_id, id]

/-- The sum over the keys is the sum over the map. -/
theorem sum_exported (s : MetricsStore) :
    (s.observables.mObservableTotalPacketsReceived.keys.map (s.exported .total)).sum = s.exportedTotal := by
  have hvalue : s.exported .total =
      AListSum.value id s.observables.mObservableTotalPacketsReceived.mMap :=
    funext fun key => count_eq_value _ key
  rw [hvalue]
  exact AListSum.sum_eq_total (List.perm_insertionSort _ _)

theorem total_addOrAssign (m : ObservableMap) (key : Str) (value : Int) :
    AListSum.total id (m.addOrAssign key value).mMap = AListSum.total id m.mMap + value := by
  have hinsert (v : Int) : AListSum.total id (m.mMap.insert key v) + (m.mMap.lookup key).getD 0 =
      AListSum.total id m.mMap + v := by
    simpa [AListSum.value] using AListSum.total_insert (f := id) m.mMap key v
  unfold ObservableMap.addOrAssign
  cases hheld : m.mMap.lookup key with
  | none =>
    have h := hinsert value
    rw [hheld] at h
    simpa using h
  | some held =>
    have h := hinsert (held + value)
    rw [hheld, Option.getD_some] at h
    show AListSum.total id (m.mMap.insert key (held + value)) = _
    omega

theorem runningOf_of_some {m : StreamMetrics} (h : s.stream name = some m) :
    s.runningOf name = m.running .total := by
  rw [runningOf, AListSum.value]
  rw [stream] at h
  rw [h]
  rfl

theorem runningOf_of_none (h : s.stream name = none) : s.runningOf name = 0 := by
  rw [runningOf, AListSum.value]
  rw [stream] at h
  rw [h]
  rfl

/-- The tabulation of a stream moves its running total to the exported totals and touches no other
stream. -/
theorem tabulateStream_totals (s : MetricsStore) (name : Str) :
    (s.tabulateStream name).exportedTotal = s.exportedTotal + s.runningOf name ∧
      (s.tabulateStream name).runningTotal + s.runningOf name = s.runningTotal ∧
      ∀ name', name' ≠ name → (s.tabulateStream name).runningOf name' = s.runningOf name' := by
  cases hm : s.stream name with
  | none =>
    rw [tabulateStream_of_none hm, runningOf_of_none hm]
    exact ⟨(Int.add_zero _).symm, Int.add_zero _, fun _ _ => rfl⟩
  | some m =>
    obtain ⟨_, _, _, _, hcounter⟩ := tabulateStream_of_some hm
    have hmap : (s.tabulateStream name).map.mMetrics = s.map.mMetrics.insert name
        (m.tabulateAndResetMetrics s.map.mSampleInterval s.observables).1 := by
      rw [tabulateStream, hm]
      rfl
    refine ⟨?_, ?_, fun name' hname => ?_⟩
    · have htotal : (s.tabulateStream name).observables.mObservableTotalPacketsReceived =
          s.observables.mObservableTotalPacketsReceived.addOrAssign m.mMetricsKey (m.running .total) :=
        hcounter .total
      rw [exportedTotal, htotal, total_addOrAssign, runningOf_of_some hm]
      rfl
    · have hinsert := AListSum.total_insert (f := fun m : StreamMetrics => m.running .total) s.map.mMetrics
        name (m.tabulateAndResetMetrics s.map.mSampleInterval s.observables).1
      rw [StreamMetrics.tabulate_running, ← hmap] at hinsert
      exact hinsert.trans (Int.add_zero _)
    · rw [runningOf, hmap, AListSum.value_insert, if_neg hname]
      rfl

/-- The tabulation of a stream that has counted nothing changes nothing that was exported. -/
theorem count_tabulateStream_of_zero (h : s.runningOf name = 0) (key : Str) :
    (s.tabulateStream name).exported .total key = s.exported .total key := by
  cases hm : s.stream name with
  | none => rw [tabulateStream_of_none hm]
  | some m =>
    rw [exported_tabulateStream hm, ← runningOf_of_some hm, h]
    simp

/-- An update that returns adds one to the running totals, and none changes what was exported. -/
theorem update_totals (s : MetricsStore) (packet : Packet) (now later : Int) :
    (s.update packet now later).1.observables.counter .total = s.observables.counter .total ∧
      (s.update packet now later).1.runningTotal =
        s.runningTotal + if (s.update packet now later).2 = .ok () then 1 else 0 := by
  have hcases := update_cases s packet now later
  generalize s.update packet now later = result at hcases ⊢
  cases hcases with
  | failed o e hcounter =>
    refine ⟨hcounter .total, ?_⟩
    rw [if_neg nofun]
    exact (Int.add_zero _).symm
  | counted o m time hcounter hname htime hstream =>
    refine ⟨hcounter .total, ?_⟩
    have hbefore : s.runningOf m.mName = m.running .total := by
      rcases hstream with hold | ⟨hnone, hnew⟩
      · exact runningOf_of_some hold
      · rw [runningOf_of_none hnone, (StreamMetrics.named_fresh hnew).2.2]
    have hinsert := AListSum.total_insert (f := fun m : StreamMetrics => m.running .total) s.map.mMetrics
      m.mName (m.count packet (toMicroseconds time) now later)
    rw [StreamMetrics.count_running, if_pos (Branch.counts_total _)] at hinsert
    have hbefore' : AListSum.value (fun m : StreamMetrics => m.running .total) s.map.mMetrics m.mName =
        m.running .total := hbefore
    rw [hbefore'] at hinsert
    rw [if_pos rfl]
    show AListSum.total _ (s.map.mMetrics.insert m.mName _) = AListSum.total _ s.map.mMetrics + 1
    omega

end MetricsStore

/-! ### What keeps the reports right -/

namespace ActivitySummary

/-- The streams that the tabulation in progress has still to tabulate. -/
def left (s : ActivitySummary) : List Str :=
  match s.tabulator with
  | .tabulating left => left
  | _ => []

/-- The running totals of some streams. -/
def pending (s : ActivitySummary) (names : List Str) : Int := (names.map s.metrics.runningOf).sum

/-- The step leaves the reports right. With exported metrics nothing is exported while a report is summed up: it is
not begun while counts are left to tabulate, and then no stream that has counted is tabulated and no tabulation
becomes due for packets processed since the last. Without them no report is made after a tabulation was due for
packets that were processed. -/
def Undisturbed (options : SummaryOptions) (s : ActivitySummary) : SummaryEvent → Prop
  | .testKeepRunning keepRunning now =>
    options.exportMetrics = true → keepRunning = true → s.due options now = true → s.summarizer ≠ .watching →
      s.processed = s.processedWhenDue
  | .tabulate => s.summarizer ≠ .watching → (s.left.head?.map s.metrics.runningOf).getD 0 = 0
  | .printSummary now => s.reportDue options now = true → s.pending s.left = 0
  | .report _ => options.exportMetrics = false → s.processedWhenDue = 0
  | _ => True

instance (options : SummaryOptions) (s : ActivitySummary) (e : SummaryEvent) :
    Decidable (s.Undisturbed options e) :=
  match e with
  | .testKeepRunning keepRunning now =>
    inferInstanceAs (Decidable (options.exportMetrics = true → keepRunning = true → s.due options now = true →
      s.summarizer ≠ .watching → s.processed = s.processedWhenDue))
  | .tabulate =>
    inferInstanceAs (Decidable
      (s.summarizer ≠ .watching → (s.left.head?.map s.metrics.runningOf).getD 0 = 0))
  | .printSummary now =>
    inferInstanceAs (Decidable (s.reportDue options now = true → s.pending s.left = 0))
  | .report _ => inferInstanceAs (Decidable (options.exportMetrics = false → s.processedWhenDue = 0))
  | .dequeue _ | .takeKeys | .lookUp => .isTrue trivial

/-- What a report under way will say: what was exported when a tabulation was last due. -/
def SummingUp (s : ActivitySummary) : Prop :=
  match s.summarizer with
  | .watching => True
  | .takingKeys => s.metrics.exportedTotal = s.processedWhenDue
  | .summing keys result =>
    s.metrics.exportedTotal = s.processedWhenDue ∧
      result + (keys.map (s.metrics.exported .total)).sum = s.metrics.exportedTotal

/-- With exported metrics the packets processed are exported or running, and those processed when a tabulation was
last due are exported or left to it. -/
structure Accounts (s : ActivitySummary) : Prop where
  due : s.metrics.exportedTotal + s.pending s.left = s.processedWhenDue
  processed : s.metrics.exportedTotal + s.metrics.runningTotal = s.processed
  nodup : s.left.Nodup
  summingUp : s.SummingUp
  reported : s.mReceivedLastReport = s.processedAtReport
  reports : (s.reports.map (·.received)).sum = s.mReceivedLastReport

variable {options : SummaryOptions} {s s' : ActivitySummary} {e : SummaryEvent}

theorem SummingUp.of_not_watching (h : s.SummingUp) (hbusy : s.summarizer ≠ .watching) :
    s.metrics.exportedTotal = s.processedWhenDue := by
  unfold SummingUp at h
  split at h
  · next hwatching => exact absurd hwatching hbusy
  · exact h
  · exact h.1

/-- Everything a step does. -/
inductive Step (options : SummaryOptions) (s : ActivitySummary) : SummaryEvent → ActivitySummary → Prop
  /-- The metrics thread goes on between two tabulations. -/
  | moved (e : SummaryEvent) (tabulator : Tabulator) :
      s.left = [] → ({ s with tabulator } : ActivitySummary).left = [] → Step options s e { s with tabulator }
  /-- A tabulation is due that is not made. -/
  | omitted (now : Int) : s.left = [] → s.due options now = true → options.exportMetrics = false →
      Step options s (.testKeepRunning true now)
        { s with lastDue := now, processedWhenDue := s.processed, tabulator := .dequeuing }
  | started (now : Int) : s.left = [] → s.due options now = true → options.exportMetrics = true →
      Step options s (.testKeepRunning true now)
        { s with
          lastDue := now
          processedWhenDue := s.processed
          metrics := s.metrics.setSampleTime now
          tabulator := .tabulating s.metrics.map.mMetrics.keysInOrder }
  | tabulated (name : Str) (left : List Str) : s.left = name :: left →
      Step options s .tabulate
        { s with metrics := s.metrics.tabulateStream name, tabulator := .tabulating left }
  | updated (arrival : Arrival) : s.left = [] → options.exportMetrics = true →
      Step options s (.dequeue (some arrival))
        { s with
          metrics := (s.metrics.update arrival.packet arrival.now arrival.later).1
          processed := s.processed +
            if (s.metrics.update arrival.packet arrival.now arrival.later).2 = .ok () then 1 else 0
          tabulator := .testing }
  | passedOn (arrival : Arrival) : s.left = [] → options.exportMetrics = false →
      Step options s (.dequeue (some arrival)) { s with processed := s.processed + 1, tabulator := .testing }
  | returned (e : SummaryEvent) : Step options s e s
  | begun (now : Int) : s.summarizer = .watching → s.reportDue options now = true →
      Step options s (.printSummary now) { s with mLastReport := now, summarizer := .takingKeys }
  | tookKeys : s.summarizer = .takingKeys →
      Step options s .takeKeys
        { s with summarizer := .summing s.metrics.observables.mObservableTotalPacketsReceived.keys 0 }
  | lookedUp (key : Str) (keys : List Str) (result : Int) : s.summarizer = .summing (key :: keys) result →
      Step options s .lookUp { s with summarizer := .summing keys (result + s.metrics.exported .total key) }
  | reported (nReceived nWritten : Int) : s.summarizer = .summing [] nReceived →
      Step options s (.report nWritten)
        { s with
          summarizer := .watching
          reports := s.reports ++ [⟨nReceived - s.mReceivedLastReport, nWritten - s.mWrittenLastReport⟩]
          mReceivedLastReport := nReceived
          mWrittenLastReport := nWritten
          processedAtReport := s.processedWhenDue }

theorem step_of_receive (arrival : Arrival) (hleft : s.left = []) :
    Step options s (.dequeue (some arrival)) (s.receive options arrival) := by
  cases hexport : options.exportMetrics with
  | false =>
    rw [receive, if_neg (by rw [hexport]; nofun)]
    exact .passedOn arrival hleft hexport
  | true =>
    have hstep := Step.updated arrival hleft hexport
    rw [receive, if_pos hexport]
    generalize s.metrics.update arrival.packet arrival.now arrival.later = result at hstep ⊢
    obtain ⟨metrics, failure | _⟩ := result
    · exact hstep
    · exact hstep

theorem step_of_tabulateMetrics (h : s.tabulateMetrics options e = some s') : Step options s e s' := by
  cases e with
  | testKeepRunning keepRunning now =>
    simp only [tabulateMetrics] at h
    split at h
    · next htesting =>
      have hleft : s.left = [] := by rw [left, htesting]
      cases keepRunning with
      | false =>
        obtain rfl := Option.some.inj h
        exact .moved _ .ended hleft rfl
      | true =>
        cases hdue : s.due options now with
        | false =>
          have hnoted : s.noteDue options now = s := if_neg (by rw [hdue]; nofun)
          have hmetrics : (options.exportMetrics && s.metrics.due now) = false := by
            rw [due] at hdue
            cases hexport : options.exportMetrics <;> simp_all
          rw [hnoted, hmetrics] at h
          obtain rfl := Option.some.inj h
          exact .moved _ .dequeuing hleft rfl
        | true =>
          have hnoted : s.noteDue options now =
              { s with lastDue := now, processedWhenDue := s.processed } := if_pos hdue
          cases hexport : options.exportMetrics with
          | false =>
            rw [hnoted, hexport] at h
            obtain rfl := Option.some.inj h
            exact .omitted now hleft hdue hexport
          | true =>
            have hmetrics : s.metrics.due now = true := by
              rw [due, hexport] at hdue
              exact hdue
            rw [hnoted, hexport, hmetrics] at h
            obtain rfl := Option.some.inj h
            exact .started now hleft hdue hexport
    · cases h
  | tabulate =>
    simp only [tabulateMetrics] at h
    split at h
    · next name left hleft =>
      obtain rfl := Option.some.inj h
      exact .tabulated name left (by rw [ActivitySummary.left, hleft])
    · next hleft =>
      obtain rfl := Option.some.inj h
      exact .moved _ .dequeuing (by rw [left, hleft]) rfl
    · cases h
  | dequeue arrival =>
    simp only [tabulateMetrics] at h
    split at h
    · next hdequeuing =>
      have hleft : s.left = [] := by rw [left, hdequeuing]
      cases arrival with
      | none =>
        obtain rfl := Option.some.inj h
        exact .moved _ .testing hleft rfl
      | some arrival =>
        obtain rfl := Option.some.inj h
        exact step_of_receive arrival hleft
    · cases h
  | _ => cases h

theorem step_of_printSummary (h : s.printSummary options e = some s') : Step options s e s' := by
  cases e with
  | printSummary now =>
    simp only [printSummary] at h
    split at h
    · next hwatching =>
      split at h
      · next hdue =>
        obtain rfl := Option.some.inj h
        exact .begun now hwatching hdue
      · obtain rfl := Option.some.inj h
        exact .returned _
    · cases h
  | takeKeys =>
    simp only [printSummary] at h
    split at h
    · next htaking =>
      obtain rfl := Option.some.inj h
      exact .tookKeys htaking
    · cases h
  | lookUp =>
    simp only [printSummary] at h
    split at h
    · next key keys result hsumming =>
      have hstep : Step options s .lookUp _ := .lookedUp key keys result hsumming
      have hcount : s.metrics.exported .total key =
          (s.metrics.observables.mObservableTotalPacketsReceived.get key).getD 0 := rfl
      rw [hcount] at hstep
      cases hvalue : s.metrics.observables.mObservableTotalPacketsReceived.get key with
      | none =>
        rw [hvalue] at h hstep
        obtain rfl := Option.some.inj h
        simpa using hstep
      | some value =>
        rw [hvalue] at h hstep
        obtain rfl := Option.some.inj h
        exact hstep
    · cases h
  | report nWritten =>
    simp only [printSummary] at h
    split at h
    · next nReceived hsumming =>
      obtain rfl := Option.some.inj h
      exact .reported nReceived nWritten hsumming
    · cases h
  | _ => cases h

theorem step_of_next (h : ActivitySummary.next options s e = some s') : Step options s e s' := by
  cases e with
  | testKeepRunning _ _ | tabulate | dequeue _ => exact step_of_tabulateMetrics h
  | _ => exact step_of_printSummary h

/-! ### Steps and runs -/

/-- A report under way does not notice a step that exports nothing and is due for nothing new. -/
theorem SummingUp.of_same (h : s.SummingUp) (hsummarizer : s'.summarizer = s.summarizer)
    (hsame : s.summarizer ≠ .watching →
      s'.metrics.exportedTotal = s.metrics.exportedTotal ∧ s'.processedWhenDue = s.processedWhenDue ∧
        ∀ key, s'.metrics.exported .total key = s.metrics.exported .total key) : s'.SummingUp := by
  unfold SummingUp at h ⊢
  rw [hsummarizer]
  cases hbusy : s.summarizer with
  | watching => trivial
  | takingKeys =>
    obtain ⟨htotal, hdue, _⟩ := hsame (by rw [hbusy]; nofun)
    rw [hbusy] at h
    dsimp only at h ⊢
    rw [htotal, hdue]
    exact h
  | summing keys result =>
    obtain ⟨htotal, hdue, hexported⟩ := hsame (by rw [hbusy]; nofun)
    rw [hbusy] at h
    dsimp only at h ⊢
    rw [htotal, hdue, funext hexported]
    exact h

/-- What is pending is zero when no tabulation is in progress. -/
theorem Accounts.exported_of_left_nil (h : s.Accounts) (hleft : s.left = []) :
    s.metrics.exportedTotal = s.processedWhenDue := by
  have hdue := h.due
  rw [hleft] at hdue
  exact (Int.add_zero _).symm.trans hdue

theorem Accounts.moved (h : s.Accounts) (hleft : s.left = []) {tabulator : Tabulator}
    (hto : ({ s with tabulator } : ActivitySummary).left = []) :
    ({ s with tabulator } : ActivitySummary).Accounts where
  due := by
    rw [hto]
    exact (Int.add_zero _).trans (h.exported_of_left_nil hleft)
  processed := h.processed
  nodup := by
    rw [hto]
    exact List.nodup_nil
  summingUp := h.summingUp
  reported := h.reported
  reports := h.reports

/-- A tabulation starts with all streams, so all that runs is left to it. -/
theorem Accounts.started (h : s.Accounts) {now : Int}
    (hbusy : s.summarizer ≠ .watching → s.processed = s.processedWhenDue) :
    ({ s with
      lastDue := now
      processedWhenDue := s.processed
      metrics := s.metrics.setSampleTime now
      tabulator := .tabulating s.metrics.map.mMetrics.keysInOrder } : ActivitySummary).Accounts := by
  refine ⟨?_, h.processed, StdMap.nodup_keysInOrder _, ?_, h.reported, h.reports⟩
  · have hall : (s.metrics.map.mMetrics.keysInOrder.map s.metrics.runningOf).sum =
        s.metrics.runningTotal := AListSum.sum_eq_total (List.perm_insertionSort _ _)
    exact (congrArg (s.metrics.exportedTotal + ·) hall).trans h.processed
  · exact h.summingUp.of_same rfl fun hne => ⟨rfl, hbusy hne, fun _ => rfl⟩

/-- The tabulation of a stream exports what it leaves less to the rest of the tabulation. -/
theorem Accounts.tabulated (h : s.Accounts) {name : Str} {left : List Str}
    (hleft : s.left = name :: left)
    (hbusy : s.summarizer ≠ .watching → s.metrics.runningOf name = 0) :
    ({ s with metrics := s.metrics.tabulateStream name, tabulator := .tabulating left } :
      ActivitySummary).Accounts := by
  obtain ⟨hexported, hrunning, hothers⟩ := s.metrics.tabulateStream_totals name
  have hdue := h.due
  have hnodup := h.nodup
  rw [hleft] at hdue hnodup
  obtain ⟨hnotMem, hrest⟩ := List.nodup_cons.mp hnodup
  refine ⟨?_, ?_, hrest, ?_, h.reported, h.reports⟩
  · have hpending : (left.map (s.metrics.tabulateStream name).runningOf).sum = s.pending left := by
      apply congrArg List.sum
      apply List.map_congr_left
      intro name' hmem
      exact hothers name' (ne_of_mem_of_not_mem hmem hnotMem)
    have hsplit : s.pending (name :: left) = s.metrics.runningOf name + s.pending left :=
      List.sum_cons
    show (s.metrics.tabulateStream name).exportedTotal +
      (left.map (s.metrics.tabulateStream name).runningOf).sum = s.processedWhenDue
    omega
  · have hprocessed := h.processed
    show (s.metrics.tabulateStream name).exportedTotal + (s.metrics.tabulateStream name).runningTotal =
      s.processed
    omega
  · refine h.summingUp.of_same rfl fun hne => ⟨?_, rfl, fun key => ?_⟩
    · show (s.metrics.tabulateStream name).exportedTotal = s.metrics.exportedTotal
      rw [hexported, hbusy hne, Int.add_zero]
    · exact MetricsStore.count_tabulateStream_of_zero (hbusy hne) key

theorem Accounts.updated (h : s.Accounts) (arrival : Arrival) (hleft : s.left = []) :
    ({ s with
      metrics := (s.metrics.update arrival.packet arrival.now arrival.later).1
      processed := s.processed +
        if (s.metrics.update arrival.packet arrival.now arrival.later).2 = .ok () then 1 else 0
      tabulator := .testing } : ActivitySummary).Accounts := by
  obtain ⟨hcounter, hrunning⟩ := s.metrics.update_totals arrival.packet arrival.now arrival.later
  have hexported : (s.metrics.update arrival.packet arrival.now arrival.later).1.exportedTotal =
      s.metrics.exportedTotal := congrArg (fun m : ObservableMap => AListSum.total id m.mMap) hcounter
  refine ⟨?_, ?_, List.nodup_nil, ?_, h.reported, h.reports⟩
  · have hbefore := h.exported_of_left_nil hleft
    exact (Int.add_zero _).trans (hexported.trans hbefore)
  · have hprocessed := h.processed
    dsimp only
    rw [hexported, hrunning, Nat.cast_add, ← hprocessed]
    split <;> omega
  · refine h.summingUp.of_same rfl fun _ => ⟨hexported, rfl, fun key => ?_⟩
    exact congrArg (ObservableMap.count · key) hcounter

theorem Accounts.step (hexport : options.exportMetrics = true) (h : s.Accounts)
    (hundisturbed : s.Undisturbed options e) (hstep : Step options s e s') : s'.Accounts := by
  cases hstep with
  | moved e tabulator hleft hto => exact h.moved hleft hto
  | omitted now hleft hdue hoff | passedOn arrival hleft hoff =>
    rw [hexport] at hoff
    cases hoff
  | started now hleft hdue => exact h.started (hundisturbed hexport rfl hdue)
  | tabulated name left hleft =>
    refine h.tabulated hleft fun hbusy => ?_
    have hzero := hundisturbed hbusy
    rwa [hleft] at hzero
  | updated arrival hleft => exact h.updated arrival hleft
  | returned => exact h
  | begun now hwatching hdue =>
    refine ⟨h.due, h.processed, h.nodup, ?_, h.reported, h.reports⟩
    have hpending : s.pending s.left = 0 := hundisturbed hdue
    have hexported := h.due
    show s.metrics.exportedTotal = s.processedWhenDue
    omega
  | tookKeys htaking =>
    refine ⟨h.due, h.processed, h.nodup, ?_, h.reported, h.reports⟩
    have hexported := h.summingUp.of_not_watching (by rw [htaking]; nofun)
    exact ⟨hexported, (Int.zero_add _).trans s.metrics.sum_exported⟩
  | lookedUp key keys result hsumming =>
    refine ⟨h.due, h.processed, h.nodup, ?_, h.reported, h.reports⟩
    have hsum := h.summingUp
    rw [SummingUp, hsumming] at hsum
    obtain ⟨hexported, hresult⟩ := hsum
    rw [List.map_cons, List.sum_cons] at hresult
    refine ⟨hexported, ?_⟩
    dsimp only
    omega
  | reported nReceived nWritten hsumming =>
    have hsum := h.summingUp
    rw [SummingUp, hsumming] at hsum
    obtain ⟨hexported, hresult⟩ := hsum
    have hall : nReceived = s.processedWhenDue :=
      ((Int.add_zero _).symm.trans hresult).trans hexported
    refine ⟨h.due, h.processed, h.nodup, trivial, hall, ?_⟩
    have hreports := h.reports
    dsimp only
    rw [List.map_append, List.sum_append, hreports]
    simp

theorem accounts_start (started startedSeconds : Int) :
    (start started startedSeconds).Accounts :=
  ⟨rfl, rfl, List.nodup_nil, trivial, rfl, rfl⟩

/-- Nothing is exported, and the reports know of nothing. -/
structure Silent (s : ActivitySummary) : Prop where
  left : s.left = []
  exported : s.metrics.observables.mObservableTotalPacketsReceived.keys = []
  summing : ∀ keys result, s.summarizer = .summing keys result → keys = [] ∧ result = 0
  reported : s.mReceivedLastReport = 0
  reports : ∀ report ∈ s.reports, report.received = 0

theorem Silent.step (hoff : options.exportMetrics = false) (h : s.Silent) (hstep : Step options s e s') :
    s'.Silent := by
  cases hstep with
  | moved e tabulator hleft hto => exact ⟨hto, h.exported, h.summing, h.reported, h.reports⟩
  | omitted now hleft hdue _ => exact ⟨rfl, h.exported, h.summing, h.reported, h.reports⟩
  | started now hleft hdue hexport | updated arrival hleft hexport =>
    rw [hoff] at hexport
    cases hexport
  | tabulated name left hleft =>
    rw [h.left] at hleft
    cases hleft
  | passedOn arrival hleft _ => exact ⟨rfl, h.exported, h.summing, h.reported, h.reports⟩
  | returned => exact h
  | begun now hwatching hdue =>
    refine ⟨h.left, h.exported, fun keys result hsumming => ?_, h.reported, h.reports⟩
    cases hsumming
  | tookKeys htaking =>
    refine ⟨h.left, h.exported, fun keys result hsumming => ?_, h.reported, h.reports⟩
    obtain ⟨rfl, rfl⟩ := Summarizer.summing.inj hsumming
    exact ⟨h.exported, rfl⟩
  | lookedUp key keys result hsumming => cases (h.summing _ _ hsumming).1
  | reported nReceived nWritten hsumming =>
    have hzero := (h.summing _ _ hsumming).2
    refine ⟨h.left, h.exported, fun keys result hwatching => ?_, hzero, fun report hmem => ?_⟩
    · cases hwatching
    · rcases List.mem_append.mp hmem with hold | hnew
      · exact h.reports report hold
      · rw [List.mem_singleton.mp hnew, h.reported, hzero]
        rfl

theorem silent_start (started startedSeconds : Int) : (start started startedSeconds).Silent := by
  refine ⟨rfl, rfl, fun keys result hsumming => ?_, rfl, fun report hmem => ?_⟩
  · cases hsumming
  · cases hmem

/-- Without exported metrics every report says that nothing was received. -/
theorem reports_zero_of_not_exported (hoff : options.exportMetrics = false) {started startedSeconds : Int}
    {es : List SummaryEvent}
    (hrun : exec (ActivitySummary.next options) (start started startedSeconds) es = some s) :
    ∀ report ∈ s.reports, report.received = 0 := by
  have hsilent : s.Silent :=
    invariant (fun _ _ _ h hnext => h.step hoff (step_of_next hnext)) (silent_start started startedSeconds) hrun
  exact hsilent.reports

/-- A report that is made before any packet was due is right in saying so. -/
theorem processedAtReport_of_step (hoff : options.exportMetrics = false) (h : s.processedAtReport = 0)
    (hundisturbed : s.Undisturbed options e) (hstep : Step options s e s') : s'.processedAtReport = 0 := by
  cases hstep with
  | reported nReceived nWritten hsumming => exact hundisturbed hoff
  | _ => exact h

/-- **The reports tell what was tabulated**: in every run in which no step disturbs the reports, the
received counts of all reports make up the packets that were processed when a tabulation was last due
before the last report. -/
theorem reports_truthful (options : SummaryOptions) (started startedSeconds : Int)
    (es : List SummaryEvent) (s : ActivitySummary)
    (halong : Along (ActivitySummary.next options) (Undisturbed options) (start started startedSeconds) es)
    (hrun : exec (ActivitySummary.next options) (start started startedSeconds) es = some s) :
    s.Truthful := by
  cases hexport : options.exportMetrics with
  | true =>
    have haccounts : s.Accounts :=
      invariant_along (fun _ _ _ hundisturbed h hnext => h.step hexport hundisturbed (step_of_next hnext))
        (accounts_start started startedSeconds) halong hrun
    exact haccounts.reports.trans haccounts.reported
  | false =>
    have hprocessed : s.processedAtReport = 0 :=
      invariant_along (I := fun t => t.processedAtReport = 0)
        (fun _ _ _ hundisturbed h hnext => processedAtReport_of_step hexport h hundisturbed (step_of_next hnext))
        rfl halong hrun
    have hzero := reports_zero_of_not_exported hexport hrun
    rw [Truthful, hprocessed, List.map_eq_replicate_iff.mpr hzero]
    simp

/-- A packet is dequeued and a tabulation is due; then a report is made. With exported metrics the stream
of the packet is tabulated in between. -/
def reportAfterDue (tabulation : List SummaryEvent) (keys : Nat) : List SummaryEvent :=
  [.testKeepRunning true 1759952900000001,
    .dequeue (some ⟨knownPacket .integer32 [5], 1759952900000002, 1759952900000003⟩),
    .testKeepRunning true 1759952961000000] ++ tabulation ++
  [.printSummary 1759952961, .takeKeys] ++ List.replicate keys .lookUp ++ [.report 1]

/-- The packet that was tabulated is reported. -/
theorem reports_truthful_known :
    ∃ s, exec (ActivitySummary.next { exportMetrics := true, printSummaryInterval := 1 })
        (start 1759952900000000 1759952900) (reportAfterDue [.tabulate, .tabulate] 1) = some s ∧
      s.reports = [⟨1, 1⟩] ∧ s.Truthful := by
  have hrun : (exec (ActivitySummary.next { exportMetrics := true, printSummaryInterval := 1 })
      (start 1759952900000000 1759952900) (reportAfterDue [.tabulate, .tabulate] 1)).map
        ActivitySummary.reports = some [⟨1, 1⟩] := by
    decide +kernel
  obtain ⟨s, hexec, hreports⟩ := Option.map_eq_some_iff.mp hrun
  exact ⟨s, hexec, hreports, reports_truthful _ _ _ _ s (by decide +kernel) hexec⟩

/-- Without exported metrics the packet is never reported. -/
theorem reports_not_truthful :
    ¬ ∀ (options : SummaryOptions) (started startedSeconds : Int) (es : List SummaryEvent)
        (s : ActivitySummary),
      exec (ActivitySummary.next options) (start started startedSeconds) es = some s → s.Truthful := by
  intro hclaim
  have hrun : (exec (ActivitySummary.next { printSummaryInterval := 1 })
      (start 1759952900000000 1759952900) (reportAfterDue [] 0)).map
        (fun s => (s.reports, s.processedAtReport)) = some ([⟨0, 1⟩], 1) := by
    decide +kernel
  obtain ⟨s, hexec, hdata⟩ := Option.map_eq_some_iff.mp hrun
  obtain ⟨hreports, hprocessed⟩ := Prod.mk.inj hdata
  have htruth := hclaim _ _ _ _ s hexec
  rw [Truthful, hreports, hprocessed] at htruth
  exact absurd htruth (by decide)

/-- A report made while two streams are tabulated has the packet of the first of them only. -/
example :
    (exec (ActivitySummary.next { exportMetrics := true, printSummaryInterval := 1 })
      (start 1759952900000000 1759952900)
      [.testKeepRunning true 1759952900000001,
        .dequeue (some ⟨knownPacket .integer32 [5], 1759952900000002, 1759952900000003⟩),
        .testKeepRunning true 1759952900000004,
        .dequeue (some
          ⟨{ pImpl :=
              { (knownPacket .integer32 [5]).pImpl with
                mIdentifier := (knownPacket .integer32 [5]).pImpl.mIdentifier.setLocationCode ['0', '2'] } },
            1759952900000005, 1759952900000006⟩),
        .testKeepRunning true 1759952961000000, .tabulate, .printSummary 1759952961, .takeKeys, .lookUp,
        .report 2]).map (fun s => (s.reports, s.processedAtReport)) = some ([⟨1, 2⟩], 2) := by
  decide +kernel

end ActivitySummary

end USEEDLinkToRingServer
