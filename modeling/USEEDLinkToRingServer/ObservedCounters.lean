import USEEDLinkToRingServer.ActivitySummary

/-!
# What the telemetry observes

The callbacks of the exporter read the counters while the metrics thread counts and tabulates. A callback takes the
keys of its map and looks them up one by one, and a tabulation adds to one map after another, so each can come
between any two steps of the other.
-/

namespace USEEDLinkToRingServer

open Machine

/-- A value that a callback hands to the telemetry, with its attributes. -/
structure Observation where
  counter : Counter
  stream : Str
  source : Option Str
  value : Int
deriving DecidableEq, Repr

/-- The counters in the order in which a tabulation exports them. -/
def exportOrder : List Counter := [.good, .future, .expired, .total]

/-- Where the metrics thread is. -/
inductive Tabulation
  | receiving
  /-- Streams that are still to be tabulated. -/
  | tabulating (names : List Str)
  /-- The metrics of a stream as they were when they were reset, and the counters that are still to be exported. -/
  | exporting (m : StreamMetrics) (counters : List Counter) (names : List Str)

/-- Where the thread of the exporter is. -/
inductive Callback
  | idle
  | observing (counter : Counter) (keys : List Str)

structure ObservedCounters where
  metrics : MetricsStore
  tabulation : Tabulation := .receiving
  callback : Callback := .idle
  observations : List Observation := []
  /-- The keys that a callback did not find. -/
  notFound : List Str := []
  /-- The metrics key and the branch of each packet that was counted. -/
  counted : List (Str × Branch) := []

inductive TelemetryEvent
  | update (packet : Packet) (now later : Int)
  | tabulate (now : Int)
  | tabulateNext
  | exportNext
  /-- A callback is called, with the kind of result that it can fill or not. -/
  | observe (counter : Counter) (holdsAlternative : Bool)
  | lookUp

namespace Observables

def addOrAssign (o : Observables) (c : Counter) (key : Str) (value : Int) : Observables :=
  match c with
  | .total =>
    { o with mObservableTotalPacketsReceived := o.mObservableTotalPacketsReceived.addOrAssign key value }
  | .good => { o with mObservablePacketsReceived := o.mObservablePacketsReceived.addOrAssign key value }
  | .future =>
    { o with mObservableFuturePacketsReceived := o.mObservableFuturePacketsReceived.addOrAssign key value }
  | .expired =>
    { o with mObservableExpiredPacketsReceived := o.mObservableExpiredPacketsReceived.addOrAssign key value }

/-- The gauges are those of another. -/
def setGauges (o gauges : Observables) : Observables :=
  { o with
    mObservableAverageLatency := gauges.mObservableAverageLatency
    mObservableAverageCounts := gauges.mObservableAverageCounts
    mObservableStandardDeviationOfCounts := gauges.mObservableStandardDeviationOfCounts }

end Observables

namespace ObservedCounters

section

variable (source : Str) (s : ObservedCounters)

/-- The metrics key of the stream of a packet. -/
def keyOf (metrics : MetricsStore) (name : Str) : Str :=
  ((metrics.stream name).map (·.mMetricsKey)).getD []

def update (packet : Packet) (now later : Int) : ObservedCounters :=
  match s.metrics.update packet now later with
  | (metrics, .error _) => { s with metrics }
  | (metrics, .ok ()) =>
    let taken := s.metrics.branchTaken packet now
    { s with metrics, counted := s.counted ++ [(keyOf metrics taken.1, taken.2)] }

/-- A step of `tabulateAndResetAllMetrics`, and of `tabulateAndResetMetrics` for each stream. -/
def tabulate : TelemetryEvent → Option ObservedCounters
  | .tabulate now =>
    match s.tabulation with
    | .receiving =>
      if s.metrics.due now then
        some { s with
          metrics := s.metrics.setSampleTime now
          tabulation := .tabulating s.metrics.map.mMetrics.keysInOrder }
      else some s
    | _ => none
  | .tabulateNext =>
    match s.tabulation with
    | .tabulating (name :: names) =>
      match s.metrics.stream name with
      | none => some { s with tabulation := .tabulating names }
      | some m =>
        some { s with
          metrics := s.metrics.setStream name
            (m.tabulateAndResetMetrics s.metrics.map.mSampleInterval s.metrics.observables).1
          tabulation := .exporting m exportOrder names }
    | .tabulating [] => some { s with tabulation := .receiving }
    | _ => none
  | .exportNext =>
    match s.tabulation with
    | .exporting m (c :: counters) names =>
      some { s with
        metrics := { s.metrics with
          observables := s.metrics.observables.addOrAssign c m.mMetricsKey (m.running c) }
        tabulation := .exporting m counters names }
    | .exporting m [] names =>
      some { s with
        metrics := { s.metrics with
          observables := s.metrics.observables.setGauges
            (m.tabulateAndResetMetrics s.metrics.map.mSampleInterval s.metrics.observables).2 }
        tabulation := .tabulating names }
    | _ => none
  | _ => none

/-- What is handed to the telemetry. A source that is empty is no attribute. -/
def observation (counter : Counter) (key : Str) (value : Int) : Observation :=
  { counter, stream := key, source := if source.isEmpty then none else some source, value }

/-- A step of one of the callbacks of the counters. -/
def observe : TelemetryEvent → Option ObservedCounters
  | .observe counter holdsAlternative =>
    match s.callback with
    | .idle =>
      if holdsAlternative then
        some { s with callback := .observing counter (s.metrics.observables.counter counter).keys }
      else some s
    | _ => none
  | .lookUp =>
    match s.callback with
    | .observing counter (key :: keys) =>
      match (s.metrics.observables.counter counter).get key with
      | some value =>
        some { s with
          observations := s.observations ++ [observation source counter key value]
          callback := .observing counter keys }
      | none => some { s with notFound := s.notFound ++ [key], callback := .observing counter keys }
    | .observing _ [] => some { s with callback := .idle }
    | .idle => none
  | _ => none

end

/-- A step of the metrics thread or of the thread of the exporter. -/
def next (source : Str) (s : ObservedCounters) (e : TelemetryEvent) : Option ObservedCounters :=
  match e with
  | .update packet now later =>
    match s.tabulation with
    | .receiving => some (s.update packet now later)
    | _ => none
  | .tabulate _ | .tabulateNext | .exportNext => s.tabulate e
  | .observe _ _ | .lookUp => s.observe source e

/-- The threads when they start. -/
def start (started : Int) : ObservedCounters := { metrics := { map := { mLastSampleTime := started } } }

/-- The values of a stream's counter that were observed. -/
def observed (s : ObservedCounters) (c : Counter) (key : Str) : List Int :=
  (s.observations.filter fun o => o.counter = c ∧ o.stream = key).map (·.value)

/-- The packets that were counted in a counter under a key. -/
def countOf (s : ObservedCounters) (c : Counter) (key : Str) : Nat :=
  s.counted.countP fun packet => packet.1 = key ∧ packet.2.counts c

/-! ### What the steps do -/

variable {source : Str} {s s' : ObservedCounters} {e : TelemetryEvent}

/-- Everything a step does. -/
inductive Step (source : Str) (s : ObservedCounters) : ObservedCounters → Prop
  | waited : Step source s s
  | failed (o : Observables) (hcounter : ∀ c, o.counter c = s.metrics.observables.counter c)
      (htabulation : s.tabulation = .receiving) :
      Step source s { s with metrics := { s.metrics with observables := o } }
  | counted (o : Observables) (m m' : StreamMetrics) (branch : Branch)
      (hcounter : ∀ c, o.counter c = s.metrics.observables.counter c)
      (hstream : s.metrics.stream m.mName = some m ∨ s.metrics.stream m.mName = none ∧ ∀ c, m.running c = 0)
      (hkey : m'.mMetricsKey = m.mMetricsKey)
      (hrunning : ∀ c, m'.running c = m.running c + if branch.counts c then 1 else 0)
      (htabulation : s.tabulation = .receiving) :
      Step source s { s with
        metrics := (MetricsStore.mk s.metrics.map o).setStream m.mName m'
        counted := s.counted ++ [(m.mMetricsKey, branch)] }
  | began (metrics : MetricsStore) (names : List Str) (hstreams : metrics.map.mMetrics = s.metrics.map.mMetrics)
      (hobservables : metrics.observables = s.metrics.observables) (htabulation : s.tabulation = .receiving) :
      Step source s { s with metrics, tabulation := .tabulating names }
  | skipped (name : Str) (names : List Str) (htabulation : s.tabulation = .tabulating (name :: names)) :
      Step source s { s with tabulation := .tabulating names }
  | reset (name : Str) (names : List Str) (m m' : StreamMetrics)
      (htabulation : s.tabulation = .tabulating (name :: names)) (hstream : s.metrics.stream name = some m)
      (hkey : m'.mMetricsKey = m.mMetricsKey) (hrunning : ∀ c, m'.running c = 0) :
      Step source s { s with
        metrics := s.metrics.setStream name m', tabulation := .exporting m exportOrder names }
  | exported (m : StreamMetrics) (c : Counter) (counters : List Counter) (names : List Str)
      (htabulation : s.tabulation = .exporting m (c :: counters) names) :
      Step source s { s with
        metrics := { s.metrics with
          observables := s.metrics.observables.addOrAssign c m.mMetricsKey (m.running c) }
        tabulation := .exporting m counters names }
  | gauged (m : StreamMetrics) (names : List Str) (o : Observables)
      (hcounter : ∀ c, o.counter c = s.metrics.observables.counter c)
      (htabulation : s.tabulation = .exporting m [] names) :
      Step source s { s with
        metrics := { s.metrics with observables := o }, tabulation := .tabulating names }
  | finished (htabulation : s.tabulation = .tabulating []) :
      Step source s { s with tabulation := .receiving }
  | called (counter : Counter) :
      Step source s
        { s with callback := .observing counter (s.metrics.observables.counter counter).keys }
  | found (counter : Counter) (key : Str) (keys : List Str) (value : Int)
      (hcallback : s.callback = .observing counter (key :: keys))
      (hvalue : (s.metrics.observables.counter counter).get key = some value) :
      Step source s { s with
        observations := s.observations ++ [observation source counter key value]
        callback := .observing counter keys }
  | missed (counter : Counter) (key : Str) (keys : List Str)
      (hcallback : s.callback = .observing counter (key :: keys))
      (hnone : (s.metrics.observables.counter counter).get key = none) :
      Step source s { s with notFound := s.notFound ++ [key], callback := .observing counter keys }
  | left : Step source s { s with callback := .idle }

theorem step_of_update {packet : Packet} {now later : Int} (htabulation : s.tabulation = .receiving) :
    Step source s (s.update packet now later) := by
  have hcases := MetricsStore.update_cases s.metrics packet now later
  rw [update]
  generalize s.metrics.update packet now later = result at hcases ⊢
  cases hcases with
  | failed o e hcounter => exact .failed o hcounter htabulation
  | counted o m time hcounter hname htime hstream =>
    have htaken : s.metrics.branchTaken packet now =
        (m.mName, Branch.of m.mMostRecentSample (toMicroseconds time) now) :=
      MetricsStore.branchTaken_counted hname htime hstream
    have hkey : keyOf ({ s.metrics with observables := o }.setStream m.mName
        (m.count packet (toMicroseconds time) now later)) m.mName = m.mMetricsKey := by
      rw [keyOf, MetricsStore.stream_setStream, if_pos rfl]
      exact StreamMetrics.count_names.2
    dsimp only
    rw [htaken]
    dsimp only
    rw [hkey]
    refine .counted o m _ _ hcounter ?_ StreamMetrics.count_names.2 (fun c => StreamMetrics.count_running c) htabulation
    exact hstream.imp_right fun ⟨hnone, hnew⟩ => ⟨hnone, (StreamMetrics.named_fresh hnew).2.2⟩

theorem step_of_tabulate (h : s.tabulate e = some s') : Step source s s' := by
  cases e with
  | update | observe | lookUp => cases h
  | tabulate now =>
    rw [tabulate] at h
    split at h
    · next hreceiving =>
      split at h <;> obtain rfl := Option.some.inj h
      · exact .began _ _ rfl rfl hreceiving
      · exact .waited
    · cases h
  | tabulateNext =>
    rw [tabulate] at h
    split at h
    · next name names htabulating =>
      split at h <;> obtain rfl := Option.some.inj h
      · exact .skipped name names htabulating
      · next m hstream =>
        exact .reset name names m _ htabulating hstream rfl fun c => StreamMetrics.tabulate_running c
    · next htabulating =>
      obtain rfl := Option.some.inj h
      exact .finished htabulating
    · cases h
  | exportNext =>
    rw [tabulate] at h
    split at h
    · next m c counters names hexporting =>
      obtain rfl := Option.some.inj h
      exact .exported m c counters names hexporting
    · next m names hexporting =>
      obtain rfl := Option.some.inj h
      exact .gauged m names _ (fun c => by cases c <;> rfl) hexporting
    · cases h

theorem step_of_observe (h : s.observe source e = some s') : Step source s s' := by
  cases e with
  | update | tabulate | tabulateNext | exportNext => cases h
  | observe counter holdsAlternative =>
    rw [observe] at h
    split at h
    · split at h <;> obtain rfl := Option.some.inj h
      · exact .called counter
      · exact .waited
    · cases h
  | lookUp =>
    rw [observe] at h
    split at h
    · next counter key keys hobserving =>
      split at h <;> obtain rfl := Option.some.inj h
      · next value hvalue => exact .found counter key keys value hobserving hvalue
      · next hnone => exact .missed counter key keys hobserving hnone
    · obtain rfl := Option.some.inj h
      exact .left
    · cases h

theorem step_of_next (h : next source s e = some s') : Step source s s' := by
  cases e with
  | update packet now later =>
    rw [next] at h
    split at h
    · next hreceiving =>
      obtain rfl := Option.some.inj h
      exact step_of_update hreceiving
    · cases h
  | tabulate now => exact step_of_tabulate (e := .tabulate now) h
  | tabulateNext => exact step_of_tabulate (e := .tabulateNext) h
  | exportNext => exact step_of_tabulate (e := .exportNext) h
  | observe counter holdsAlternative => exact step_of_observe (e := .observe counter holdsAlternative) h
  | lookUp => exact step_of_observe (e := .lookUp) h

/-! ### What is exported -/

theorem counter_addOrAssign (o : Observables) (c c' : Counter) (key : Str) (value : Int) :
    (o.addOrAssign c key value).counter c' =
      if c' = c then (o.counter c').addOrAssign key value else o.counter c' := by
  cases c <;> cases c' <;> rfl

/-- The running counters of a stream are counts, and a packet that is good, in the future or expired is counted
in total too. -/
structure Consistent (m : StreamMetrics) : Prop where
  nonneg : ∀ c, 0 ≤ m.running c
  classes : m.running .good + m.running .future + m.running .expired ≤ m.running .total

theorem consistent_of_zero {m : StreamMetrics} (h : ∀ c, m.running c = 0) : Consistent m where
  nonneg c := (h c).ge
  classes := by simp [h]

theorem Consistent.counted {m m' : StreamMetrics} (h : Consistent m) {branch : Branch}
    (hrunning : ∀ c, m'.running c = m.running c + if branch.counts c then 1 else 0) : Consistent m' where
  nonneg c := by
    have hbefore := h.nonneg c
    rw [hrunning]
    split <;> omega
  classes := by
    have hbefore := h.classes
    rw [hrunning, hrunning, hrunning, hrunning]
    cases branch <;> simp only [Branch.counts, if_true, Bool.false_eq_true, if_false] <;> omega

/-- What a stream that is being exported has not exported yet. -/
def unexported (s : ObservedCounters) (c : Counter) (key : Str) : Int :=
  match s.tabulation with
  | .exporting m counters _ => if m.mMetricsKey = key ∧ c ∈ counters then m.running c else 0
  | _ => 0

/-- What a stream that is being exported has exported by class, while its total is still to be exported. -/
def inFlight (s : ObservedCounters) (key : Str) : Int :=
  match s.tabulation with
  | .exporting m counters _ =>
    if m.mMetricsKey = key ∧ .total ∈ counters then
      ([.good, .future, .expired].map fun c => if c ∈ counters then 0 else m.running c).sum
    else 0
  | _ => 0

/-- What the streams with a key have counted since they were tabulated. -/
def runningOf (metrics : MetricsStore) (c : Counter) (key : Str) : Int :=
  AListSum.total (fun m : StreamMetrics => if m.mMetricsKey = key then m.running c else 0) metrics.map.mMetrics

structure Accounts (s : ObservedCounters) : Prop where
  streams : ∀ name m, s.metrics.stream name = some m → Consistent m
  exporting : ∀ m counters names, s.tabulation = .exporting m counters names →
    Consistent m ∧ counters <:+ exportOrder
  classes : ∀ key, s.metrics.exported .good key + s.metrics.exported .future key + s.metrics.exported .expired key ≤
    s.metrics.exported .total key + s.inFlight key
  conserved : ∀ c key, s.metrics.exported c key + s.unexported c key + runningOf s.metrics c key = s.countOf c key

theorem runningOf_setStream {metrics : MetricsStore} {name : Str} {m m' : StreamMetrics} (c : Counter) (key : Str)
    (hstream : metrics.stream name = some m ∨ metrics.stream name = none ∧ m.running c = 0)
    (hkey : m'.mMetricsKey = m.mMetricsKey) :
    runningOf (metrics.setStream name m') c key + (if m.mMetricsKey = key then m.running c else 0) =
      runningOf metrics c key + if m.mMetricsKey = key then m'.running c else 0 := by
  have hinsert := AListSum.total_insert (f := fun m : StreamMetrics => if m.mMetricsKey = key then m.running c else 0)
    metrics.map.mMetrics name m'
  have hvalue : AListSum.value (fun m : StreamMetrics => if m.mMetricsKey = key then m.running c else 0)
      metrics.map.mMetrics name = if m.mMetricsKey = key then m.running c else 0 := by
    rw [AListSum.value]
    rcases hstream with hold | ⟨hnone, hzero⟩
    · rw [show metrics.map.mMetrics.lookup name = some m from hold]
      rfl
    · rw [show metrics.map.mMetrics.lookup name = none from hnone, hzero, ite_self]
      rfl
  rw [hvalue, hkey] at hinsert
  exact hinsert

theorem exported_congr {metrics metrics' : MetricsStore}
    (h : ∀ c, metrics'.observables.counter c = metrics.observables.counter c) (c : Counter) (key : Str) :
    metrics'.exported c key = metrics.exported c key := by
  rw [MetricsStore.exported, MetricsStore.exported, h c]

theorem exported_addOrAssign {metrics : MetricsStore} (c c' : Counter) (key key' : Str) (value : Int) :
    MetricsStore.exported { metrics with observables := metrics.observables.addOrAssign c key value } c' key' =
      metrics.exported c' key' + if c' = c ∧ key' = key then value else 0 := by
  rw [MetricsStore.exported, MetricsStore.exported, counter_addOrAssign]
  by_cases hcounter : c' = c
  · simp [hcounter]
  · simp [hcounter]

theorem countOf_append {key' : Str} {branch : Branch} {metrics : MetricsStore} (c : Counter) (key : Str) :
    (countOf { s with metrics, counted := s.counted ++ [(key', branch)] } c key : Int) =
      s.countOf c key + if key' = key then if branch.counts c then 1 else 0 else 0 := by
  simp only [countOf, List.countP_append, List.countP_singleton]
  by_cases hkey : key' = key <;> by_cases hcounts : branch.counts c = true <;> simp [hkey, hcounts]

/-- A step that counts nothing, resets nothing and exports nothing. -/
theorem Accounts.congr (h : s.Accounts) (hmetrics : s'.metrics.map.mMetrics = s.metrics.map.mMetrics)
    (hcounter : ∀ c, s'.metrics.observables.counter c = s.metrics.observables.counter c)
    (hcounted : s'.counted = s.counted)
    (hexporting : ∀ m counters names, s'.tabulation = .exporting m counters names →
      s.tabulation = .exporting m counters names)
    (hunexported : ∀ c key, s'.unexported c key = s.unexported c key)
    (hinFlight : ∀ key, s'.inFlight key = s.inFlight key) : s'.Accounts where
  streams name m hstream := by
    rw [MetricsStore.stream, hmetrics] at hstream
    exact h.streams name m hstream
  exporting m counters names htabulation := h.exporting m counters names (hexporting m counters names htabulation)
  classes key := by
    rw [exported_congr hcounter, exported_congr hcounter, exported_congr hcounter, exported_congr hcounter,
      hinFlight]
    exact h.classes key
  conserved c key := by
    rw [exported_congr hcounter, hunexported, runningOf, hmetrics, countOf, hcounted]
    exact h.conserved c key

/-- A packet is counted in the running counters of its stream. -/
theorem Accounts.counts (h : s.Accounts) {o : Observables} {m m' : StreamMetrics} {branch : Branch}
    (hcounter : ∀ c, o.counter c = s.metrics.observables.counter c)
    (hstream : s.metrics.stream m.mName = some m ∨ s.metrics.stream m.mName = none ∧ ∀ c, m.running c = 0)
    (hkey : m'.mMetricsKey = m.mMetricsKey)
    (hrunning : ∀ c, m'.running c = m.running c + if branch.counts c then 1 else 0) :
    Accounts { s with
      metrics := (MetricsStore.mk s.metrics.map o).setStream m.mName m'
      counted := s.counted ++ [(m.mMetricsKey, branch)] } where
  streams name n hname := by
    rw [MetricsStore.stream_setStream] at hname
    split at hname
    · obtain rfl := Option.some.inj hname
      have hbefore : Consistent m := hstream.elim (h.streams _ m) fun hnew => consistent_of_zero hnew.2
      exact hbefore.counted hrunning
    · exact h.streams name n hname
  exporting := h.exporting
  classes key := by
    have hbefore := h.classes key
    simp only [MetricsStore.exported] at hbefore ⊢
    simp only [MetricsStore.observables_setStream, hcounter]
    exact hbefore
  conserved c key := by
    have hbefore := h.conserved c key
    have hsum := @runningOf_setStream ⟨s.metrics.map, o⟩ m.mName m m' c key
      (hstream.imp_right fun hnew => ⟨hnew.1, hnew.2 c⟩) hkey
    rw [countOf_append]
    have hexported : MetricsStore.exported ((MetricsStore.mk s.metrics.map o).setStream m.mName m') c key =
        s.metrics.exported c key := exported_congr hcounter c key
    rw [hrunning] at hsum
    change _ = runningOf s.metrics c key + _ at hsum
    show MetricsStore.exported ((MetricsStore.mk s.metrics.map o).setStream m.mName m') c key + s.unexported c key +
      runningOf ((MetricsStore.mk s.metrics.map o).setStream m.mName m') c key = _
    rw [hexported]
    by_cases hkey : m.mMetricsKey = key
    · simp only [hkey, if_true] at hsum ⊢
      omega
    · simp only [hkey, if_false] at hsum ⊢
      omega

/-- A stream is reset, and then its counters are still to be exported. -/
theorem Accounts.resets (h : s.Accounts) {name : Str} {names : List Str} {m m' : StreamMetrics}
    (htabulation : s.tabulation = .tabulating (name :: names)) (hstream : s.metrics.stream name = some m)
    (hkey : m'.mMetricsKey = m.mMetricsKey) (hrunning : ∀ c, m'.running c = 0) :
    Accounts { s with metrics := s.metrics.setStream name m', tabulation := .exporting m exportOrder names } where
  streams name' n hname := by
    rw [MetricsStore.stream_setStream] at hname
    split at hname
    · obtain rfl := Option.some.inj hname
      exact consistent_of_zero hrunning
    · exact h.streams name' n hname
  exporting n counters names' hexporting := by
    obtain ⟨rfl, rfl, rfl⟩ := Tabulation.exporting.inj hexporting
    exact ⟨h.streams name m hstream, List.suffix_refl _⟩
  classes key := by
    have hbefore := h.classes key
    rw [inFlight, htabulation] at hbefore
    have hafter : inFlight
        { s with metrics := s.metrics.setStream name m', tabulation := .exporting m exportOrder names } key = 0 := by
      simp [inFlight, exportOrder]
    rw [hafter]
    exact hbefore
  conserved c key := by
    have hbefore := h.conserved c key
    have hsum := @runningOf_setStream s.metrics name m m' c key (.inl hstream) hkey
    have hmem : c ∈ exportOrder := by cases c <;> decide
    rw [hrunning, ite_self] at hsum
    rw [unexported, htabulation] at hbefore
    have hafter : unexported
        { s with metrics := s.metrics.setStream name m', tabulation := .exporting m exportOrder names } c key =
          if m.mMetricsKey = key then m.running c else 0 := by
      simp [unexported, hmem]
    rw [hafter]
    change s.metrics.exported c key + _ + _ = (s.countOf c key : Int)
    dsimp only at hbefore ⊢
    omega

/-- The counter that comes next, and those after it. -/
theorem cons_suffix_exportOrder {c : Counter} {counters : List Counter} (h : c :: counters <:+ exportOrder) :
    c = .good ∧ counters = [.future, .expired, .total] ∨ c = .future ∧ counters = [.expired, .total] ∨
      c = .expired ∧ counters = [.total] ∨ c = .total ∧ counters = [] := by
  simpa [exportOrder, List.suffix_cons_iff] using h

/-- A counter of the stream is exported. -/
theorem Accounts.exports (h : s.Accounts) {m : StreamMetrics} {c : Counter} {counters : List Counter}
    {names : List Str} (htabulation : s.tabulation = .exporting m (c :: counters) names) :
    Accounts { s with
      metrics := { s.metrics with
        observables := s.metrics.observables.addOrAssign c m.mMetricsKey (m.running c) }
      tabulation := .exporting m counters names } where
  streams := h.streams
  exporting n counters' names' hexporting := by
    obtain ⟨rfl, rfl, rfl⟩ := Tabulation.exporting.inj hexporting
    obtain ⟨hconsistent, hsuffix⟩ := h.exporting m (c :: counters) names htabulation
    exact ⟨hconsistent, (List.suffix_cons c counters).trans hsuffix⟩
  classes key := by
    have hbefore := h.classes key
    obtain ⟨hconsistent, hsuffix⟩ := h.exporting m (c :: counters) names htabulation
    have hclasses := hconsistent.classes
    simp only [exported_addOrAssign, inFlight]
    rw [inFlight, htabulation] at hbefore
    rcases cons_suffix_exportOrder hsuffix with ⟨rfl, rfl⟩ | ⟨rfl, rfl⟩ | ⟨rfl, rfl⟩ | ⟨rfl, rfl⟩ <;>
      by_cases hkey : m.mMetricsKey = key <;>
      simp [hkey, @eq_comm _ key] at hbefore ⊢ <;> omega
  conserved c' key := by
    have hbefore := h.conserved c' key
    obtain ⟨_, hsuffix⟩ := h.exporting m (c :: counters) names htabulation
    have hnotMem : c ∉ counters := (List.nodup_cons.mp (hsuffix.sublist.nodup (by decide))).1
    show MetricsStore.exported { s.metrics with
        observables := s.metrics.observables.addOrAssign c m.mMetricsKey (m.running c) } c' key +
      (if m.mMetricsKey = key ∧ c' ∈ counters then m.running c' else 0) + runningOf s.metrics c' key = s.countOf c' key
    rw [exported_addOrAssign, ← hbefore, unexported, htabulation]
    dsimp only
    by_cases hkey : m.mMetricsKey = key
    · by_cases hcounter : c' = c
      · simp [hkey, hcounter, hnotMem]
      · simp [hkey, hcounter]
    · simp [hkey, @eq_comm _ key]

theorem Accounts.step (h : s.Accounts) (hstep : Step source s s') : s'.Accounts := by
  cases hstep with
  | waited => exact h
  | called | found | missed | left => exact ⟨h.streams, h.exporting, h.classes, h.conserved⟩
  | failed o hcounter htabulation =>
    exact h.congr rfl hcounter rfl (fun _ _ _ => id) (fun _ _ => rfl) fun _ => rfl
  | began metrics names hstreams hobservables htabulation =>
    refine h.congr hstreams (fun c => by rw [hobservables]) rfl (fun _ _ _ h => nomatch h) (fun c key => ?_)
      fun key => ?_
    · simp only [unexported, htabulation]
    · simp only [inFlight, htabulation]
  | skipped name names htabulation | finished htabulation =>
    refine h.congr rfl (fun _ => rfl) rfl (fun _ _ _ h => nomatch h) (fun c key => ?_) fun key => ?_
    · simp only [unexported, htabulation]
    · simp only [inFlight, htabulation]
  | gauged m names o hcounter htabulation =>
    refine h.congr rfl hcounter rfl (fun _ _ _ h => nomatch h) (fun c key => ?_) fun key => ?_
    · simp [unexported, htabulation]
    · simp [inFlight, htabulation]
  | counted o m m' branch hcounter hstream hkey hrunning htabulation =>
    exact h.counts hcounter hstream hkey hrunning
  | reset name names m m' htabulation hstream hkey hrunning => exact h.resets htabulation hstream hkey hrunning
  | exported m c counters names htabulation => exact h.exports htabulation

/-! ### What is observed -/

/-- Nothing that was exported is taken back. -/
theorem exported_le_of_step (h : s.Accounts) (hstep : Step source s s') (c : Counter) (key : Str) :
    s.metrics.exported c key ≤ s'.metrics.exported c key := by
  cases hstep with
  | failed o hcounter | gauged _ _ o hcounter | counted o _ _ _ hcounter => exact (exported_congr hcounter c key).ge
  | began metrics names _ hobservables =>
    exact (exported_congr (fun c => by rw [hobservables]) c key).ge
  | exported m c' counters names htabulation =>
    have hnonneg := (h.exporting m (c' :: counters) names htabulation).1.nonneg c'
    rw [exported_addOrAssign]
    split <;> omega
  | _ => exact Int.le_refl _

/-- A key that is in a map stays there. -/
theorem get_addOrAssign_isSome {m : ObservableMap} {key : Str} (key' : Str) (value : Int)
    (h : (m.get key).isSome = true) : ((m.addOrAssign key' value).get key).isSome = true := by
  rw [ObservableMap.get] at h
  unfold ObservableMap.addOrAssign ObservableMap.get
  by_cases hkey : key = key'
  · subst hkey
    split <;> simp
  · split <;> simpa [hkey] using h

theorem get_isSome_of_step (hstep : Step source s s') {c : Counter} {key : Str}
    (h : ((s.metrics.observables.counter c).get key).isSome = true) :
    ((s'.metrics.observables.counter c).get key).isSome = true := by
  cases hstep with
  | failed o hcounter | gauged _ _ o hcounter | counted o _ _ _ hcounter =>
    rw [← hcounter c] at h
    exact h
  | began metrics names _ hobservables =>
    rw [← hobservables] at h
    exact h
  | exported m c' counters names htabulation =>
    dsimp only
    rw [counter_addOrAssign]
    split
    · exact get_addOrAssign_isSome m.mMetricsKey _ h
    · exact h
  | _ => exact h

/-- What the callbacks have read so far. -/
structure Reads (s : ObservedCounters) : Prop where
  found : s.notFound = []
  keys : ∀ c keys, s.callback = .observing c keys →
    ∀ key ∈ keys, ((s.metrics.observables.counter c).get key).isSome = true
  nonneg : ∀ c key, 0 ≤ s.metrics.exported c key
  ordered : ∀ c key, (s.observed c key).Pairwise (· ≤ ·)
  bounded : ∀ c key, ∀ value ∈ s.observed c key, 0 ≤ value ∧ value ≤ s.metrics.exported c key

/-- A step that observes nothing. -/
theorem Reads.frame (h : s.Reads) (haccounts : s.Accounts) (hstep : Step source s s')
    (hobservations : s'.observations = s.observations) (hfound : s'.notFound = [])
    (hkeys : ∀ c keys, s'.callback = .observing c keys →
      ∀ key ∈ keys, ((s.metrics.observables.counter c).get key).isSome = true) : s'.Reads where
  found := hfound
  keys c keys hcallback key hkey := get_isSome_of_step hstep (hkeys c keys hcallback key hkey)
  nonneg c key := (h.nonneg c key).trans (exported_le_of_step haccounts hstep c key)
  ordered c key := by
    rw [observed, hobservations]
    exact h.ordered c key
  bounded c key value hvalue := by
    rw [observed, hobservations] at hvalue
    obtain ⟨hnonneg, hle⟩ := h.bounded c key value hvalue
    exact ⟨hnonneg, hle.trans (exported_le_of_step haccounts hstep c key)⟩

theorem observed_append (o : Observation) (callback : Callback) (c : Counter) (key : Str) :
    observed { s with observations := s.observations ++ [o], callback } c key =
      s.observed c key ++ if o.counter = c ∧ o.stream = key then [o.value] else [] := by
  rw [observed, observed, List.filter_append, List.map_append]
  congr 1
  by_cases hsame : o.counter = c ∧ o.stream = key <;> simp [hsame]

theorem mem_new {o : Observation} {c : Counter} {key : Str} {value : Int}
    (h : value ∈ if o.counter = c ∧ o.stream = key then [o.value] else []) :
    (o.counter = c ∧ o.stream = key) ∧ value = o.value := by
  split at h
  · next hsame => exact ⟨hsame, List.mem_singleton.mp h⟩
  · cases h

theorem exported_of_get {metrics : MetricsStore} {c : Counter} {key : Str} {value : Int}
    (h : (metrics.observables.counter c).get key = some value) : metrics.exported c key = value := by
  rw [MetricsStore.exported, ObservableMap.count, h]
  rfl

/-- A callback reads the counter of the next key. -/
theorem Reads.reads (h : s.Reads) {counter : Counter} {key : Str} {keys : List Str} {value : Int}
    (hcallback : s.callback = .observing counter (key :: keys))
    (hvalue : (s.metrics.observables.counter counter).get key = some value) :
    Reads { s with
      observations := s.observations ++ [observation source counter key value]
      callback := .observing counter keys } where
  found := h.found
  keys c keys' hafter key' hkey' := by
    obtain ⟨rfl, rfl⟩ := Callback.observing.inj hafter
    exact h.keys counter (key :: keys) hcallback key' (List.mem_cons_of_mem key hkey')
  nonneg := h.nonneg
  ordered c key' := by
    rw [observed_append, List.pairwise_append]
    refine ⟨h.ordered c key', ?_, fun earlier hearlier later hlater => ?_⟩
    · split <;> simp
    · obtain ⟨⟨rfl, rfl⟩, rfl⟩ := mem_new hlater
      exact (h.bounded _ _ earlier hearlier).2.trans (exported_of_get hvalue).le
  bounded c key' value' hmem := by
    rw [observed_append, List.mem_append] at hmem
    rcases hmem with hearlier | hnew
    · exact h.bounded c key' value' hearlier
    · obtain ⟨⟨rfl, rfl⟩, rfl⟩ := mem_new hnew
      have hexported := exported_of_get hvalue
      exact ⟨(h.nonneg _ _).trans hexported.le, hexported.ge⟩

theorem Reads.step (h : s.Reads) (haccounts : s.Accounts) (hstep : Step source s s') : s'.Reads := by
  have hframe := h.frame haccounts hstep
  cases hstep with
  | waited => exact h
  | called counter =>
    refine hframe rfl h.found fun c keys hcallback key hkey => ?_
    obtain ⟨rfl, rfl⟩ := Callback.observing.inj hcallback
    exact StdMap.mem_keysInOrder.mp hkey
  | found counter key keys value hcallback hvalue =>
    exact h.reads hcallback hvalue
  | missed counter key keys hcallback hnone =>
    have hfound := h.keys counter (key :: keys) hcallback key List.mem_cons_self
    rw [hnone] at hfound
    cases hfound
  | left => exact hframe rfl h.found fun _ _ hidle => nomatch hidle
  | _ => exact hframe rfl h.found h.keys

/-! ### Whole runs -/

theorem exported_start (started : Int) (c : Counter) (key : Str) : (start started).metrics.exported c key = 0 := by
  cases c <;> rfl

theorem accounts_start (started : Int) : (start started).Accounts where
  streams _ _ hstream := nomatch hstream
  exporting _ _ _ hexporting := nomatch hexporting
  classes key := by
    simp only [exported_start]
    exact Int.le_refl _
  conserved c key := by
    rw [exported_start]
    rfl

theorem reads_start (started : Int) : (start started).Reads where
  found := rfl
  keys _ _ hcallback := nomatch hcallback
  nonneg c key := (exported_start started c key).ge
  ordered _ _ := List.Pairwise.nil
  bounded _ _ _ hvalue := nomatch hvalue

theorem accounts_and_reads {started : Int} {events : List TelemetryEvent}
    (hrun : exec (next source) (start started) events = some s) : s.Accounts ∧ s.Reads :=
  have hstep (before : ObservedCounters) (e : TelemetryEvent) (after : ObservedCounters)
      (hbefore : before.Accounts ∧ before.Reads) (hnext : next source before e = some after) :
      after.Accounts ∧ after.Reads :=
    ⟨hbefore.1.step (step_of_next hnext), hbefore.2.step hbefore.1 (step_of_next hnext)⟩
  invariant hstep ⟨accounts_start started, reads_start started⟩ hrun

theorem runningOf_nonneg (h : s.Accounts) (c : Counter) (key : Str) : 0 ≤ runningOf s.metrics c key := by
  refine AListSum.total_nonneg fun name m hstream => ?_
  have hnonneg := (h.streams name m hstream).nonneg c
  split <;> omega

theorem unexported_nonneg (h : s.Accounts) (c : Counter) (key : Str) : 0 ≤ s.unexported c key := by
  unfold unexported
  split
  · next m counters names htabulation =>
    have hnonneg := (h.exporting m counters names htabulation).1.nonneg c
    split <;> omega
  · exact Int.le_refl _

theorem exported_le_countOf (h : s.Accounts) (c : Counter) (key : Str) :
    s.metrics.exported c key ≤ s.countOf c key := by
  have hconserved := h.conserved c key
  have hrunning := runningOf_nonneg h c key
  have hunexported := unexported_nonneg h c key
  omega

/-- The classes that were exported are packets that were counted, though their total may still be unexported. -/
theorem exported_classes_le (h : s.Accounts) (key : Str) :
    s.metrics.exported .good key + s.metrics.exported .future key + s.metrics.exported .expired key ≤
      s.countOf .total key := by
  have hclasses := h.classes key
  have hconserved := h.conserved .total key
  have hrunning := runningOf_nonneg h .total key
  have hinFlight : s.inFlight key ≤ s.unexported .total key := by
    unfold inFlight unexported
    split
    · next m counters names htabulation =>
      obtain ⟨hconsistent, hsuffix⟩ := h.exporting m counters names htabulation
      have hle := hconsistent.classes
      have hgood := hconsistent.nonneg .good
      have hfuture := hconsistent.nonneg .future
      have hexpired := hconsistent.nonneg .expired
      split
      · simp only [List.map_cons, List.map_nil, List.sum_cons, List.sum_nil]
        split <;> split <;> split <;> omega
      · exact Int.le_refl _
    · exact Int.le_refl _
  omega

/-- However the callbacks and the metrics thread take turns: a callback finds every key of its snapshot. What the
telemetry is given of a counter never decreases, and is at most what was exported. What was exported, what a
tabulation is about to export and what is running are together the packets that were counted, and those of the
classes are never more than the packets. -/
theorem observations_sound (source : Str) (started : Int) (events : List TelemetryEvent) (s : ObservedCounters)
    (hrun : exec (next source) (start started) events = some s) :
    s.notFound = [] ∧
      (∀ c key, (s.observed c key).Pairwise (· ≤ ·) ∧
        ∀ value ∈ s.observed c key, 0 ≤ value ∧ value ≤ s.metrics.exported c key) ∧
      (∀ c key, s.metrics.exported c key + s.unexported c key + runningOf s.metrics c key = s.countOf c key ∧
        s.metrics.exported c key ≤ s.countOf c key) ∧
      ∀ key good future expired, good ∈ s.observed .good key → future ∈ s.observed .future key →
        expired ∈ s.observed .expired key → good + future + expired ≤ s.countOf .total key := by
  obtain ⟨haccounts, hreads⟩ := accounts_and_reads hrun
  refine ⟨hreads.found, fun c key => ⟨hreads.ordered c key, hreads.bounded c key⟩,
    fun c key => ⟨haccounts.conserved c key, exported_le_countOf haccounts c key⟩,
    fun key good future expired hgood hfuture hexpired => ?_⟩
  have hgoodLe := (hreads.bounded .good key good hgood).2
  have hfutureLe := (hreads.bounded .future key future hfuture).2
  have hexpiredLe := (hreads.bounded .expired key expired hexpired).2
  have hclasses := exported_classes_le haccounts key
  omega

/-! ### Without a callback in between -/

/-- The steps that tabulate a stream. -/
def streamSteps : List TelemetryEvent := .tabulateNext :: List.replicate 5 .exportNext

theorem exec_streamSteps {name : Str} {names : List Str} {m : StreamMetrics}
    (htabulation : s.tabulation = .tabulating (name :: names)) (hstream : s.metrics.stream name = some m) :
    exec (next source) s streamSteps =
      some { s with metrics := s.metrics.tabulateStream name, tabulation := .tabulating names } := by
  have htabulated : s.metrics.tabulateStream name =
      (MetricsStore.mk s.metrics.map
        (m.tabulateAndResetMetrics s.metrics.map.mSampleInterval s.metrics.observables).2).setStream name
        (m.tabulateAndResetMetrics s.metrics.map.mSampleInterval s.metrics.observables).1 := by
    rw [MetricsStore.tabulateStream, hstream]
  rw [htabulated]
  simp only [streamSteps, exec, next, tabulate, htabulation, hstream, exportOrder, List.replicate]
  rfl

theorem stream_tabulateStream_isSome {metrics : MetricsStore} {name : Str} (name' : Str)
    (h : (metrics.stream name).isSome = true) : ((metrics.tabulateStream name').stream name).isSome = true := by
  rw [MetricsStore.tabulateStream]
  split
  · exact h
  · dsimp only
    rw [MetricsStore.stream_setStream]
    split
    · rfl
    · exact h

/-- The steps that tabulate streams, and the one that leaves the loop. -/
def tabulationSteps (names : List Str) : List TelemetryEvent :=
  (names.flatMap fun _ => streamSteps) ++ [.tabulateNext]

theorem exec_tabulationSteps {names : List Str} (htabulation : s.tabulation = .tabulating names)
    (hstreams : ∀ name ∈ names, (s.metrics.stream name).isSome = true) :
    exec (next source) s (tabulationSteps names) =
      some { s with metrics := names.foldl MetricsStore.tabulateStream s.metrics, tabulation := .receiving } := by
  induction names generalizing s with
  | nil => simp [tabulationSteps, exec, next, tabulate, htabulation]
  | cons name names ih =>
    obtain ⟨m, hstream⟩ := Option.isSome_iff_exists.mp (hstreams name List.mem_cons_self)
    have hrest := @ih { s with metrics := s.metrics.tabulateStream name, tabulation := .tabulating names } rfl
      fun name' hname' => stream_tabulateStream_isSome name (hstreams name' (List.mem_cons_of_mem name hname'))
    rw [tabulationSteps, List.flatMap_cons, List.append_assoc, exec_append]
    exact ⟨_, exec_streamSteps htabulation hstream, hrest⟩

/-- A tabulation that is due, step by step, is `tabulateAndResetAllMetrics`. -/
theorem tabulation_refines {now : Int} (hreceiving : s.tabulation = .receiving) (hdue : s.metrics.due now = true) :
    exec (next source) s (.tabulate now :: tabulationSteps s.metrics.map.mMetrics.keysInOrder) =
      some { s with metrics := s.metrics.tabulateAndResetAllMetrics now } := by
  let began : ObservedCounters := { s with
    metrics := s.metrics.setSampleTime now
    tabulation := .tabulating s.metrics.map.mMetrics.keysInOrder }
  have hbegins : next source s (.tabulate now) = some began := by
    simp [next, tabulate, hreceiving, hdue, began]
  have hsteps : exec (next source) began (tabulationSteps s.metrics.map.mMetrics.keysInOrder) =
      some { s with metrics := s.metrics.tabulateAndResetAllMetrics now } := by
    have hstreams : ∀ name ∈ s.metrics.map.mMetrics.keysInOrder, (began.metrics.stream name).isSome = true :=
      fun name hname => StdMap.mem_keysInOrder.mp hname
    rw [exec_tabulationSteps (s := began) rfl hstreams, MetricsStore.tabulateAndResetAllMetrics, if_pos hdue,
      ← hreceiving]
  exact exec_cons_eq_some.mpr ⟨began, hbegins, hsteps⟩

/-- The known packet, its tabulation while a callback reads the totals, and a second callback. -/
def knownEvents : List TelemetryEvent :=
  [.update (knownPacket .integer32 [5]) 1759952900000000 1759952900000000, .tabulate 1759952900000001] ++
    streamSteps.dropLast ++ [.observe .total true, .lookUp, .lookUp, .exportNext, .tabulateNext,
    .observe .good true, .lookUp, .lookUp]

/-- A packet is observed. -/
theorem observations_sound_known :
    ∃ s, exec (next knownName) (start 0) knownEvents = some s ∧ s.notFound = [] ∧
      s.observations.map (·.value) = [1, 1] := by
  have hrun : (exec (next knownName) (start 0) knownEvents).map (fun s => s.observations.map (·.value)) =
      some [1, 1] := by
    decide +kernel
  obtain ⟨s, hexec, hdata⟩ := Option.map_eq_some_iff.mp hrun
  exact ⟨s, hexec, (observations_sound knownName 0 knownEvents s hexec).1, hdata⟩

end ObservedCounters

end USEEDLinkToRingServer
