import USEEDLinkToRingServer.Packet

/-!
# Stream metrics

Packets are counted per stream. `StreamMetrics` counts into running counters of its own, and a tabulation
moves these into maps that all streams share and the telemetry reads. `MetricsMap` makes a stream's
metrics when its first packet comes, and the constructor counts that packet.

A clock is read twice in an update: `now` before the packet is classified and `later` when it is counted.
-/

namespace USEEDLinkToRingServer

/-! ### The maps the telemetry reads -/

structure ObservableMap where
  mMap : StdMap Int := ∅

namespace ObservableMap

def addOrAssign (m : ObservableMap) (key : Str) (value : Int) : ObservableMap :=
  match m.mMap.lookup key with
  | some held => { mMap := m.mMap.insert key (held + value) }
  | none => { mMap := m.mMap.insert key value }

def keys (m : ObservableMap) : List Str := m.mMap.keysInOrder

/-- `operator[]` gives a copy, so an assignment to its result changes nothing. -/
def get (m : ObservableMap) (key : Str) : Option Int := m.mMap.lookup key

/-- What was exported under a key so far. -/
def count (m : ObservableMap) (key : Str) : Int := (m.get key).getD 0

@[simp] theorem count_addOrAssign (m : ObservableMap) (key key' : Str) (value : Int) :
    (m.addOrAssign key value).count key' = m.count key' + if key' = key then value else 0 := by
  unfold addOrAssign
  by_cases hkey : key' = key
  · subst hkey
    cases hheld : m.mMap.lookup key' with
    | none => simp [count, get, hheld]
    | some held => simp [count, get, hheld]
  · cases m.mMap.lookup key with
    | none => simp [count, get, hkey]
    | some held => simp [count, get, hkey]

end ObservableMap

/-- A standard deviation: the square root of the variance is kept as the variance, which the root is
taken of if it is positive. -/
structure StandardDeviation where
  besselCorrection : ℚ := 1
  varianceOfCounts : ℚ := 0

structure Observables where
  mObservablePacketsReceived : ObservableMap := {}
  mObservableFuturePacketsReceived : ObservableMap := {}
  mObservableExpiredPacketsReceived : ObservableMap := {}
  mObservableTotalPacketsReceived : ObservableMap := {}
  mObservableAverageLatency : StdMap ℚ := ∅
  mObservableAverageCounts : StdMap ℚ := ∅
  mObservableStandardDeviationOfCounts : StdMap StandardDeviation := ∅

/-- The assignments of the constructor of `StreamMetrics`: those to the counters do nothing. -/
def Observables.zeroGauges (o : Observables) (key : Str) : Observables :=
  { o with
    mObservableAverageLatency := o.mObservableAverageLatency.insert key 0
    mObservableAverageCounts := o.mObservableAverageCounts.insert key 0
    mObservableStandardDeviationOfCounts :=
      o.mObservableStandardDeviationOfCounts.insert key {} }

/-! ### One stream -/

structure StreamMetrics where
  mName : Str
  mMetricsKey : Str
  mLastUpdate : Int := 0
  mLatency : Int := 0
  mRunningLatencySum : Int := 0
  mMostRecentSample : Int := 0
  mRunningSum : ℚ := 0
  mRunningSumSquared : ℚ := 0
  mRunningPacketsCounter : Int := 0
  mRunningFuturePacketsCounter : Int := 0
  mRunningExpiredPacketsCounter : Int := 0
  mRunningTotalPacketsCounter : Int := 0
  mRunningSamplesCounter : Int := 0

/-- The name the metrics of a packet are filed under. -/
def packetName (packet : Packet) : Except Exception Str := do
  (← packet.getStreamIdentifierReference).getStringReference

/-- The name the metrics of a stream are exported under. -/
def metricsKey (id : StreamIdentifier) : Except Exception Str := do
  let key := (← id.getNetwork) ++ '_' :: (← id.getStation) ++ '_' :: (← id.getChannel)
  if id.hasLocationCode then
    let locationCode ← id.getLocationCode
    if !locationCode.isEmpty then return (key ++ '_' :: locationCode).map tolower
  return key.map tolower

/-- The four branches of `StreamMetrics::update`. -/
inductive Branch
  | good
  | future
  | expired
  | late
deriving DecidableEq, Repr

/-- The branch for a packet that ends at `endTime`. -/
def Branch.of (mostRecentSample endTime now : Int) : Branch :=
  if endTime > mostRecentSample ∧ endTime ≤ now then .good
  else if endTime > now then .future
  else if endTime < now - months 6 then .expired
  else .late

namespace StreamMetrics

/-- The metrics before the constructor has counted the packet. -/
def named (packet : Packet) : Except Exception StreamMetrics := do
  let streamIdentifier ← packet.getStreamIdentifierReference
  let name ← streamIdentifier.getStringReference
  return { mName := name, mMetricsKey := ← metricsKey streamIdentifier }

/-- The number of samples, their sum and the sum of their squares. A text counts for nothing. -/
def statistics (packet : Packet) : Except Exception (Int × ℚ × ℚ) :=
  if packet.getDataType = .integer32 ∨ packet.getDataType = .double ∨ packet.getDataType = .float then do
    return (packet.getNumberOfSamples, ← computeSumOfSamples packet, ← computeSumOfSamplesSquared packet)
  else .ok (0, 0, 0)

/-- The part of `update` that cannot fail. -/
def count (m : StreamMetrics) (packet : Packet) (endTime now later : Int) : StreamMetrics :=
  match Branch.of m.mMostRecentSample endTime now with
  | .good =>
    let m' := { m with mLastUpdate := later, mMostRecentSample := endTime, mLatency := later - endTime }
    match statistics packet with
    | .ok (nSamples, packetSum, packetSum2) =>
      { m' with
        mRunningPacketsCounter := m.mRunningPacketsCounter + 1
        mRunningTotalPacketsCounter := m.mRunningTotalPacketsCounter + 1
        mRunningSamplesCounter := m.mRunningSamplesCounter + nSamples
        mRunningSum := m.mRunningSum + packetSum
        mRunningLatencySum := m.mRunningLatencySum + (later - endTime)
        mRunningSumSquared := m.mRunningSumSquared + packetSum2 }
    | .error _ => m'
  | .future =>
    { m with
      mRunningFuturePacketsCounter := m.mRunningFuturePacketsCounter + 1
      mRunningTotalPacketsCounter := m.mRunningTotalPacketsCounter + 1
      mLastUpdate := later }
  | .expired =>
    { m with
      mRunningExpiredPacketsCounter := m.mRunningExpiredPacketsCounter + 1
      mRunningTotalPacketsCounter := m.mRunningTotalPacketsCounter + 1
      mLastUpdate := later }
  | .late =>
    { m with
      mRunningTotalPacketsCounter := m.mRunningTotalPacketsCounter + 1
      mLastUpdate := later }

def update (m : StreamMetrics) (packet : Packet) (now later : Int) : Except Exception StreamMetrics := do
  if (← packetName packet) ≠ m.mName then throw (.runtimeError "Inconsistent names")
  let endTime := toMicroseconds (← packet.getEndTime)
  return m.count packet endTime now later

/-- The constructor. The gauges keep their zeros if the packet cannot be counted. -/
def construct (packet : Packet) (now later : Int) (o : Observables) :
    Observables × Except Exception StreamMetrics :=
  match named packet with
  | .error e => (o, .error e)
  | .ok m => (o.zeroGauges m.mMetricsKey, m.update packet now later)

/-- The counters start again at zero, and what they held is added to what was exported. -/
def tabulateAndResetMetrics (m : StreamMetrics) (sampleInterval : Int) (o : Observables) :
    StreamMetrics × Observables :=
  let besselCorrection : ℚ :=
    if m.mRunningSamplesCounter > 1 then m.mRunningSamplesCounter / (m.mRunningSamplesCounter - 1) else 1
  let averageCounts : ℚ :=
    if m.mRunningSamplesCounter > 0 then m.mRunningSum / m.mRunningSamplesCounter else 0
  let varianceOfCounts : ℚ :=
    if m.mRunningSamplesCounter > 0 then
      m.mRunningSumSquared / m.mRunningSamplesCounter - averageCounts * averageCounts
    else 0
  let averageLatency : ℚ :=
    if m.mRunningPacketsCounter > 0 then m.mRunningLatencySum / 1000000 / m.mRunningPacketsCounter
    else sampleInterval
  ({ m with
     mRunningSum := 0
     mRunningSumSquared := 0
     mRunningSamplesCounter := 0
     mRunningLatencySum := 0
     mRunningPacketsCounter := 0
     mRunningExpiredPacketsCounter := 0
     mRunningFuturePacketsCounter := 0
     mRunningTotalPacketsCounter := 0 },
   { mObservablePacketsReceived :=
       o.mObservablePacketsReceived.addOrAssign m.mMetricsKey m.mRunningPacketsCounter
     mObservableFuturePacketsReceived :=
       o.mObservableFuturePacketsReceived.addOrAssign m.mMetricsKey m.mRunningFuturePacketsCounter
     mObservableExpiredPacketsReceived :=
       o.mObservableExpiredPacketsReceived.addOrAssign m.mMetricsKey m.mRunningExpiredPacketsCounter
     mObservableTotalPacketsReceived :=
       o.mObservableTotalPacketsReceived.addOrAssign m.mMetricsKey m.mRunningTotalPacketsCounter
     mObservableAverageLatency := o.mObservableAverageLatency.insert m.mMetricsKey averageLatency
     mObservableAverageCounts := o.mObservableAverageCounts.insert m.mMetricsKey averageCounts
     mObservableStandardDeviationOfCounts :=
       o.mObservableStandardDeviationOfCounts.insert m.mMetricsKey ⟨besselCorrection, varianceOfCounts⟩ })

end StreamMetrics

/-! ### All streams -/

structure MetricsMap where
  mMetrics : StdMap StreamMetrics := ∅
  mLastSampleTime : Int
  mSampleInterval : Int := 60

/-- The map with the observables it exports to. -/
structure MetricsStore where
  map : MetricsMap
  observables : Observables := {}

namespace MetricsStore

/-- The metrics of a stream. -/
def stream (s : MetricsStore) (name : Str) : Option StreamMetrics := s.map.mMetrics.lookup name

def setStream (s : MetricsStore) (name : Str) (m : StreamMetrics) : MetricsStore :=
  { s with map := { s.map with mMetrics := s.map.mMetrics.insert name m } }

/-- `MetricsMap::update`. -/
def update (s : MetricsStore) (packet : Packet) (now later : Int) : MetricsStore × Except Exception Unit :=
  match packetName packet with
  | .error e => (s, .error e)
  | .ok identifier =>
    match s.stream identifier with
    | none =>
      match StreamMetrics.construct packet now later s.observables with
      | (o, .error e) => ({ s with observables := o }, .error e)
      | (o, .ok m) => ({ s with observables := o }.setStream identifier m, .ok ())
    | some m =>
      match m.update packet now later with
      | .error e => (s, .error e)
      | .ok m' => (s.setStream identifier m', .ok ())

/-- One pass of the loop over the streams. -/
def tabulateStream (s : MetricsStore) (name : Str) : MetricsStore :=
  match s.stream name with
  | none => s
  | some m =>
    let (m', o) := m.tabulateAndResetMetrics s.map.mSampleInterval s.observables
    { s with observables := o }.setStream name m'

/-- A tabulation is due when more than the sample interval has passed since the last one. -/
def due (s : MetricsStore) (now : Int) : Bool := now > s.map.mLastSampleTime + seconds s.map.mSampleInterval

def setSampleTime (s : MetricsStore) (now : Int) : MetricsStore :=
  { s with map := { s.map with mLastSampleTime := now } }

/-- `MetricsMap::tabulateAndResetAllMetrics`. -/
def tabulateAndResetAllMetrics (s : MetricsStore) (now : Int) : MetricsStore :=
  if s.due now then s.map.mMetrics.keysInOrder.foldl tabulateStream (s.setSampleTime now) else s

end MetricsStore

/-! ### The four counters -/

/-- What is counted per stream. -/
inductive Counter
  | total
  | good
  | future
  | expired
deriving DecidableEq, Repr

/-- The counters a branch increments. -/
def Branch.counts : Branch → Counter → Bool
  | _, .total => true
  | .good, .good => true
  | .future, .future => true
  | .expired, .expired => true
  | _, _ => false

@[simp] theorem Branch.counts_total (b : Branch) : b.counts .total = true := by
  cases b <;> rfl

def Observables.counter (o : Observables) : Counter → ObservableMap
  | .total => o.mObservableTotalPacketsReceived
  | .good => o.mObservablePacketsReceived
  | .future => o.mObservableFuturePacketsReceived
  | .expired => o.mObservableExpiredPacketsReceived

def StreamMetrics.running (m : StreamMetrics) : Counter → Int
  | .total => m.mRunningTotalPacketsCounter
  | .good => m.mRunningPacketsCounter
  | .future => m.mRunningFuturePacketsCounter
  | .expired => m.mRunningExpiredPacketsCounter

/-- What was exported of a counter under a key so far. -/
def MetricsStore.exported (s : MetricsStore) (c : Counter) (key : Str) : Int :=
  (s.observables.counter c).count key

namespace StreamMetrics

variable {m m' : StreamMetrics} {packet : Packet} {endTime now later : Int}

/-- The statistics of a packet can always be computed: texts are not summed, and a packet without a
type has no samples. -/
theorem statistics_isOk (packet : Packet) : ∃ sums, statistics packet = .ok sums := by
  unfold statistics
  split
  · next htype =>
    have hsummed : packet.getDataType ≠ .text ∧ packet.getDataType ≠ .unknown := by
      constructor <;> intro heq <;> simp [heq] at htype
    obtain ⟨sum, hsum⟩ := accumulateSamples_isOk (fun x => x) "Cannot compute sum of text data" hsummed
    obtain ⟨squares, hsquares⟩ :=
      accumulateSamples_isOk (fun x => x * x) "Cannot compute sum squared of text data" hsummed
    refine ⟨(packet.getNumberOfSamples, sum, squares), ?_⟩
    rw [computeSumOfSamples, computeSumOfSamplesSquared, hsum, hsquares]
    rfl
  · exact ⟨_, rfl⟩

/-- A packet is counted in the counters of its branch, once in each. -/
theorem count_running (c : Counter) :
    (m.count packet endTime now later).running c =
      m.running c + if (Branch.of m.mMostRecentSample endTime now).counts c then 1 else 0 := by
  obtain ⟨sums, hsums⟩ := statistics_isOk packet
  unfold count
  cases Branch.of m.mMostRecentSample endTime now <;> cases c <;>
    simp [hsums, running, Branch.counts]

@[simp] theorem count_names :
    (m.count packet endTime now later).mName = m.mName ∧
      (m.count packet endTime now later).mMetricsKey = m.mMetricsKey := by
  obtain ⟨sums, hsums⟩ := statistics_isOk packet
  unfold count
  cases Branch.of m.mMostRecentSample endTime now <;> simp [hsums]

/-- Only good packets move the most recent sample. -/
theorem count_mMostRecentSample :
    (m.count packet endTime now later).mMostRecentSample =
      if Branch.of m.mMostRecentSample endTime now = .good then endTime else m.mMostRecentSample := by
  obtain ⟨sums, hsums⟩ := statistics_isOk packet
  unfold count
  cases Branch.of m.mMostRecentSample endTime now <;> simp [hsums]

theorem update_eq_ok :
    m.update packet now later = .ok m' ↔
      packetName packet = .ok m.mName ∧ ∃ time, packet.getEndTime = .ok time ∧
        m' = m.count packet (toMicroseconds time) now later := by
  unfold update
  cases hname : packetName packet with
  | error e => simp [bind, Except.bind]
  | ok name =>
    by_cases heq : name = m.mName
    · cases htime : packet.getEndTime with
      | error e => simp [bind, Except.bind, heq]
      | ok time => simp [bind, Except.bind, pure, Except.pure, heq, eq_comm]
    · simp [bind, Except.bind, throw, throwThe, MonadExceptOf.throw, heq]

theorem named_eq_ok :
    named packet = .ok m ↔
      ∃ id name key, packet.getStreamIdentifierReference = .ok id ∧ id.getStringReference = .ok name ∧
        metricsKey id = .ok key ∧ m = { mName := name, mMetricsKey := key } := by
  unfold named
  cases hid : packet.getStreamIdentifierReference with
  | error e => simp [bind, Except.bind]
  | ok id =>
    cases hname : id.getStringReference with
    | error e => simp [bind, Except.bind, hname]
    | ok name =>
      cases hkey : metricsKey id with
      | error e => simp [bind, Except.bind, hname, hkey]
      | ok key => simp [bind, Except.bind, pure, Except.pure, hname, hkey, eq_comm]

/-- New metrics have the name of their packet and have counted nothing. -/
theorem named_fresh (h : named packet = .ok m) :
    packetName packet = .ok m.mName ∧ m.mMostRecentSample = 0 ∧ ∀ c, m.running c = 0 := by
  obtain ⟨id, name, key, hid, hname, _, rfl⟩ := named_eq_ok.mp h
  refine ⟨?_, rfl, fun c => ?_⟩
  · simp [packetName, hid, hname, bind, Except.bind]
  · cases c <;> rfl

variable {sampleInterval : Int} {o : Observables}

theorem tabulate_running (c : Counter) :
    (m.tabulateAndResetMetrics sampleInterval o).1.running c = 0 := by
  cases c <;> rfl

theorem tabulate_counter (c : Counter) :
    (m.tabulateAndResetMetrics sampleInterval o).2.counter c =
      (o.counter c).addOrAssign m.mMetricsKey (m.running c) := by
  cases c <;> rfl

end StreamMetrics

/-! ### The metrics after each operation -/

namespace MetricsStore

variable {s : MetricsStore} {packet : Packet} {now later : Int}

@[simp] theorem stream_setStream (name name' : Str) (m : StreamMetrics) :
    (s.setStream name m).stream name' = if name' = name then some m else s.stream name' := by
  by_cases hname : name' = name
  · subst hname
    simp [stream, setStream]
  · simp [stream, setStream, hname]

@[simp] theorem observables_setStream (name : Str) (m : StreamMetrics) :
    (s.setStream name m).observables = s.observables := rfl

/-- What an update can do: it fails before anything is counted, or it counts the packet in the metrics
of its stream, which are new if there were none. -/
inductive Updated (s : MetricsStore) (packet : Packet) (now later : Int) : MetricsStore × Except Exception Unit → Prop
  | failed (o : Observables) (e : Exception) (hcounter : ∀ c, o.counter c = s.observables.counter c) :
      Updated s packet now later ({ s with observables := o }, .error e)
  | counted (o : Observables) (m : StreamMetrics) (time : Int64)
      (hcounter : ∀ c, o.counter c = s.observables.counter c)
      (hname : packetName packet = .ok m.mName) (htime : packet.getEndTime = .ok time)
      (hstream : s.stream m.mName = some m ∨
        s.stream m.mName = none ∧ StreamMetrics.named packet = .ok m) :
      Updated s packet now later
        ({ s with observables := o }.setStream m.mName
          (m.count packet (toMicroseconds time) now later), .ok ())

theorem update_cases (s : MetricsStore) (packet : Packet) (now later : Int) :
    Updated s packet now later (s.update packet now later) := by
  unfold update
  cases hname : packetName packet with
  | error e => exact .failed s.observables e fun _ => rfl
  | ok identifier =>
    cases hstream : s.stream identifier with
    | none =>
      simp only [hstream, StreamMetrics.construct]
      cases hnew : StreamMetrics.named packet with
      | error e => exact .failed s.observables e fun _ => rfl
      | ok m =>
        have hcounter : ∀ c, (s.observables.zeroGauges m.mMetricsKey).counter c =
            s.observables.counter c := fun c => by cases c <;> rfl
        simp only
        cases hupdate : m.update packet now later with
        | error e => exact .failed _ e hcounter
        | ok m' =>
          obtain ⟨hsame, time, htime, rfl⟩ := StreamMetrics.update_eq_ok.mp hupdate
          obtain rfl : identifier = m.mName := Except.ok.inj (hname.symm.trans hsame)
          exact .counted _ m time hcounter hname htime (.inr ⟨hstream, hnew⟩)
    | some m =>
      simp only [hstream]
      cases hupdate : m.update packet now later with
      | error e => exact .failed s.observables e fun _ => rfl
      | ok m' =>
        obtain ⟨hsame, time, htime, rfl⟩ := StreamMetrics.update_eq_ok.mp hupdate
        obtain rfl : identifier = m.mName := Except.ok.inj (hname.symm.trans hsame)
        exact .counted s.observables m time (fun _ => rfl) hname htime (.inl hstream)

/-- The tabulation of one stream exports its running counters. -/
theorem tabulateStream_of_some {name : Str} {m : StreamMetrics} (h : s.stream name = some m) :
    ∃ m', (∀ c, m'.running c = 0) ∧ m'.mMetricsKey = m.mMetricsKey ∧
      (∀ name', (s.tabulateStream name).stream name' =
        if name' = name then some m' else s.stream name') ∧
      ∀ c, (s.tabulateStream name).observables.counter c =
        (s.observables.counter c).addOrAssign m.mMetricsKey (m.running c) := by
  refine ⟨(m.tabulateAndResetMetrics s.map.mSampleInterval s.observables).1,
    fun c => StreamMetrics.tabulate_running c, rfl, fun name' => ?_, fun c => ?_⟩
  · rw [tabulateStream, h]
    exact stream_setStream name name' _
  · rw [tabulateStream, h]
    exact StreamMetrics.tabulate_counter c

theorem tabulateStream_of_none {name : Str} (h : s.stream name = none) : s.tabulateStream name = s := by
  rw [tabulateStream, h]

/-- What the tabulation of every stream preserves is preserved by the tabulation of all. -/
theorem tabulateAll_preserves {I : MetricsStore → Prop} (htime : ∀ s, I s → I (s.setSampleTime now))
    (hstream : ∀ s name, I s → I (s.tabulateStream name)) (h : I s) :
    I (s.tabulateAndResetAllMetrics now) := by
  unfold tabulateAndResetAllMetrics
  split
  · exact List.foldlRecOn _ _ (htime s h) fun s hs name _ => hstream s name hs
  · exact h

end MetricsStore

end USEEDLinkToRingServer
