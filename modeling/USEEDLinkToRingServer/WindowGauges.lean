import USEEDLinkToRingServer.FailedUpdates
import USEEDLinkToRingServer.WindowStatistics

/-!
# What the gauges show

The metrics of a stream keep sums over its good packets, and a tabulation makes three gauges of them. All streams
write to the same maps, under their keys. While no two streams share a key, each gauge is that of the good packets
of its stream in the last window that was tabulated. The sums are exact ones; those of the machine are the same for
a window that fits its integers.
-/

namespace USEEDLinkToRingServer

open Machine Moments

/-! ### What the gauges are for -/

/-- A packet that was counted as good, with the microseconds from its end to the clock reading after it was summed. -/
structure GoodPacket where
  packet : Packet
  latency : Int

/-- All the samples of the packets. -/
def samplesOf (good : List GoodPacket) : List ℚ := good.flatMap (·.packet.numbers)

/-- The gauges of a stream: seconds, counts and counts. -/
structure StreamGauges where
  averageLatency : ℚ := 0
  averageCounts : ℚ := 0
  standardDeviationOfCounts : ℝ := 0

/-- The mean in seconds. In a window without good packets it is the sample interval. -/
def averageLatency (sampleInterval : Int) (good : List GoodPacket) : ℚ :=
  if good.isEmpty then sampleInterval else mean (good.map fun p => (p.latency : ℚ) / 1000000)

/-- The factor that normalizes the deviation is applied to the root. -/
noncomputable def standardDeviation (samples : List ℚ) : ℝ :=
  (samples.length / (samples.length - 1) : ℚ) * √((squaredDeviations samples / samples.length : ℚ) : ℝ)

/-- The gauges after the tabulation of a window, and zeros before the first one. -/
noncomputable def StreamGauges.of (sampleInterval : Int) : Option (List GoodPacket) → StreamGauges
  | none => {}
  | some good =>
    { averageLatency := USEEDLinkToRingServer.averageLatency sampleInterval good
      averageCounts := mean (samplesOf good)
      standardDeviationOfCounts := standardDeviation (samplesOf good) }

/-- The gauges that the telemetry reads under a key. -/
noncomputable def Observables.gauges (o : Observables) (key : Str) : Option StreamGauges := do
  let averageLatency ← o.mObservableAverageLatency.lookup key
  let averageCounts ← o.mObservableAverageCounts.lookup key
  let deviation ← o.mObservableStandardDeviationOfCounts.lookup key
  return ⟨averageLatency, averageCounts, deviation.value⟩

theorem Branch.ended_of_good {mostRecentSample endTime now : Int}
    (h : Branch.of mostRecentSample endTime now = .good) : endTime ≤ now := by
  unfold Branch.of at h
  split at h
  · next hgood => exact hgood.2
  · split at h
    · cases h
    · split at h <;> cases h

/-! ### The sums of a window determine its gauges -/

namespace StreamMetrics

variable {m : StreamMetrics} {good : List GoodPacket} {packet : Packet} {endTime now later sampleInterval : Int}
  {o : Observables} {key : Str}

/-- The running sums are those of the good packets. -/
structure SumsOf (m : StreamMetrics) (good : List GoodPacket) : Prop where
  packets : m.mRunningPacketsCounter = good.length
  latency : m.mRunningLatencySum = (good.map (·.latency)).sum
  samples : m.mRunningSamplesCounter = (samplesOf good).length
  sum : m.mRunningSum = (samplesOf good).sum
  squares : m.mRunningSumSquared = sumOfSquares (samplesOf good)

theorem samplesOf_concat (good : List GoodPacket) (p : GoodPacket) :
    samplesOf (good ++ [p]) = samplesOf good ++ p.packet.numbers := by
  rw [samplesOf, List.flatMap_append, List.flatMap_singleton]
  rfl

theorem SumsOf.count_good (h : m.SumsOf good) (hpos : 1 ≤ packet.getNumberOfSamples)
    (hgood : Branch.of m.mMostRecentSample endTime now = .good) :
    (m.count packet endTime now later).SumsOf (good ++ [⟨packet, later - endTime⟩]) := by
  have hsums := statistics_eq hpos
  refine ⟨?_, ?_, ?_, ?_, ?_⟩ <;> simp only [count, hgood, hsums]
  · rw [h.packets, List.length_append, List.length_singleton, Nat.cast_add, Nat.cast_one]
  · rw [h.latency, List.map_append, List.sum_append, List.map_singleton, List.sum_singleton]
  · rw [h.samples, samplesOf_concat, List.length_append, Nat.cast_add]
  · rw [h.sum, samplesOf_concat, List.sum_append]
  · rw [h.squares, samplesOf_concat, sumOfSquares_append]

/-- A packet that is not good adds to no sum of a gauge. -/
theorem SumsOf.count_other (h : m.SumsOf good) (hother : Branch.of m.mMostRecentSample endTime now ≠ .good) :
    (m.count packet endTime now later).SumsOf good := by
  unfold count
  cases hbranch : Branch.of m.mMostRecentSample endTime now with
  | good => exact absurd hbranch hother
  | future => exact ⟨h.packets, h.latency, h.samples, h.sum, h.squares⟩
  | expired => exact ⟨h.packets, h.latency, h.samples, h.sum, h.squares⟩
  | late => exact ⟨h.packets, h.latency, h.samples, h.sum, h.squares⟩

theorem SumsOf.named (h : named packet = .ok m) : m.SumsOf [] := by
  obtain ⟨_, _, _, _, _, _, rfl⟩ := named_eq_ok.mp h
  exact ⟨rfl, rfl, rfl, rfl, rfl⟩

/-- The metrics after a tabulation. -/
def reset (m : StreamMetrics) : StreamMetrics := (m.tabulateAndResetMetrics 0 {}).1

theorem SumsOf.reset : m.reset.SumsOf [] := ⟨rfl, rfl, rfl, rfl, rfl⟩

theorem SumsOf.averageLatency_eq (h : m.SumsOf good) :
    (if m.mRunningPacketsCounter > 0 then (m.mRunningLatencySum : ℚ) / 1000000 / m.mRunningPacketsCounter
      else sampleInterval) = averageLatency sampleInterval good := by
  rw [h.packets, h.latency, averageLatency]
  cases good with
  | nil => rfl
  | cons p good =>
    have hsum : ((p :: good).map fun p => (p.latency : ℚ) / 1000000).sum =
        (((p :: good).map (·.latency)).sum : Int) / 1000000 := by
      rw [Int.cast_list_sum, List.map_map]
      simp only [div_eq_mul_inv, List.sum_map_mul_right]
      rfl
    rw [if_pos (by simp), if_neg (by simp), mean, hsum, List.length_map, Int.cast_natCast]

theorem SumsOf.averageCounts_eq (h : m.SumsOf good) :
    (if m.mRunningSamplesCounter > 0 then m.mRunningSum / m.mRunningSamplesCounter else 0) =
      mean (samplesOf good) := by
  rw [h.samples, h.sum, mean, Int.cast_natCast]
  by_cases hnil : samplesOf good = []
  · simp [hnil]
  · have := List.length_pos_iff.mpr hnil
    rw [if_pos (by omega)]

/-- The sum of the squares less the square of the mean is the variance, which has a root. -/
theorem SumsOf.standardDeviation_eq (h : m.SumsOf good) :
    StandardDeviation.value
      { besselCorrection :=
          if m.mRunningSamplesCounter > 1 then m.mRunningSamplesCounter / (m.mRunningSamplesCounter - 1) else 1
        varianceOfCounts :=
          if m.mRunningSamplesCounter > 0 then
            m.mRunningSumSquared / m.mRunningSamplesCounter -
              mean (samplesOf good) * mean (samplesOf good)
          else 0 } =
      standardDeviation (samplesOf good) := by
  rw [h.samples, h.squares, standardDeviation, StandardDeviation.value]
  generalize samplesOf good = samples
  by_cases hnil : samples = []
  · simp [hnil]
  · have hpos := List.length_pos_iff.mpr hnil
    have hlength : (0 : ℚ) < samples.length := Nat.cast_pos.mpr hpos
    have hvariance : sumOfSquares samples / samples.length - mean samples * mean samples =
        squaredDeviations samples / samples.length := by
      rw [← length_mul_variance hnil, mul_div_cancel_left₀ _ hlength.ne']
    have hnonneg : 0 ≤ squaredDeviations samples / samples.length :=
      div_nonneg (deviationsFrom_nonneg _ _) hlength.le
    have hmax : max (0 : ℝ) ((squaredDeviations samples / samples.length : ℚ) : ℝ) =
        (squaredDeviations samples / samples.length : ℚ) := max_eq_right (Rat.cast_nonneg.mpr hnonneg)
    rw [Int.cast_natCast, if_pos (by omega : (samples.length : Int) > 0), hvariance, hmax]
    by_cases hmany : (samples.length : Int) > 1
    · rw [if_pos hmany]
    · -- of one sample the factor is one or not defined, and there is no deviation
      have hone : ∀ x ∈ samples, ∀ y ∈ samples, x = y := by
        obtain ⟨x, rfl⟩ := List.length_eq_one_iff.mp (by omega : samples.length = 1)
        simp
      rw [squaredDeviations_eq_zero_iff.mpr hone]
      simp

/-- A tabulation shows the window under the key of the stream. -/
theorem SumsOf.gauges_tabulate (h : m.SumsOf good) :
    (m.tabulateAndResetMetrics sampleInterval o).2.gauges m.mMetricsKey =
      some (StreamGauges.of sampleInterval (some good)) := by
  simp only [Observables.gauges, tabulateAndResetMetrics, AList.lookup_insert, h.averageLatency_eq,
    h.averageCounts_eq, Option.bind_eq_bind, Option.bind_some, h.standardDeviation_eq]
  rfl

theorem gauges_tabulate_ne (hne : key ≠ m.mMetricsKey) :
    (m.tabulateAndResetMetrics sampleInterval o).2.gauges key = o.gauges key := by
  simp only [Observables.gauges, tabulateAndResetMetrics, AList.lookup_insert_ne hne]

end StreamMetrics

/-! ### The sums of the machine

The samples of an integer packet are squared as ints, and the microseconds are added up in 64 bits. What does not fit
wraps around here, and has no defined result in the language. -/

/-- `computeSumOfSamplesSquared` with the products of ints. -/
def Packet.sumOfIntSquares (p : Packet) : ℚ :=
  match p.getDataType with
  | .integer32 =>
    (p.pImpl.mInteger32Data.take p.getNumberOfSamples.toNat).foldl (fun result x => result + (x * x).toInt) 0
  | _ => sumOfSquares p.numbers

/-- The sum of the latencies in 64 bits. -/
def latencySum64 (good : List GoodPacket) : Int64 :=
  (good.map (·.latency)).foldl (fun sum latency => sum + Int64.ofInt latency) 0

/-- The metrics after the good packets of a window, with the sums of the machine. -/
def StreamMetrics.summed (good : List GoodPacket) : StreamMetrics where
  mName := []
  mMetricsKey := []
  mRunningPacketsCounter := good.length
  mRunningLatencySum := (latencySum64 good).toInt
  mRunningSamplesCounter := (samplesOf good).length
  mRunningSum := (samplesOf good).sum
  mRunningSumSquared := (good.map (·.packet.sumOfIntSquares)).sum

/-- The gauges that the machine makes of a window. -/
noncomputable def StreamGauges.ofMachine (sampleInterval : Int) (good : List GoodPacket) : Option StreamGauges :=
  ((StreamMetrics.summed good).tabulateAndResetMetrics sampleInterval {}).2.gauges []

/-- Nothing overflows in the sums of a window. -/
structure Fits (good : List GoodPacket) : Prop where
  squares : ∀ p ∈ good, p.packet.getDataType = .integer32 → ∀ x ∈ p.packet.numbers, |x| ≤ 46340
  latencies : (good.map (·.latency.natAbs)).sum < 2 ^ 63

theorem Packet.sumOfIntSquares_eq {p : Packet}
    (h : p.getDataType = .integer32 → ∀ x ∈ p.numbers, |x| ≤ 46340) : p.sumOfIntSquares = sumOfSquares p.numbers := by
  unfold sumOfIntSquares
  split
  · next htype =>
    have hnumbers : p.numbers =
        (p.pImpl.mInteger32Data.take p.getNumberOfSamples.toNat).map fun x => (x.toInt : ℚ) := by
      rw [numbers, htype]
      rfl
    have hsquare : ∀ x ∈ p.pImpl.mInteger32Data.take p.getNumberOfSamples.toNat,
        (((x * x).toInt : Int) : ℚ) = (x.toInt : ℚ) ^ 2 := by
      intro x hx
      have hsmall : |(x.toInt : ℚ)| ≤ 46340 := h htype _ (hnumbers ▸ List.mem_map_of_mem hx)
      have hnat : x.toInt.natAbs ≤ 46340 := by
        rw [← Int.cast_abs, Int.abs_eq_natAbs, Int.cast_natCast] at hsmall
        exact_mod_cast hsmall
      rw [(toInt_mul_self_iff x).mpr hnat, Int.cast_mul, sq]
    rw [hnumbers, foldl_add_eq_sum, sumOfSquares, List.map_map]
    exact congrArg List.sum (List.map_congr_left hsquare)
  · rfl

theorem sumOfSquares_samplesOf (good : List GoodPacket) :
    sumOfSquares (samplesOf good) = (good.map fun p => sumOfSquares p.packet.numbers).sum := by
  induction good with
  | nil => rfl
  | cons p good ih =>
    have hcons : samplesOf (p :: good) = p.packet.numbers ++ samplesOf good := List.flatMap_cons
    rw [hcons, sumOfSquares_append, ih, List.map_cons, List.sum_cons]

/-- The sums of the machine are those of the window. -/
theorem StreamMetrics.sumsOf_summed {good : List GoodPacket} (h : Fits good) :
    (StreamMetrics.summed good).SumsOf good := by
  refine ⟨rfl, ?_, rfl, rfl, ?_⟩
  · have hfits : (0 : Int64).toInt.natAbs + ((good.map (·.latency)).map Int.natAbs).sum < 2 ^ 63 := by
      rw [Int64.toInt_zero, List.map_map, Int.natAbs_zero, Nat.zero_add]
      exact h.latencies
    show (latencySum64 good).toInt = _
    rw [latencySum64, toInt_foldl_add hfits, Int64.toInt_zero, Int.zero_add]
  · have hsquares : good.map (·.packet.sumOfIntSquares) = good.map fun p => sumOfSquares p.packet.numbers :=
      List.map_congr_left fun p hp => Packet.sumOfIntSquares_eq (h.squares p hp)
    show (good.map (·.packet.sumOfIntSquares)).sum = _
    rw [hsquares, sumOfSquares_samplesOf]

namespace Observables

variable {o : Observables} {key key' : Str}

/-- The constructor of the metrics of a stream shows what no window has been tabulated for. -/
theorem gauges_zeroGauges (sampleInterval : Int) :
    (o.zeroGauges key).gauges key = some (StreamGauges.of sampleInterval none) := by
  simp [gauges, zeroGauges, StandardDeviation.value_zero, StreamGauges.of]

theorem gauges_zeroGauges_ne (hne : key' ≠ key) : (o.zeroGauges key).gauges key' = o.gauges key' := by
  simp only [gauges, zeroGauges, AList.lookup_insert_ne hne]

end Observables

/-! ### A tabulation of all streams -/

namespace MetricsStore

variable {s s' : MetricsStore} {packet : Packet} {now later : Int} {name : Str} {m : StreamMetrics}

/-- New metrics of the stream of a packet are put into the map. If the stream is new, its gauges are zero. -/
inductive Counts (s : MetricsStore) (packet : Packet) (m m' : StreamMetrics) : MetricsStore → Prop
  | known (hstream : s.stream m.mName = some m) : Counts s packet m m' (s.setStream m.mName m')
  | made (hmakes : s.MakesStream packet m) :
      Counts s packet m m'
        ({ s with observables := s.observables.zeroGauges m.mMetricsKey }.setStream m.mName m')

theorem Counts.stream {m' : StreamMetrics} (h : s.Counts packet m m' s') (name : Str) :
    s'.stream name = if name = m.mName then some m' else s.stream name := by
  cases h <;> exact stream_setStream m.mName name m'

theorem Counts.mSampleInterval {m' : StreamMetrics} (h : s.Counts packet m m' s') :
    s'.map.mSampleInterval = s.map.mSampleInterval := by
  cases h <;> rfl

/-- The metrics before were those of the stream, or are new. -/
theorem Counts.before {m' : StreamMetrics} (h : s.Counts packet m m' s') :
    s.stream m.mName = some m ∨ s.stream m.mName = none ∧ StreamMetrics.named packet = .ok m := by
  cases h with
  | known hstream => exact .inl hstream
  | made hmakes => exact .inr ⟨hmakes.2, hmakes.1⟩

/-- An update that returns counts its packet in the metrics of its stream. -/
theorem update_returned (h : (s.update packet now later).2 = .ok ()) :
    ∃ m time, packetName packet = .ok m.mName ∧ packet.getEndTime = .ok time ∧
      s.Counts packet m (m.count packet (toMicroseconds time) now later) (s.update packet now later).1 := by
  unfold update at h ⊢
  cases hname : packetName packet with
  | error e => simp [hname] at h
  | ok identifier =>
    simp only [hname] at h ⊢
    cases hstream : s.stream identifier with
    | none =>
      simp only [hstream, StreamMetrics.construct] at h ⊢
      cases hnew : StreamMetrics.named packet with
      | error e => simp [hnew] at h
      | ok m =>
        simp only [hnew] at h ⊢
        cases hupdate : m.update packet now later with
        | error e => simp [hupdate] at h
        | ok m' =>
          obtain ⟨hsame, time, htime, rfl⟩ := StreamMetrics.update_eq_ok.mp hupdate
          obtain rfl : identifier = m.mName := Except.ok.inj (hname.symm.trans hsame)
          exact ⟨m, time, rfl, htime, .made ⟨hnew, hstream⟩⟩
    | some m =>
      simp only [hstream] at h ⊢
      cases hupdate : m.update packet now later with
      | error e => simp [hupdate] at h
      | ok m' =>
        obtain ⟨hsame, time, htime, rfl⟩ := StreamMetrics.update_eq_ok.mp hupdate
        obtain rfl : identifier = m.mName := Except.ok.inj (hname.symm.trans hsame)
        exact ⟨m, time, rfl, htime, .known hstream⟩

theorem stream_tabulateStream (name' : Str) :
    (s.tabulateStream name).stream name' =
      (s.stream name').map fun m => if name' = name then m.reset else m := by
  cases hm : s.stream name with
  | none =>
    rw [tabulateStream_of_none hm]
    by_cases hname : name' = name
    · rw [hname, hm]
      rfl
    · simp [hname]
  | some m =>
    have hstream : (s.tabulateStream name).stream name' = if name' = name then some m.reset else s.stream name' := by
      rw [tabulateStream, hm]
      exact stream_setStream name name' _
    rw [hstream]
    by_cases hname : name' = name
    · rw [if_pos hname, hname, hm]
      simp
    · simp [hname]

theorem gauges_tabulateStream {good : List GoodPacket} (hm : s.stream name = some m) (hsums : m.SumsOf good)
    (key : Str) :
    (s.tabulateStream name).observables.gauges key =
      if key = m.mMetricsKey then some (StreamGauges.of s.map.mSampleInterval (some good))
      else s.observables.gauges key := by
  have hobservables : (s.tabulateStream name).observables =
      (m.tabulateAndResetMetrics s.map.mSampleInterval s.observables).2 := by
    rw [tabulateStream, hm]
    rfl
  rw [hobservables]
  by_cases hkey : key = m.mMetricsKey
  · rw [if_pos hkey, hkey, hsums.gauges_tabulate]
  · rw [if_neg hkey, StreamMetrics.gauges_tabulate_ne hkey]

theorem DistinctKeys.tabulateStream (h : s.DistinctKeys) (name : Str) : (s.tabulateStream name).DistinctKeys := by
  have hkey : ∀ {name' m'}, (s.tabulateStream name).stream name' = some m' →
      ∃ m, s.stream name' = some m ∧ m.mMetricsKey = m'.mMetricsKey := by
    intro name' m' hm'
    rw [stream_tabulateStream, Option.map_eq_some_iff] at hm'
    obtain ⟨m, hm, rfl⟩ := hm'
    refine ⟨m, hm, ?_⟩
    split <;> rfl
  intro name' name'' m' m'' hm' hm'' heq
  obtain ⟨n', hn', hkey'⟩ := hkey hm'
  obtain ⟨n'', hn'', hkey''⟩ := hkey hm''
  exact h name' name'' n' n'' hn' hn'' (by rw [hkey', hkey'', heq])

theorem mSampleInterval_tabulateStream : (s.tabulateStream name).map.mSampleInterval = s.map.mSampleInterval := by
  rw [tabulateStream]
  split <;> rfl

/-- A pass over some streams resets these and shows their windows. -/
theorem foldl_tabulateStream (window : Str → List GoodPacket) {names : List Str} (hnodup : names.Nodup)
    (hkeys : s.DistinctKeys) (hsums : ∀ name ∈ names, ∀ m, s.stream name = some m → m.SumsOf (window name))
    (name' : Str) :
    ((names.foldl MetricsStore.tabulateStream s).stream name' =
        (s.stream name').map fun m => if name' ∈ names then m.reset else m) ∧
      ∀ m, s.stream name' = some m →
        (names.foldl MetricsStore.tabulateStream s).observables.gauges m.mMetricsKey =
          if name' ∈ names then some (StreamGauges.of s.map.mSampleInterval (some (window name')))
          else s.observables.gauges m.mMetricsKey := by
  induction names generalizing s with
  | nil => simp
  | cons name names ih =>
    obtain ⟨hnotMem, hnodup⟩ := List.nodup_cons.mp hnodup
    have hrest : ∀ n ∈ names, ∀ m, (s.tabulateStream name).stream n = some m → m.SumsOf (window n) := by
      intro n hn m hm
      have hne : n ≠ name := fun heq => hnotMem (heq ▸ hn)
      rw [stream_tabulateStream, Option.map_eq_some_iff] at hm
      obtain ⟨m, hm, rfl⟩ := hm
      rw [if_neg hne]
      exact hsums n (List.mem_cons_of_mem name hn) m hm
    obtain ⟨hstream, hgauges⟩ := ih hnodup (hkeys.tabulateStream name) hrest
    rw [List.foldl_cons]
    constructor
    · rw [hstream, stream_tabulateStream, Option.map_map]
      congr 1
      funext m
      by_cases hname : name' = name
      · simp [hname, hnotMem]
      · simp [hname]
    · intro m hm
      have hafter : (s.tabulateStream name).stream name' = some (if name' = name then m.reset else m) := by
        rw [stream_tabulateStream, hm]
        rfl
      have hkey : (if name' = name then m.reset else m).mMetricsKey = m.mMetricsKey := by
        split <;> rfl
      have hshown := hgauges _ hafter
      rw [hkey, mSampleInterval_tabulateStream] at hshown
      rw [hshown]
      by_cases hname : name' = name
      · rw [if_neg (hname ▸ hnotMem), if_pos (List.mem_cons.mpr (.inl hname)), hname]
        rw [hname] at hm
        rw [gauges_tabulateStream hm (hsums name List.mem_cons_self m hm), if_pos rfl]
      · have hmem : name' ∈ name :: names ↔ name' ∈ names := by simp [hname]
        simp only [hmem]
        split
        · rfl
        · cases hother : s.stream name with
          | none => rw [tabulateStream_of_none hother]
          | some other =>
            have hne : m.mMetricsKey ≠ other.mMetricsKey := fun heq => hname (hkeys name' name m other hm hother heq)
            rw [gauges_tabulateStream hother (hsums name List.mem_cons_self other hother), if_neg hne]

end MetricsStore

/-! ### Runs of calls -/

/-- The metrics with the good packets of each stream since the last tabulation, and those of the last tabulated window
of each stream that has one. -/
structure GaugedRun where
  metrics : MetricsStore
  window : Str → List GoodPacket := fun _ => []
  shown : Str → Option (List GoodPacket) := fun _ => none

namespace GaugedRun

def next (r : GaugedRun) : MetricsCall → Option GaugedRun
  | .update packet now later =>
    match r.metrics.update packet now later with
    | (metrics, .error _) => some { r with metrics := metrics }
    | (metrics, .ok ()) =>
      let (name, branch) := r.metrics.branchTaken packet now
      let endTime := toMicroseconds (packet.getEndTime.toOption.getD 0)
      if branch = .good then
        some { r with
          metrics := metrics
          window := Function.update r.window name (r.window name ++ [⟨packet, later - endTime⟩]) }
      else some { r with metrics := metrics }
  | .tabulateAndResetAllMetrics now =>
    if r.metrics.due now then
      some { metrics := r.metrics.tabulateAndResetAllMetrics now
             shown := fun name => (r.metrics.stream name).map fun _ => r.window name }
    else some { r with metrics := r.metrics.tabulateAndResetAllMetrics now }

def initial (started : Int) : GaugedRun := { metrics := { map := { mLastSampleTime := started } } }

/-- The metrics that the packet of an update would make. -/
def makes : MetricsCall → Option StreamMetrics
  | .update packet _ _ => (StreamMetrics.named packet).toOption
  | .tabulateAndResetAllMetrics _ => none

/-- No two streams that the packets belong to share a key. -/
def KeysApart (calls : List MetricsCall) : Prop :=
  ∀ a ∈ calls, ∀ b ∈ calls, ∀ m m', makes a = some m → makes b = some m' →
    m.mMetricsKey = m'.mMetricsKey → m.mName = m'.mName

variable {calls : List MetricsCall} {r r' : GaugedRun} {a : MetricsCall}

/-- The sums are those of the windows, and the gauges those of the windows that were tabulated. -/
structure Gauged (calls : List MetricsCall) (r : GaugedRun) : Prop where
  made : ∀ name m, r.metrics.stream name = some m →
    ∃ a ∈ calls, ∃ fresh, makes a = some fresh ∧ fresh.mName = name ∧ fresh.mMetricsKey = m.mMetricsKey
  sums : ∀ name m, r.metrics.stream name = some m → m.SumsOf (r.window name)
  unmade : ∀ name, r.metrics.stream name = none → r.window name = [] ∧ r.shown name = none
  gauges : ∀ name m, r.metrics.stream name = some m →
    r.metrics.observables.gauges m.mMetricsKey = some (StreamGauges.of 60 (r.shown name))
  interval : r.metrics.map.mSampleInterval = 60

theorem Gauged.distinctKeys (h : Gauged calls r) (hapart : KeysApart calls) : r.metrics.DistinctKeys := by
  intro name name' m m' hm hm' heq
  obtain ⟨a, ha, fresh, hfresh, hname, hkey⟩ := h.made name m hm
  obtain ⟨b, hb, fresh', hfresh', hname', hkey'⟩ := h.made name' m' hm'
  rw [← hname, ← hname']
  exact hapart a ha b hb fresh fresh' hfresh hfresh' (by rw [hkey, hkey', heq])

/-- The key of a packet that would make a new stream is the key of no stream. -/
theorem Gauged.key_ne (h : Gauged calls r) (hapart : KeysApart calls) {packet : Packet} {now later : Int}
    (hcall : .update packet now later ∈ calls) {fresh : StreamMetrics}
    (hmakes : r.metrics.MakesStream packet fresh) {name : Str} {m : StreamMetrics}
    (hm : r.metrics.stream name = some m) : m.mMetricsKey ≠ fresh.mMetricsKey := by
  intro heq
  obtain ⟨a, ha, first, hfirst, hname, hkey⟩ := h.made name m hm
  have hmade : makes (.update packet now later) = some fresh := by
    rw [makes, hmakes.1]
    rfl
  have hsame := hapart a ha _ hcall first fresh hfirst hmade (by rw [hkey, heq])
  rw [← hname, hsame, hmakes.2] at hm
  cases hm

theorem Gauged.failed (h : Gauged calls r) (hapart : KeysApart calls) {packet : Packet} {now later : Int}
    {e : Exception} (hcall : .update packet now later ∈ calls)
    (hfailed : (r.metrics.update packet now later).2 = .error e) :
    Gauged calls { r with metrics := (r.metrics.update packet now later).1 } := by
  rcases MetricsStore.update_failed hfailed with ⟨hsame, _⟩ | ⟨fresh, hmakes, hzeroed⟩
  · rw [hsame]
    exact h
  · rw [hzeroed]
    refine ⟨h.made, h.sums, h.unmade, fun name m hm => ?_, h.interval⟩
    rw [← h.gauges name m hm]
    exact Observables.gauges_zeroGauges_ne (h.key_ne hapart hcall hmakes hm)

/-- Where the metrics of a stream were made, before or by this packet. -/
theorem Gauged.made_of_counts (h : Gauged calls r) {packet : Packet} {now later : Int}
    (hcall : .update packet now later ∈ calls) {m m' : StreamMetrics} {metrics : MetricsStore}
    (hcounts : r.metrics.Counts packet m m' metrics) :
    ∃ a ∈ calls, ∃ fresh, makes a = some fresh ∧ fresh.mName = m.mName ∧ fresh.mMetricsKey = m.mMetricsKey := by
  cases hcounts with
  | known hstream => exact h.made m.mName m hstream
  | made hmakes =>
    refine ⟨_, hcall, m, ?_, rfl, rfl⟩
    rw [makes, hmakes.1]
    rfl

theorem Gauged.sums_of_counts (h : Gauged calls r) {packet : Packet} {m m' : StreamMetrics} {metrics : MetricsStore}
    (hcounts : r.metrics.Counts packet m m' metrics) : m.SumsOf (r.window m.mName) := by
  cases hcounts with
  | known hstream => exact h.sums m.mName m hstream
  | made hmakes =>
    rw [(h.unmade m.mName hmakes.2).1]
    exact StreamMetrics.SumsOf.named hmakes.1

/-- The gauges of a new stream are those before any tabulation, and all others are left as they are. -/
theorem Gauged.gauges_of_counts (h : Gauged calls r) (hapart : KeysApart calls) {packet : Packet} {now later : Int}
    (hcall : .update packet now later ∈ calls) {m m' : StreamMetrics} {metrics : MetricsStore}
    (hcounts : r.metrics.Counts packet m m' metrics) :
    metrics.observables.gauges m.mMetricsKey = some (StreamGauges.of 60 (r.shown m.mName)) ∧
      ∀ name other, r.metrics.stream name = some other →
        metrics.observables.gauges other.mMetricsKey = some (StreamGauges.of 60 (r.shown name)) := by
  cases hcounts with
  | known hstream => exact ⟨h.gauges m.mName m hstream, h.gauges⟩
  | made hmakes =>
    refine ⟨?_, fun name other hother => ?_⟩
    · rw [(h.unmade m.mName hmakes.2).2]
      exact Observables.gauges_zeroGauges 60
    · rw [← h.gauges name other hother]
      exact Observables.gauges_zeroGauges_ne (h.key_ne hapart hcall hmakes hother)

/-- The metrics of a stream take one more packet. -/
theorem Gauged.counted (h : Gauged calls r) (hapart : KeysApart calls) {packet : Packet} {now later : Int}
    (hcall : .update packet now later ∈ calls) {m m' : StreamMetrics} {metrics : MetricsStore}
    {window : Str → List GoodPacket} (hkey : m'.mMetricsKey = m.mMetricsKey)
    (hcounts : r.metrics.Counts packet m m' metrics)
    (hwindow : ∀ name, name ≠ m.mName → window name = r.window name)
    (hsums : m.SumsOf (r.window m.mName) → m'.SumsOf (window m.mName)) :
    Gauged calls { r with metrics := metrics, window := window } := by
  have hcases {name : Str} {n : StreamMetrics} (hn : metrics.stream name = some n) :
      name = m.mName ∧ n = m' ∨ name ≠ m.mName ∧ r.metrics.stream name = some n := by
    rw [hcounts.stream] at hn
    split at hn
    · next hname => exact .inl ⟨hname, (Option.some.inj hn).symm⟩
    · next hname => exact .inr ⟨hname, hn⟩
  refine ⟨fun name n hn => ?_, fun name n hn => ?_, fun name hnone => ?_, fun name n hn => ?_,
    hcounts.mSampleInterval.trans h.interval⟩
  · rcases hcases hn with ⟨rfl, rfl⟩ | ⟨_, hold⟩
    · rw [hkey]
      exact h.made_of_counts hcall hcounts
    · exact h.made name n hold
  · rcases hcases hn with ⟨rfl, rfl⟩ | ⟨hname, hold⟩
    · exact hsums (h.sums_of_counts hcounts)
    · show n.SumsOf (window name)
      rw [hwindow name hname]
      exact h.sums name n hold
  · rw [hcounts.stream] at hnone
    split at hnone
    · cases hnone
    · next hname =>
      show window name = [] ∧ r.shown name = none
      rw [hwindow name hname]
      exact h.unmade name hnone
  · obtain ⟨hself, hothers⟩ := h.gauges_of_counts hapart hcall hcounts
    rcases hcases hn with ⟨rfl, rfl⟩ | ⟨_, hold⟩
    · rw [hkey]
      exact hself
    · exact hothers name n hold

theorem Gauged.tabulated (h : Gauged calls r) (hapart : KeysApart calls) {now : Int}
    (hdue : r.metrics.due now = true) :
    Gauged calls
      { metrics := r.metrics.tabulateAndResetAllMetrics now
        shown := fun name => (r.metrics.stream name).map fun _ => r.window name } := by
  have hpass := MetricsStore.foldl_tabulateStream (s := r.metrics.setSampleTime now) r.window
    r.metrics.map.mMetrics.nodup_keysInOrder (h.distinctKeys hapart) fun name _ m hm => h.sums name m hm
  have hall : r.metrics.tabulateAndResetAllMetrics now =
      r.metrics.map.mMetrics.keysInOrder.foldl MetricsStore.tabulateStream (r.metrics.setSampleTime now) := by
    rw [MetricsStore.tabulateAndResetAllMetrics, if_pos hdue]
  rw [hall]
  have hmem : ∀ {name m}, r.metrics.stream name = some m → name ∈ r.metrics.map.mMetrics.keysInOrder :=
    fun hm => StdMap.mem_keysInOrder.mpr (Option.isSome_of_eq_some hm)
  have hbefore : ∀ {name m'}, (r.metrics.map.mMetrics.keysInOrder.foldl MetricsStore.tabulateStream
      (r.metrics.setSampleTime now)).stream name = some m' →
      ∃ m, r.metrics.stream name = some m ∧ m' = m.reset := by
    intro name m' hm'
    rw [(hpass name).1, Option.map_eq_some_iff] at hm'
    obtain ⟨m, hm, rfl⟩ := hm'
    exact ⟨m, hm, if_pos (hmem hm)⟩
  have hinterval : (r.metrics.map.mMetrics.keysInOrder.foldl MetricsStore.tabulateStream
      (r.metrics.setSampleTime now)).map.mSampleInterval = 60 :=
    List.foldlRecOn (motive := fun (s : MetricsStore) => s.map.mSampleInterval = 60) _ _ h.interval
      fun s hs name _ => MetricsStore.mSampleInterval_tabulateStream.trans hs
  refine ⟨fun name m' hm' => ?_, fun name m' hm' => ?_, fun name hnone => ?_, fun name m' hm' => ?_, hinterval⟩
  · obtain ⟨m, hm, rfl⟩ := hbefore hm'
    exact h.made name m hm
  · obtain ⟨m, _, rfl⟩ := hbefore hm'
    exact StreamMetrics.SumsOf.reset
  · rw [(hpass name).1, Option.map_eq_none_iff] at hnone
    exact ⟨rfl, by simp only [show r.metrics.stream name = none from hnone, Option.map_none]⟩
  · obtain ⟨m, hm, rfl⟩ := hbefore hm'
    have hshown := (hpass name).2 m hm
    rw [if_pos (hmem hm)] at hshown
    rw [show (r.metrics.setSampleTime now).map.mSampleInterval = 60 from h.interval] at hshown
    simp only [hm, Option.map_some]
    exact hshown

theorem Gauged.next (h : Gauged calls r) (hapart : KeysApart calls) (ha : a ∈ calls) (hnext : r.next a = some r') :
    Gauged calls r' := by
  cases a with
  | update packet now later =>
    simp only [GaugedRun.next] at hnext
    cases hresult : (r.metrics.update packet now later).2 with
    | error e =>
      have hfailed := h.failed hapart ha hresult
      generalize r.metrics.update packet now later = result at hnext hresult hfailed
      obtain ⟨metrics, result⟩ := result
      obtain rfl : result = .error e := hresult
      obtain rfl := Option.some.inj hnext
      exact hfailed
    | ok _ =>
      obtain ⟨m, time, hname, htime, hcounts⟩ := MetricsStore.update_returned hresult
      have hpos := (Packet.getEndTime_eq_ok.mp htime).2.1
      have hbranch : r.metrics.branchTaken packet now =
          (m.mName, Branch.of m.mMostRecentSample (toMicroseconds time) now) :=
        MetricsStore.branchTaken_counted hname htime hcounts.before
      generalize r.metrics.update packet now later = result at hnext hresult hcounts
      obtain ⟨metrics, result⟩ := result
      obtain rfl : result = .ok () := hresult
      simp only [hbranch, htime, Except.toOption, Option.getD_some] at hnext
      split at hnext
      · next hgood =>
        obtain rfl := Option.some.inj hnext
        refine h.counted hapart ha StreamMetrics.count_names.2 hcounts
          (fun name hne => Function.update_of_ne hne _ _) fun hsums => ?_
        rw [Function.update_self]
        exact hsums.count_good hpos hgood
      · next hother =>
        obtain rfl := Option.some.inj hnext
        exact h.counted hapart ha StreamMetrics.count_names.2 hcounts (fun _ _ => rfl)
          fun hsums => hsums.count_other hother
  | tabulateAndResetAllMetrics now =>
    simp only [GaugedRun.next] at hnext
    split at hnext
    · next hdue =>
      obtain rfl := Option.some.inj hnext
      exact h.tabulated hapart hdue
    · next hdue =>
      obtain rfl := Option.some.inj hnext
      rw [MetricsStore.tabulateAndResetAllMetrics, if_neg hdue]
      exact h

theorem gauged_initial (started : Int) : Gauged calls (initial started) := by
  have hnone : ∀ name m, (initial started).metrics.stream name ≠ some m := fun _ _ hm => nomatch hm
  exact ⟨fun name m hm => absurd hm (hnone name m), fun name m hm => absurd hm (hnone name m),
    fun _ _ => ⟨rfl, rfl⟩, fun name m hm => absurd hm (hnone name m), rfl⟩

/-- The clock does not run back between the two readings of an update. -/
def ClockForward : MetricsCall → Prop
  | .update _ now later => now ≤ later
  | .tabulateAndResetAllMetrics _ => True

/-- A packet in a window was there before or is the one that was added. -/
theorem mem_window {window : Str → List GoodPacket} {name name' : Str} {p q : GoodPacket}
    (h : q ∈ Function.update window name' (window name' ++ [p]) name) : q ∈ window name ∨ q = p := by
  by_cases hname : name = name'
  · rw [hname, Function.update_self, List.mem_append, List.mem_singleton] at h
    exact hname ▸ h
  · rw [Function.update_of_ne hname] at h
    exact .inl h

/-- No packet was summed before its end. -/
structure Arrived (r : GaugedRun) : Prop where
  window : ∀ name, ∀ p ∈ r.window name, 0 ≤ p.latency
  shown : ∀ name good, r.shown name = some good → ∀ p ∈ good, 0 ≤ p.latency

theorem Arrived.next (h : r.Arrived) (hforward : ClockForward a) (hnext : r.next a = some r') : r'.Arrived := by
  cases a with
  | update packet now later =>
    simp only [GaugedRun.next] at hnext
    split at hnext
    · obtain rfl := Option.some.inj hnext
      exact ⟨h.window, h.shown⟩
    · split at hnext
      · next hgood =>
        obtain rfl := Option.some.inj hnext
        refine ⟨fun name p hp => ?_, h.shown⟩
        rcases mem_window hp with hold | rfl
        · exact h.window name p hold
        · have hended := Branch.ended_of_good hgood
          have hread : now ≤ later := hforward
          show 0 ≤ later - _
          omega
      · obtain rfl := Option.some.inj hnext
        exact ⟨h.window, h.shown⟩
  | tabulateAndResetAllMetrics now =>
    simp only [GaugedRun.next] at hnext
    split at hnext
    · obtain rfl := Option.some.inj hnext
      refine ⟨fun _ _ hp => absurd hp List.not_mem_nil, fun name good hgood => ?_⟩
      obtain ⟨_, _, rfl⟩ := Option.map_eq_some_iff.mp hgood
      exact h.window name
    · obtain rfl := Option.some.inj hnext
      exact ⟨h.window, h.shown⟩

theorem arrived_initial (started : Int) : (initial started).Arrived :=
  ⟨fun _ _ hp => absurd hp List.not_mem_nil, fun _ _ hgood => nomatch hgood⟩

theorem averageLatency_nonneg {sampleInterval : Int} {good : List GoodPacket} (hinterval : 0 ≤ sampleInterval)
    (h : ∀ p ∈ good, 0 ≤ p.latency) : 0 ≤ averageLatency sampleInterval good := by
  rw [averageLatency]
  split
  · exact Int.cast_nonneg hinterval
  · refine div_nonneg (List.sum_nonneg fun x hx => ?_) (Nat.cast_nonneg _)
    obtain ⟨p, hp, rfl⟩ := List.mem_map.mp hx
    exact div_nonneg (Int.cast_nonneg (h p hp)) (by norm_num)

/-- The running sums of the metrics are those that the machine has. -/
structure Summed (m : StreamMetrics) (good : List GoodPacket) : Prop where
  latency : m.mRunningLatencySum = (StreamMetrics.summed good).mRunningLatencySum
  squares : m.mRunningSumSquared = (StreamMetrics.summed good).mRunningSumSquared

/-- **The gauges are those of the last window**: after any calls for any streams with any clock readings, failed calls
among them, as long as no two streams that packets belong to share a key, the gauges under the key of a stream are
those of its good packets between the last two tabulations that were due, and zeros if none was since the stream was
made. The sums that the next one is made of are those of the good packets since. All this is exact arithmetic: of a
window without an integer sample above 46340, whose latencies add up to less than 63 bits, the machine makes the same
sums and the same gauges. If the clock does not run back in an update, no average latency is negative. -/
theorem gauges_shown (started : Int) (calls : List MetricsCall) (r : GaugedRun) (hapart : KeysApart calls)
    (hrun : exec next (initial started) calls = some r) :
    (∀ name m, r.metrics.stream name = some m →
        r.metrics.observables.gauges m.mMetricsKey = some (StreamGauges.of 60 (r.shown name)) ∧
          m.SumsOf (r.window name) ∧ (Fits (r.window name) → Summed m (r.window name)) ∧
          ∀ good, r.shown name = some good → Fits good →
            r.metrics.observables.gauges m.mMetricsKey = StreamGauges.ofMachine 60 good) ∧
      ((∀ a ∈ calls, ClockForward a) → ∀ name, 0 ≤ (StreamGauges.of 60 (r.shown name)).averageLatency) := by
  constructor
  · have hgauged : Gauged calls r :=
      invariant_along (fun _ _ _ ha h hnext => h.next hapart ha hnext) (gauged_initial started)
        (along_of_mem (fun _ ha => ha) _) hrun
    intro name m hm
    have hgauges := hgauged.gauges name m hm
    have hsums := hgauged.sums name m hm
    refine ⟨hgauges, hsums, fun hfits => ?_, fun good hgood hfits => ?_⟩
    · have hmachine := StreamMetrics.sumsOf_summed hfits
      exact ⟨hsums.latency.trans hmachine.latency.symm, hsums.squares.trans hmachine.squares.symm⟩
    · rw [hgauges, hgood]
      exact (StreamMetrics.sumsOf_summed hfits).gauges_tabulate.symm
  · intro hforward name
    have harrived : r.Arrived :=
      invariant_along (fun _ _ _ ha h hnext => Arrived.next h ha hnext) (arrived_initial started)
        (along_of_mem hforward _) hrun
    cases hshown : r.shown name with
    | none => exact le_refl 0
    | some good => exact averageLatency_nonneg (by norm_num) (harrived.shown name good hshown)

/-- The known packet came thirteen seconds after its end, and the machine has the same gauges. -/
theorem gauges_shown_known :
    ∃ r m gauges good, exec next (initial 0) MeteredRun.knownCalls = some r ∧ r.metrics.stream knownName = some m ∧
      r.shown knownName = some good ∧ r.metrics.observables.gauges m.mMetricsKey = some gauges ∧
      gauges.averageLatency = 13 ∧ StreamGauges.ofMachine 60 good = some gauges := by
  have hruns : (exec next (initial 0) MeteredRun.knownCalls).map (fun r =>
      ((r.metrics.stream knownName).isSome,
        (r.shown knownName).map (List.map fun p => (p.latency, p.packet.numbers)))) =
        some (true, some [(13000000, [5])]) := by
    decide +kernel
  obtain ⟨r, hrun, hdata⟩ := Option.map_eq_some_iff.mp hruns
  obtain ⟨hmade, hwindow⟩ := Prod.mk.inj hdata
  obtain ⟨m, hm⟩ := Option.isSome_iff_exists.mp hmade
  obtain ⟨good, hshown, hgood⟩ := Option.map_eq_some_iff.mp hwindow
  have hapart : KeysApart MeteredRun.knownCalls := by
    intro a ha b hb fresh fresh' hfresh hfresh' _
    have hknown : ∀ c ∈ MeteredRun.knownCalls, ∀ n, makes c = some n → n = StreamMetrics.knownNewMetrics := by
      intro c hc n hn
      simp only [MeteredRun.knownCalls, List.mem_cons, List.not_mem_nil, or_false] at hc
      rcases hc with rfl | rfl | rfl
      · exact (Option.some.inj hn).symm
      · cases hn
      · exact (Option.some.inj hn).symm
    rw [hknown a ha fresh hfresh, hknown b hb fresh' hfresh']
  obtain ⟨p, rfl, hp⟩ := List.map_eq_singleton_iff.mp hgood
  obtain ⟨hlatency, hnumbers⟩ := Prod.mk.inj hp
  have hfits : Fits [p] := by
    refine ⟨fun q hq _ x hx => ?_, by simp [hlatency]⟩
    obtain rfl := List.mem_singleton.mp hq
    rw [hnumbers, List.mem_singleton] at hx
    norm_num [hx]
  obtain ⟨hgauges, _, _, hmachine⟩ := (gauges_shown 0 _ r hapart hrun).1 knownName m hm
  refine ⟨r, m, _, _, hrun, hm, hshown, hgauges, ?_, (hmachine _ hshown hfits).symm.trans hgauges⟩
  rw [hshown]
  show averageLatency 60 [p] = 13
  simp [averageLatency, mean, hlatency]
  norm_num

end GaugedRun

end USEEDLinkToRingServer
