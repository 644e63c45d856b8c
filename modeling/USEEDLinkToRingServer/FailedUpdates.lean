import USEEDLinkToRingServer.MetricsConservation
import USEEDLinkToRingServer.PacketClasses
import USEEDLinkToRingServer.WindowStatistics

/-!
# Updates that fail

An update throws when the packet cannot name its stream or its end. The metrics of a known stream are then
as before. For a new stream the constructor has already set the gauges to zero.
-/

namespace USEEDLinkToRingServer

open Machine

/-! ### Telling states apart -/

/-- The telemetry reads the same. -/
structure Observables.Same (o o' : Observables) : Prop where
  counters : ∀ c key, (o'.counter c).get key = (o.counter c).get key
  averageLatency : ∀ key,
    o'.mObservableAverageLatency.lookup key = o.mObservableAverageLatency.lookup key
  averageCounts : ∀ key,
    o'.mObservableAverageCounts.lookup key = o.mObservableAverageCounts.lookup key
  standardDeviation : ∀ key,
    (o'.mObservableStandardDeviationOfCounts.lookup key).map (·.value) =
      (o.mObservableStandardDeviationOfCounts.lookup key).map (·.value)

/-- The gauges under a key are zero. -/
structure Observables.GaugesZero (o : Observables) (key : Str) : Prop where
  averageLatency : o.mObservableAverageLatency.lookup key = some 0
  averageCounts : o.mObservableAverageCounts.lookup key = some 0
  standardDeviation :
    (o.mObservableStandardDeviationOfCounts.lookup key).map (·.value) = some 0

/-- Neither the metrics of any stream nor what is exported has changed. -/
structure MetricsStore.Same (s s' : MetricsStore) : Prop where
  map : s'.map = s.map
  observables : s.observables.Same s'.observables

theorem Observables.Same.refl (o : Observables) : o.Same o :=
  ⟨fun _ _ => rfl, fun _ => rfl, fun _ => rfl, fun _ => rfl⟩

theorem StandardDeviation.value_zero : StandardDeviation.value {} = 0 := by
  simp [StandardDeviation.value]

/-- Looking up an inserted value finds what was there exactly when the value was there. -/
theorem lookup_insert_same_iff {β γ : Type} (f : β → γ) (m : StdMap β) (key : Str) (b : β) :
    (∀ key', ((m.insert key b).lookup key').map f = (m.lookup key').map f) ↔
      (m.lookup key).map f = some (f b) := by
  constructor
  · intro hsame
    have hkey := hsame key
    rw [AList.lookup_insert] at hkey
    exact hkey.symm
  · intro hheld key'
    by_cases hkey : key' = key
    · rw [hkey, AList.lookup_insert, hheld]
      rfl
    · rw [AList.lookup_insert_ne hkey]

/-- The zeros of a constructor are seen unless the gauges were zero. -/
theorem Observables.same_zeroGauges_iff {o : Observables} {key : Str} :
    o.Same (o.zeroGauges key) ↔ o.GaugesZero key := by
  have hlatency := lookup_insert_same_iff (fun x => x) o.mObservableAverageLatency key 0
  have hcounts := lookup_insert_same_iff (fun x => x) o.mObservableAverageCounts key 0
  have hdeviation :=
    lookup_insert_same_iff StandardDeviation.value o.mObservableStandardDeviationOfCounts key {}
  simp only [Option.map_id_fun', id_eq, StandardDeviation.value_zero] at hlatency hcounts hdeviation
  constructor
  · intro hsame
    exact ⟨hlatency.mp hsame.averageLatency, hcounts.mp hsame.averageCounts,
      hdeviation.mp hsame.standardDeviation⟩
  · intro hzero
    exact ⟨fun c _ => by cases c <;> rfl, hlatency.mpr hzero.averageLatency,
      hcounts.mpr hzero.averageCounts, hdeviation.mpr hzero.standardDeviation⟩

namespace MetricsStore

variable {s : MetricsStore} {packet : Packet} {now later : Int} {e : Exception}

theorem Same.refl (s : MetricsStore) : s.Same s := ⟨rfl, .refl _⟩

/-- The packet would make a new stream: the gauges are set to zero if the update fails. -/
def MakesStream (s : MetricsStore) (packet : Packet) (m : StreamMetrics) : Prop :=
  StreamMetrics.named packet = .ok m ∧ s.stream m.mName = none

/-- A failed update has changed nothing but the gauges of a new stream. -/
theorem update_failed (h : (s.update packet now later).2 = .error e) :
    ((s.update packet now later).1 = s ∧ ∀ m, ¬ s.MakesStream packet m) ∨
      ∃ m, s.MakesStream packet m ∧
        (s.update packet now later).1 = { s with observables := s.observables.zeroGauges m.mMetricsKey } := by
  unfold update at h ⊢
  cases hname : packetName packet with
  | error e =>
    refine .inl ⟨rfl, fun m hm => ?_⟩
    rw [(StreamMetrics.named_fresh hm.1).1] at hname
    cases hname
  | ok identifier =>
    have hnamed : ∀ {m}, StreamMetrics.named packet = .ok m → identifier = m.mName := fun hm =>
      Except.ok.inj (hname.symm.trans (StreamMetrics.named_fresh hm).1)
    simp only [hname] at h ⊢
    cases hstream : s.stream identifier with
    | none =>
      simp only [hstream, StreamMetrics.construct] at h ⊢
      cases hnew : StreamMetrics.named packet with
      | error e =>
        refine .inl ⟨rfl, fun m hm => ?_⟩
        rw [hm.1] at hnew
        cases hnew
      | ok m =>
        simp only [hnew] at h ⊢
        cases hupdate : m.update packet now later with
        | error e => exact .inr ⟨m, ⟨hnew, hnamed hnew ▸ hstream⟩, rfl⟩
        | ok m' =>
          rw [hupdate] at h
          cases h
    | some m =>
      simp only [hstream] at h ⊢
      cases hupdate : m.update packet now later with
      | error e =>
        refine .inl ⟨rfl, fun m' hm' => ?_⟩
        rw [hnamed hm'.1, hm'.2] at hstream
        cases hstream
      | ok m' =>
        rw [hupdate] at h
        cases h

/-- **A failed update leaves no trace exactly when the stream is not new or its gauges are zero**: in every
state of the metrics and for every packet whose update throws, nothing has changed if and only if the packet
does not make a new stream, or the gauges under the key of this stream were zero before. -/
theorem update_failed_same_iff (s : MetricsStore) (packet : Packet) (now later : Int) (e : Exception)
    (hfailed : (s.update packet now later).2 = .error e) :
    s.Same (s.update packet now later).1 ↔
      ∀ m, s.MakesStream packet m → s.observables.GaugesZero m.mMetricsKey := by
  rcases update_failed hfailed with ⟨hsame, hnone⟩ | ⟨m, hm, hzeroed⟩
  · rw [hsame]
    exact iff_of_true (.refl s) fun m hm => absurd hm (hnone m)
  · rw [hzeroed]
    constructor
    · intro hsame m' hm'
      obtain rfl := Except.ok.inj (hm.1.symm.trans hm'.1)
      exact Observables.same_zeroGauges_iff.mp hsame.observables
    · intro hzero
      exact ⟨rfl, Observables.same_zeroGauges_iff.mpr (hzero m hm)⟩

/-- The metrics before any packet. -/
def initial (launchTime : Int) : MetricsStore := { map := { mLastSampleTime := launchTime } }

/-- A packet without samples of a known stream leaves no trace. -/
theorem update_failed_same_iff_known :
    ((initial 0).setStream knownName StreamMetrics.knownMetrics).Same
      (((initial 0).setStream knownName StreamMetrics.knownMetrics).update
        (knownPacket .integer32 []) 0 0).1 := by
  refine (update_failed_same_iff _ (knownPacket .integer32 []) 0 0
    (.runtimeError "No samples in signal") (by decide +kernel)).mpr ?_
  rintro m ⟨hnamed, hnone⟩
  obtain rfl : m = StreamMetrics.knownNewMetrics := Except.ok.inj (hnamed.symm.trans rfl)
  exact absurd hnone (by decide +kernel)

/-- A packet without samples of a new stream leaves gauges that are zero. -/
theorem update_failed_not_same :
    ¬ ∀ (launchTime : Int) (calls : List MetricsCall) (r : MeteredRun) (packet : Packet) (now later : Int)
        (e : Exception), exec MeteredRun.next { metrics := initial launchTime } calls = some r →
      (r.metrics.update packet now later).2 = .error e →
      r.metrics.Same (r.metrics.update packet now later).1 := by
  intro hclaim
  have hsame := hclaim 0 [] { metrics := initial 0 } (knownPacket .integer32 []) 0 0
    (.runtimeError "No samples in signal") rfl (by decide +kernel)
  have hlookup := hsame.observables.averageCounts StreamMetrics.knownNewMetrics.mMetricsKey
  exact absurd hlookup (by decide +kernel)

end MetricsStore

end USEEDLinkToRingServer
