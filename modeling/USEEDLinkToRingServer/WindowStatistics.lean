import USEEDLinkToRingServer.Library.Moments
import USEEDLinkToRingServer.StreamHistory
import Mathlib.Analysis.Real.Sqrt

/-!
# The statistics of a window

Between two tabulations the good packets of a stream add up the number of their samples, the samples and
their squares. A tabulation makes the average and the standard deviation of these three. The factor that is
meant to normalize the variance is applied to its root.
-/

namespace USEEDLinkToRingServer

open Machine Moments

/-! ### The samples of a packet -/

/-- The samples of a packet as numbers, as many as it says it has. A text has none. -/
def Packet.numbers (p : Packet) : List ℚ :=
  let values (u : SampleType) : List ℚ :=
    ((p.pImpl.buffer u).take p.getNumberOfSamples.toNat).map u.toDouble
  match p.getDataType with
  | .integer32 => values .integer32
  | .float => values .float
  | .double => values .double
  | .text => []
  | .unknown => []

theorem foldl_add_eq_sum {α : Type*} (f : α → ℚ) (data : List α) :
    data.foldl (fun result x => result + f x) 0 = (data.map f).sum := by
  rw [List.sum_eq_foldl, List.foldl_map]

/-- Both sums are sums over the samples. -/
theorem accumulateSamples_eq {term : ℚ → ℚ} {failure : String} {p : Packet} (hpos : 1 ≤ p.getNumberOfSamples)
    (htype : p.getDataType ≠ .text ∧ p.getDataType ≠ .unknown) :
    accumulateSamples term failure p = .ok (p.numbers.map term).sum := by
  simp only [accumulateSamples, Packet.numbers, if_neg (not_lt.mpr hpos)]
  cases hcase : p.getDataType with
  | text => exact absurd hcase htype.1
  | unknown => exact absurd hcase htype.2
  | integer32 => rw [List.map_map, ← foldl_add_eq_sum]; rfl
  | float => rw [List.map_map, ← foldl_add_eq_sum]; rfl
  | double => rw [List.map_map, ← foldl_add_eq_sum]; rfl

theorem length_numbers {p : Packet} (hpos : 1 ≤ p.getNumberOfSamples)
    (htype : p.getDataType ≠ .text ∧ p.getDataType ≠ .unknown) :
    (p.numbers.length : Int) = p.getNumberOfSamples := by
  have hbuffer : ∀ u : SampleType, p.getDataType = u.dataType →
      (((p.pImpl.buffer u).take p.getNumberOfSamples.toNat).length : Int) = p.getNumberOfSamples := by
    intro u hu
    have hsize : p.getNumberOfSamples = castToInt (p.pImpl.buffer u).length :=
      PacketImpl.size_of_dataType _ _ hu
    have hle := (castToInt_le (p.pImpl.buffer u).length).1
    rw [List.length_take]
    omega
  simp only [Packet.numbers]
  cases hcase : p.getDataType with
  | text => exact absurd hcase htype.1
  | unknown => exact absurd hcase htype.2
  | integer32 => rw [List.length_map]; exact hbuffer .integer32 hcase
  | float => rw [List.length_map]; exact hbuffer .float hcase
  | double => rw [List.length_map]; exact hbuffer .double hcase

/-- What a packet with samples adds to the three running sums. -/
theorem StreamMetrics.statistics_eq {p : Packet} (hpos : 1 ≤ p.getNumberOfSamples) :
    statistics p = .ok (p.numbers.length, p.numbers.sum, sumOfSquares p.numbers) := by
  unfold statistics
  split
  · next hnumbers =>
    have htype : p.getDataType ≠ .text ∧ p.getDataType ≠ .unknown := by
      constructor <;> intro heq <;> simp [heq] at hnumbers
    have hsquares : (p.numbers.map fun x => x * x) = p.numbers.map fun x => x ^ 2 :=
      List.map_congr_left fun x _ => (sq x).symm
    rw [computeSumOfSamples, computeSumOfSamplesSquared, accumulateSamples_eq hpos htype,
      accumulateSamples_eq hpos htype, length_numbers hpos htype, sumOfSquares, ← hsquares, List.map_id']
    rfl
  · next hnumbers =>
    have hnil : p.numbers = [] := by
      simp only [Packet.numbers]
      cases hcase : p.getDataType <;> simp [hcase] at hnumbers ⊢
    rw [hnil]
    rfl

/-! ### The running sums are those of the window -/

namespace StreamRun

variable {r r' : StreamRun}

/-- The samples of the packets counted as good since the last tabulation. -/
def windowSamples (r : StreamRun) : List ℚ := (r.window.filter (·.good)).flatMap (·.packet.numbers)

/-- The running sums belong to the samples of the window. -/
structure SumsWindow (r : StreamRun) : Prop where
  samples : r.metrics.mRunningSamplesCounter = r.windowSamples.length
  sum : r.metrics.mRunningSum = r.windowSamples.sum
  squares : r.metrics.mRunningSumSquared = sumOfSquares r.windowSamples

theorem windowSamples_count (r : StreamRun) (a : Arrival) (endTime : Int) :
    (r.count a endTime).windowSamples = r.windowSamples ++
      if Branch.of r.metrics.mMostRecentSample endTime a.now = .good then a.packet.numbers else [] := by
  by_cases hgood : Branch.of r.metrics.mMostRecentSample endTime a.now = .good
  · simp [windowSamples, count, hgood]
  · simp [windowSamples, count, hgood]

/-- The samples of a good packet are added to the sums, and those of any other are not. -/
theorem SumsWindow.count (h : r.SumsWindow) {a : Arrival} (endTime : Int)
    (hpos : 1 ≤ a.packet.getNumberOfSamples) : (r.count a endTime).SumsWindow := by
  have hsums := StreamMetrics.statistics_eq hpos
  have hmetrics : (r.count a endTime).metrics = r.metrics.count a.packet endTime a.now a.later := rfl
  by_cases hgood : Branch.of r.metrics.mMostRecentSample endTime a.now = .good
  · refine ⟨?_, ?_, ?_⟩ <;> rw [hmetrics, windowSamples_count, if_pos hgood] <;>
      simp only [StreamMetrics.count, hgood, hsums]
    · rw [h.samples, List.length_append, Nat.cast_add]
    · rw [h.sum, List.sum_append]
    · rw [h.squares, sumOfSquares_append]
  · have hkept : (r.metrics.count a.packet endTime a.now a.later).mRunningSamplesCounter =
          r.metrics.mRunningSamplesCounter ∧
        (r.metrics.count a.packet endTime a.now a.later).mRunningSum = r.metrics.mRunningSum ∧
        (r.metrics.count a.packet endTime a.now a.later).mRunningSumSquared =
          r.metrics.mRunningSumSquared := by
      unfold StreamMetrics.count
      cases hbranch : Branch.of r.metrics.mMostRecentSample endTime a.now with
      | good => exact absurd hbranch hgood
      | future => exact ⟨rfl, rfl, rfl⟩
      | expired => exact ⟨rfl, rfl, rfl⟩
      | late => exact ⟨rfl, rfl, rfl⟩
    refine ⟨?_, ?_, ?_⟩ <;> rw [hmetrics, windowSamples_count, if_neg hgood, List.append_nil]
    · rw [hkept.1, h.samples]
    · rw [hkept.2.1, h.sum]
    · rw [hkept.2.2, h.squares]

theorem SumsWindow.next {call : StreamCall} (h : r.SumsWindow) (hnext : r.next call = some r') :
    r'.SumsWindow := by
  cases call with
  | update a =>
    rcases next_update hnext with rfl | ⟨time, htime, rfl⟩
    · exact h
    · exact h.count _ (Packet.getEndTime_eq_ok.mp htime).2.1
  | tabulateAndResetMetrics sampleInterval =>
    obtain rfl := next_tabulate hnext
    exact ⟨rfl, rfl, rfl⟩

theorem Reached.sumsWindow (h : r.Reached) : r.SumsWindow := by
  obtain ⟨packet, m, o, hnew, calls, hrun⟩ := h
  obtain ⟨_, _, _, _, _, _, rfl⟩ := StreamMetrics.named_eq_ok.mp hnew
  exact invariant (fun _ _ _ => SumsWindow.next) ⟨rfl, rfl, rfl⟩ hrun

end StreamRun

/-! ### What a tabulation exports -/

/-- The root is taken of a positive variance, and the factor is applied to the root. -/
noncomputable def StandardDeviation.value (d : StandardDeviation) : ℝ :=
  d.besselCorrection * √(max 0 d.varianceOfCounts)

namespace StreamRun

variable {r r' : StreamRun} {sampleInterval : Int}

/-- The average that a tabulation exports for the stream. -/
def exportedAverage (r : StreamRun) (sampleInterval : Int) : Option ℚ :=
  (r.metrics.tabulateAndResetMetrics sampleInterval r.observables).2.mObservableAverageCounts.lookup
    r.metrics.mMetricsKey

/-- The standard deviation that a tabulation exports for the stream. -/
noncomputable def exportedDeviation (r : StreamRun) (sampleInterval : Int) : Option ℝ :=
  ((r.metrics.tabulateAndResetMetrics sampleInterval r.observables).2.mObservableStandardDeviationOfCounts.lookup
    r.metrics.mMetricsKey).map (·.value)

theorem exportedAverage_eq (h : r.SumsWindow) (hne : r.windowSamples ≠ []) :
    r.exportedAverage sampleInterval = some (mean r.windowSamples) := by
  have hpos : r.metrics.mRunningSamplesCounter > 0 := by
    have := List.length_pos_iff.mpr hne
    rw [h.samples]
    omega
  rw [exportedAverage, StreamMetrics.tabulateAndResetMetrics, AList.lookup_insert, if_pos hpos, h.sum,
    h.samples, mean, Int.cast_natCast]

theorem exportedDeviation_eq (h : r.SumsWindow) (hmany : 2 ≤ r.windowSamples.length) :
    r.exportedDeviation sampleInterval =
      some (StandardDeviation.value
        ⟨r.windowSamples.length / (r.windowSamples.length - 1),
          sumOfSquares r.windowSamples / r.windowSamples.length -
            mean r.windowSamples * mean r.windowSamples⟩) := by
  have hone : r.metrics.mRunningSamplesCounter > 1 := by
    rw [h.samples]
    omega
  have hpos : r.metrics.mRunningSamplesCounter > 0 := by omega
  rw [exportedDeviation, StreamMetrics.tabulateAndResetMetrics, AList.lookup_insert, if_pos hone,
    if_pos hpos, if_pos hpos, h.sum, h.samples, h.squares, mean, Int.cast_natCast]
  rfl

/-- The running sums are all that the statistics depend on. -/
theorem exported_congr {sampleInterval' : Int}
    (hsamples : r.metrics.mRunningSamplesCounter = r'.metrics.mRunningSamplesCounter)
    (hsum : r.metrics.mRunningSum = r'.metrics.mRunningSum)
    (hsquares : r.metrics.mRunningSumSquared = r'.metrics.mRunningSumSquared) :
    r.exportedAverage sampleInterval = r'.exportedAverage sampleInterval' ∧
      r.exportedDeviation sampleInterval = r'.exportedDeviation sampleInterval' := by
  rw [exportedAverage, exportedAverage, exportedDeviation, exportedDeviation]
  simp only [StreamMetrics.tabulateAndResetMetrics, AList.lookup_insert, hsamples, hsum, hsquares,
    and_self]

/-- Neither the packets nor the order of the samples matter. -/
theorem exported_perm {sampleInterval' : Int} (h : r.SumsWindow) (h' : r'.SumsWindow)
    (hperm : r'.windowSamples.Perm r.windowSamples) :
    r'.exportedAverage sampleInterval' = r.exportedAverage sampleInterval ∧
      r'.exportedDeviation sampleInterval' = r.exportedDeviation sampleInterval := by
  apply exported_congr
  · rw [h.samples, h'.samples, hperm.length_eq]
  · rw [h.sum, h'.sum, hperm.sum_eq]
  · rw [h.squares, h'.squares, sumOfSquares_perm hperm]

/-! ### The factor is applied to the root -/

/-- The square of the standard deviation has the factor twice. -/
theorem deviation_sq {xs : List ℚ} (hmany : 2 ≤ xs.length) :
    StandardDeviation.value
        ⟨xs.length / (xs.length - 1), sumOfSquares xs / xs.length - mean xs * mean xs⟩ ^ 2 *
        (xs.length - 1) =
      (xs.length / (xs.length - 1) * squaredDeviations xs : ℚ) := by
  have hne : xs ≠ [] := List.ne_nil_of_length_pos (by omega)
  have hlength : (xs.length : ℚ) ≠ 0 := Nat.cast_ne_zero.mpr (by omega)
  have hless : (xs.length : ℚ) - 1 ≠ 0 := by
    have hcast : (2 : ℚ) ≤ xs.length := by exact_mod_cast hmany
    linarith
  set variance : ℚ := sumOfSquares xs / xs.length - mean xs * mean xs with hvariance
  have hdeviations : xs.length * variance = squaredDeviations xs := length_mul_variance hne
  have hnonneg : 0 ≤ variance := by
    have hpos : (0 : ℚ) < xs.length := Nat.cast_pos.mpr (by omega)
    have hproduct : 0 ≤ xs.length * variance := by
      rw [hdeviations]
      exact deviationsFrom_nonneg _ _
    exact nonneg_of_mul_nonneg_right hproduct hpos
  have hmax : max (0 : ℝ) variance = variance := max_eq_right (Rat.cast_nonneg.mpr hnonneg)
  have hroot : √(variance : ℝ) ^ 2 = variance := Real.sq_sqrt (Rat.cast_nonneg.mpr hnonneg)
  rw [StandardDeviation.value, hmax, mul_pow, hroot, ← hdeviations]
  push_cast
  have hless' : (xs.length : ℝ) - 1 ≠ 0 := by exact_mod_cast hless
  field_simp

/-- The statistics of the window are those of its samples, however they came. -/
structure FaithfulStatistics (r : StreamRun) (sampleInterval : Int) : Prop where
  average : 1 ≤ r.windowSamples.length →
    r.exportedAverage sampleInterval = some (mean r.windowSamples)
  deviation : 2 ≤ r.windowSamples.length →
    ∃ deviation : ℝ, r.exportedDeviation sampleInterval = some deviation ∧
      deviation ^ 2 * (r.windowSamples.length - 1) = (squaredDeviations r.windowSamples : ℚ)
  unordered : ∀ (r' : StreamRun) (sampleInterval' : Int), r'.Reached →
    r'.windowSamples.Perm r.windowSamples →
      r'.exportedAverage sampleInterval' = r.exportedAverage sampleInterval ∧
        r'.exportedDeviation sampleInterval' = r.exportedDeviation sampleInterval

theorem squaredDeviations_eq_zero_of_faithful (hsums : r.SumsWindow)
    (h : r.FaithfulStatistics sampleInterval) : squaredDeviations r.windowSamples = 0 := by
  by_cases hmany : 2 ≤ r.windowSamples.length
  · obtain ⟨deviation, hexported, hsq⟩ := h.deviation hmany
    rw [exportedDeviation_eq hsums hmany, Option.some.injEq] at hexported
    rw [← hexported, deviation_sq hmany, Rat.cast_inj] at hsq
    have hcast : (2 : ℚ) ≤ r.windowSamples.length := by exact_mod_cast hmany
    have hless : (r.windowSamples.length : ℚ) - 1 ≠ 0 := by linarith
    field_simp at hsq
    linarith
  · rw [squaredDeviations_eq_zero_iff]
    intro x hx y hy
    obtain ⟨z, hz⟩ : ∃ z, r.windowSamples = [z] := by
      apply List.length_eq_one_iff.mp
      have := List.length_pos_of_mem hx
      omega
    rw [hz, List.mem_singleton] at hx hy
    rw [hx, hy]

/-- **The statistics are those of the samples exactly when these do not deviate**: after any calls on the
metrics of a stream, what the next tabulation exports is the mean and the normalized deviation of the samples
of the good packets since the last one, in any order and split in any way, if and only if all of them are
the same. -/
theorem faithfulStatistics_iff (r : StreamRun) (sampleInterval : Int) (hreached : r.Reached) :
    r.FaithfulStatistics sampleInterval ↔ ∀ x ∈ r.windowSamples, ∀ y ∈ r.windowSamples, x = y := by
  have hsums := hreached.sumsWindow
  rw [← squaredDeviations_eq_zero_iff]
  constructor
  · exact squaredDeviations_eq_zero_of_faithful hsums
  · intro hzero
    refine ⟨fun hsome => ?_, fun hmany => ?_, fun r' _ hreached' hperm => ?_⟩
    · exact exportedAverage_eq hsums (List.ne_nil_of_length_pos hsome)
    · refine ⟨_, exportedDeviation_eq hsums hmany, ?_⟩
      rw [deviation_sq hmany, hzero, mul_zero]
    · exact exported_perm hsums hreached'.sumsWindow hperm

/-- The run in which the packet with the given samples arrives after a tabulation. -/
def knownCalls (samples : List Int32) : List StreamCall :=
  [.tabulateAndResetMetrics 60,
    .update ⟨knownPacket .integer32 samples, 1759952900000000, 1759952900000000⟩]

/-- Two samples that are the same have no deviation. -/
theorem faithfulStatistics_iff_known :
    ∃ r, exec StreamRun.next (start StreamMetrics.knownNewMetrics {}) (knownCalls [5, 5]) = some r ∧
      r.windowSamples = [5, 5] ∧ r.FaithfulStatistics 60 := by
  have hruns : (exec StreamRun.next (start StreamMetrics.knownNewMetrics {}) (knownCalls [5, 5])).map
      windowSamples = some [5, 5] := by
    decide +kernel
  obtain ⟨r, hrun, hsamples⟩ := Option.map_eq_some_iff.mp hruns
  refine ⟨r, hrun, hsamples, ?_⟩
  refine (faithfulStatistics_iff r 60 ⟨knownPacket .integer32 [5], _, _, rfl, _, hrun⟩).mpr ?_
  rw [hsamples]
  decide

/-- The samples 1 and 2 have a standard deviation of 1 instead of the root of one half. -/
theorem not_faithfulStatistics :
    ¬ ∀ (r : StreamRun) (sampleInterval : Int), r.Reached → r.FaithfulStatistics sampleInterval := by
  intro hclaim
  have hruns : (exec StreamRun.next (start StreamMetrics.knownNewMetrics {}) (knownCalls [1, 2])).map
      windowSamples = some [1, 2] := by
    decide +kernel
  obtain ⟨r, hrun, hsamples⟩ := Option.map_eq_some_iff.mp hruns
  have hreached : r.Reached := ⟨knownPacket .integer32 [5], _, _, rfl, _, hrun⟩
  have hzero := squaredDeviations_eq_zero_of_faithful hreached.sumsWindow (hclaim r 60 hreached)
  rw [hsamples, squaredDeviations_eq_zero_iff] at hzero
  exact absurd (hzero 1 (by decide) 2 (by decide)) (by decide)

end StreamRun

end USEEDLinkToRingServer
