import USEEDLinkToRingServer.Library.Fallible
import USEEDLinkToRingServer.PacketObjects
import USEEDLinkToRingServer.RecordWalk

/-!
# The range of the end times

An end time is the start time and the rounded duration of the samples, both counted in nanoseconds by 64 bits.
The setters admit every positive rate and every start time, and the reader takes both from the record.
-/

namespace USEEDLinkToRingServer

open Objects

namespace Packet

/-- The duration of the samples, before its cast. -/
def traceDuration (p : Packet) : Int :=
  PacketImpl.traceDuration p.getNumberOfSamples p.pImpl.mSamplingRate

def FitsInt64 (x : Int) : Prop := -2 ^ 63 ≤ x ∧ x < 2 ^ 63

/-- Nothing overflows on the way to the end time, and it does not lie before the start time. -/
structure EndTimeFits (p : Packet) : Prop where
  duration : FitsInt64 p.traceDuration
  endTime : FitsInt64 (p.getStartTime.toInt + p.traceDuration)
  ordered : ∃ endTime, p.getEndTime = .ok endTime ∧ p.getStartTime ≤ endTime

/-! ### Durations -/

theorem stdRound_of_nonneg {x : ℚ} (h : 0 ≤ x) : stdRound x = ⌊x + 1 / 2⌋ := if_pos h

section

variable {n : Int} {rate : ℚ}

theorem duration_nonneg (hn : 1 ≤ n) (hrate : 0 < rate) :
    0 ≤ ((n - 1 : Int) : ℚ) / rate * 1000000000 := by
  have hcount : (0 : ℚ) ≤ ((n - 1 : Int) : ℚ) := Int.cast_nonneg (Int.sub_nonneg.mpr hn)
  positivity

theorem traceDuration_nonneg (hn : 1 ≤ n) (hrate : 0 < rate) : 0 ≤ PacketImpl.traceDuration n rate := by
  have hpos := duration_nonneg hn hrate
  rw [PacketImpl.traceDuration, stdRound_of_nonneg hpos, Int.floor_nonneg]
  linarith

/-- The samples last less than a whole number of nanoseconds when half a nanosecond less than that is longer
than the time between the first and the last. -/
theorem traceDuration_lt_iff (hn : 1 ≤ n) (hrate : 0 < rate) (limit : Int) :
    PacketImpl.traceDuration n rate < limit ↔
      ((n - 1 : Int) : ℚ) * 10 ^ 9 < (limit - 1 / 2) * rate := by
  rw [PacketImpl.traceDuration, stdRound_of_nonneg (duration_nonneg hn hrate), Int.floor_lt]
  have hscale : ((n - 1 : Int) : ℚ) / rate * 1000000000 = ((n - 1 : Int) : ℚ) * 10 ^ 9 / rate := by ring
  rw [← lt_sub_iff_add_lt, hscale, div_lt_iff₀ hrate]

end

/-! ### End times -/

variable {p : Packet}

/-- The end time of a packet with samples and a rate, when it fits. -/
theorem getEndTime_of_fits (hp : p.Coherent) (hrate : p.hasSamplingRate = true)
    (hsamples : 1 ≤ p.getNumberOfSamples) (hduration : FitsInt64 p.traceDuration)
    (hend : FitsInt64 (p.getStartTime.toInt + p.traceDuration)) :
    ∃ endTime, p.getEndTime = .ok endTime ∧ endTime.toInt = p.getStartTime.toInt + p.traceDuration := by
  have hpos : p.pImpl.size > 0 ∧ p.pImpl.mSamplingRate > 0 := ⟨hsamples, of_decide_eq_true hrate⟩
  refine ⟨_, getEndTime_eq_ok.mpr ⟨hrate, hsamples, rfl⟩, ?_⟩
  rw [hp.endTime, PacketImpl.endTime, if_pos hpos, Int64.toInt_add]
  have hcast : (castToInt64 p.traceDuration).toInt = p.traceDuration := by
    have hcast : castToInt64 p.traceDuration = Int64.ofInt p.traceDuration := if_pos hduration
    rw [hcast]
    exact Int64.toInt_ofInt_of_le hduration.1 hduration.2
  show (p.getStartTime.toInt + (castToInt64 p.traceDuration).toInt).bmod (2 ^ 64) = _
  rw [hcast]
  obtain ⟨hlow, hhigh⟩ := hend
  exact Int.bmod_eq_of_le (by omega) (by omega)

theorem endTimeFits_iff_lt (hp : p.Coherent) (hrate : p.hasSamplingRate = true)
    (hsamples : 1 ≤ p.getNumberOfSamples) :
    p.EndTimeFits ↔ p.traceDuration < 2 ^ 63 - max 0 p.getStartTime.toInt := by
  have hduration : 0 ≤ p.traceDuration := traceDuration_nonneg hsamples (of_decide_eq_true hrate)
  have hstart := Int64.le_toInt p.getStartTime
  constructor
  · intro h
    have hfirst := h.duration.2
    have hsecond := h.endTime.2
    omega
  · intro hlt
    have hfirst : FitsInt64 p.traceDuration := ⟨by omega, by omega⟩
    have hsecond : FitsInt64 (p.getStartTime.toInt + p.traceDuration) := ⟨by omega, by omega⟩
    obtain ⟨endTime, hget, hvalue⟩ := getEndTime_of_fits hp hrate hsamples hfirst hsecond
    refine ⟨hfirst, hsecond, endTime, hget, Int64.le_iff_toInt_le.mpr ?_⟩
    omega

/-- **End times** of the packets a client can make fit in 64 bits exactly when the samples do not reach beyond
the last nanosecond that can be counted. -/
theorem endTimeFits_iff (p : Packet) (hreached : objects.Reachable p) (hrate : p.hasSamplingRate = true)
    (hsamples : 1 ≤ p.getNumberOfSamples) :
    p.EndTimeFits ↔
      ((p.getNumberOfSamples - 1 : Int) : ℚ) * 10 ^ 9 <
        (2 ^ 63 - max 0 p.getStartTime.toInt - 1 / 2) * p.pImpl.mSamplingRate := by
  rw [endTimeFits_iff_lt (keeps_coherent.reachable hreached) hrate hsamples, traceDuration,
    traceDuration_lt_iff hsamples (of_decide_eq_true hrate)]
  push_cast
  exact Iff.rfl

end Packet

/-! ### The packets of the reader -/

section

variable {lib : Libmseed} {record : MS3Record} {packet : Packet}

theorem unpackRecord_samplingRate (h : unpackRecord lib record = .ok packet) :
    packet.pImpl.mSamplingRate = record.samprate ∧ packet.hasSamplingRate = true := by
  obtain ⟨nslc, _, _, hpos, hsamples⟩ := unpackRecord_eq_ok.mp h
  have hrate : packet.pImpl.mSamplingRate = record.samprate :=
    (unpackSamples_frame hsamples).2.2.1.trans (describe_frame record nslc).2.2.1
  refine ⟨hrate, decide_eq_true ?_⟩
  rw [hrate]
  exact hpos

theorem reachable_of_ok {p p' : Packet} {c : PacketCall} (hp : Packet.objects.Reachable p)
    (hok : p.outcome c = .ok p') : Packet.objects.Reachable p' := by
  have hafter := hp.call c
  rw [Packet.call_eq_attempt, hok] at hafter
  exact hafter

theorem describe_reachable {nslc : Nslc} (hnonblank : nslc.NonBlank) (hrate : 0 < record.samprate) :
    Packet.objects.Reachable (describe record nslc) := by
  have hnew : Packet.objects.Reachable {} := ⟨(), {}, [], rfl, rfl⟩
  have hnamed := reachable_of_ok (c := .setStreamIdentifier (canonical nslc)) hnew
    (Packet.setStreamIdentifier_eq_ok.mpr ⟨(canonical_complete hnonblank).has, rfl⟩)
  have hrated := reachable_of_ok (c := .setSamplingRate record.samprate) hnamed
    (Packet.setSamplingRate_eq_ok.mpr ⟨hrate, rfl⟩)
  exact hrated.call (.setStartTime (castToInt64 (roundInt64 record.starttime)))

/-- The reader makes a packet with the calls that every client has. -/
theorem unpackRecord_reachable (h : unpackRecord lib record = .ok packet) :
    Packet.objects.Reachable packet := by
  obtain ⟨nslc, _, hnonblank, hrate, hsamples⟩ := unpackRecord_eq_ok.mp h
  have hdescribed := describe_reachable hnonblank hrate
  have hset : ∀ {u : SampleType} {nSamples : Int} {x : Option (List u.Value)},
      unfreed ((describe record nslc).setDataArray u nSamples x) = .ok packet →
        Packet.objects.Reachable packet := by
    intro u nSamples x hx
    exact reachable_of_ok (c := .setDataArray u nSamples x) hdescribed (unfreed_eq_ok.mp hx)
  unfold unpackSamples at hsamples
  dsimp only at hsamples
  split at hsamples
  · split at hsamples
    · exact hset hsamples
    · split at hsamples
      · exact hset hsamples
      · split at hsamples
        · exact hset hsamples
        · cases hsamples
  · obtain rfl := Except.ok.inj hsamples
    exact hdescribed

end

theorem endTimeFits_iff_known :
    ∃ packet, unpackRecord (.knowing knownRecord knownNames) knownRecord.record = .ok packet ∧
      (packet.EndTimeFits ↔ ((1 - 1 : Int) : ℚ) * 10 ^ 9 <
        (2 ^ 63 - max 0 packet.getStartTime.toInt - 1 / 2) * packet.pImpl.mSamplingRate) := by
  have hread : (unpackRecord (.knowing knownRecord knownNames) knownRecord.record).map
      Packet.getNumberOfSamples = .ok 1 := by decide +kernel
  obtain ⟨packet, hunpack, hnumber⟩ := Fallible.map_eq_ok_iff.mp hread
  have hiff := Packet.endTimeFits_iff packet (unpackRecord_reachable hunpack)
    (unpackRecord_samplingRate hunpack).2 hnumber.ge
  rw [hnumber] at hiff
  exact ⟨packet, hunpack, hiff⟩

/-- A record of the known station with two samples that are more than three hundred years apart. -/
def slowRecord : MS3Record :=
  { knownRecord.record with
    samprate := 1 / 10 ^ 10
    samplecnt := 2
    datasamples := .of .integer32 [5, 6]
    numsamples := 2 }

/-- Its duration does not fit. -/
theorem endTime_not_fits :
    ¬ ∀ (lib : Libmseed) (record : MS3Record) (packet : Packet), unpackRecord lib record = .ok packet →
      1 ≤ packet.getNumberOfSamples → packet.EndTimeFits := by
  intro hclaim
  have hread : (unpackRecord (.knowing knownRecord knownNames) slowRecord).map
      Packet.getNumberOfSamples = .ok 2 := by decide +kernel
  obtain ⟨packet, hunpack, hnumber⟩ := Fallible.map_eq_ok_iff.mp hread
  have hlong := (hclaim _ _ packet hunpack (by omega)).duration.2
  have hpos : (0 : ℚ) < 1 / 10 ^ 10 := by norm_num
  have hrate : packet.pImpl.mSamplingRate = 1 / 10 ^ 10 := (unpackRecord_samplingRate hunpack).1
  rw [Packet.traceDuration, hnumber, hrate] at hlong
  have hshort := (Packet.traceDuration_lt_iff (by decide) hpos _).mp hlong
  norm_num at hshort

end USEEDLinkToRingServer
