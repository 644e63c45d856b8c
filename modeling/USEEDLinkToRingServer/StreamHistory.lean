import USEEDLinkToRingServer.Library.Watermark
import USEEDLinkToRingServer.PacketClasses

/-!
# The history of a stream

The metrics of one stream with the packets they have counted. The most recent sample is all that the
metrics keep of the end times that came before. It is a high-water mark over the packets that were not from
the future.
-/

namespace USEEDLinkToRingServer

open Machine

/-- A packet that was counted, with the end time and the clock reading that were compared. It is good if
the counter of the good packets went up. -/
structure Counted where
  packet : Packet
  endTime : Int
  now : Int
  good : Bool

inductive StreamCall
  | update (arrival : Arrival)
  | tabulateAndResetMetrics (sampleInterval : Int)

/-- The metrics of a stream with what was counted before the last tabulation and since then. -/
structure StreamRun where
  metrics : StreamMetrics
  observables : Observables
  tabulated : List Counted := []
  window : List Counted := []

namespace StreamRun

def next (r : StreamRun) : StreamCall → Option StreamRun
  | .update a =>
    match r.metrics.update a.packet a.now a.later with
    | .error _ => some r
    | .ok m =>
      let counted : Counted :=
        { packet := a.packet
          endTime := toMicroseconds (a.packet.getEndTime.toOption.getD 0)
          now := a.now
          good := m.running .good = r.metrics.running .good + 1 }
      some { r with metrics := m, window := r.window ++ [counted] }
  | .tabulateAndResetMetrics sampleInterval =>
    let (m, o) := r.metrics.tabulateAndResetMetrics sampleInterval r.observables
    some { metrics := m, observables := o, tabulated := r.tabulated ++ r.window }

/-- Everything that was counted, in the order of the updates. -/
def counted (r : StreamRun) : List Counted := r.tabulated ++ r.window

/-- The end times of the packets counted as good. -/
def goodEndTimes (r : StreamRun) : List Int := (r.counted.filter (·.good)).map (·.endTime)

/-! ### What a call does -/

/-- A packet of the stream is counted in the metrics and is the last of the window. -/
def count (r : StreamRun) (a : Arrival) (endTime : Int) : StreamRun :=
  { r with
    metrics := r.metrics.count a.packet endTime a.now a.later
    window := r.window ++
      [⟨a.packet, endTime, a.now, Branch.of r.metrics.mMostRecentSample endTime a.now = .good⟩] }

variable {r r' : StreamRun}

/-- An update throws and changes nothing, or its packet is the last one counted. -/
theorem next_update {a : Arrival} (h : r.next (.update a) = some r') :
    r' = r ∨ ∃ time, a.packet.getEndTime = .ok time ∧
      r' = r.count a (toMicroseconds time) := by
  rw [next] at h
  split at h
  · exact .inl (Option.some.inj h).symm
  · next m hupdate =>
    obtain ⟨_, time, htime, rfl⟩ := StreamMetrics.update_eq_ok.mp hupdate
    refine .inr ⟨time, htime, ?_⟩
    have hgood : ((r.metrics.count a.packet (toMicroseconds time) a.now a.later).running .good =
        r.metrics.running .good + 1) ↔
          Branch.of r.metrics.mMostRecentSample (toMicroseconds time) a.now = .good := by
      rw [StreamMetrics.count_running]
      cases Branch.of r.metrics.mMostRecentSample (toMicroseconds time) a.now <;> simp [Branch.counts]
    simp only [htime, hgood] at h
    exact (Option.some.inj h).symm

theorem next_tabulate {sampleInterval : Int}
    (h : r.next (.tabulateAndResetMetrics sampleInterval) = some r') :
    r' = { metrics := (r.metrics.tabulateAndResetMetrics sampleInterval r.observables).1
           observables := (r.metrics.tabulateAndResetMetrics sampleInterval r.observables).2
           tabulated := r.tabulated ++ r.window } :=
  (Option.some.inj h).symm

/-! ### The most recent sample is a high-water mark -/

/-- A packet offers its end time, and it is eligible unless it comes from the future. -/
def offer (c : Counted) : Watermark.Offer Int := ⟨c.endTime, c.endTime ≤ c.now⟩

theorem accepts_offer {mark endTime now : Int} :
    Watermark.accepts mark ⟨endTime, endTime ≤ now⟩ = decide (Branch.of mark endTime now = .good) := by
  rw [Bool.eq_iff_iff, Watermark.accepts_iff, decide_eq_true_iff, decide_eq_true_iff]
  unfold Branch.of
  split
  · next h => exact iff_of_true ⟨h.2, h.1⟩ rfl
  · next h =>
    refine iff_of_false (fun haccepted => h ⟨haccepted.2, haccepted.1⟩) ?_
    split
    · decide
    · split <;> decide

/-- The metrics of a stream are a high-water mark for the packets it has counted. -/
structure KeepsMark (r : StreamRun) : Prop where
  mark : r.metrics.mMostRecentSample = Watermark.markAfter 0 (r.counted.map offer)
  accepted : r.goodEndTimes = Watermark.accepted 0 (r.counted.map offer)
  each : ∀ earlier c rest, r.counted = earlier ++ c :: rest →
    c.good = Watermark.accepts (Watermark.markAfter 0 (earlier.map offer)) (offer c)

/-- One more packet raises the mark if it is good. -/
theorem KeepsMark.count (h : r.KeepsMark) (a : Arrival) (endTime : Int) : (r.count a endTime).KeepsMark := by
  have hcounted : (r.count a endTime).counted = r.counted ++
      [⟨a.packet, endTime, a.now, Branch.of r.metrics.mMostRecentSample endTime a.now = .good⟩] :=
    (List.append_assoc _ _ _).symm
  have haccepts := @accepts_offer r.metrics.mMostRecentSample endTime a.now
  refine ⟨?_, ?_, ?_⟩
  · rw [hcounted, List.map_append, List.map_singleton, Watermark.markAfter_concat, ← h.mark,
      Watermark.raise]
    show (r.metrics.count a.packet endTime a.now a.later).mMostRecentSample =
      if Watermark.accepts r.metrics.mMostRecentSample ⟨endTime, endTime ≤ a.now⟩ then endTime
      else r.metrics.mMostRecentSample
    rw [StreamMetrics.count_mMostRecentSample, haccepts]
    simp only [decide_eq_true_iff]
  · rw [goodEndTimes, hcounted, List.filter_append, List.map_append, List.map_append, List.map_singleton,
      Watermark.accepted_concat, ← h.mark, ← h.accepted]
    congr 1
    show List.map Counted.endTime (List.filter Counted.good [_]) =
      if Watermark.accepts r.metrics.mMostRecentSample ⟨endTime, endTime ≤ a.now⟩ then [endTime] else []
    rw [haccepts]
    by_cases hgood : Branch.of r.metrics.mMostRecentSample endTime a.now = .good
    · simp [hgood]
    · simp [hgood]
  · intro earlier c rest hsplit
    rw [hcounted] at hsplit
    rcases List.eq_nil_or_concat rest with rfl | ⟨rest', last, rfl⟩
    · obtain ⟨rfl, hc⟩ := List.append_inj' hsplit rfl
      obtain rfl := (List.cons.inj hc).1
      rw [← h.mark]
      exact haccepts.symm
    · rw [List.concat_eq_append, ← List.cons_append, ← List.append_assoc] at hsplit
      exact h.each earlier c rest' (List.append_inj' hsplit rfl).1

theorem KeepsMark.next {call : StreamCall} (h : r.KeepsMark) (hnext : r.next call = some r') :
    r'.KeepsMark := by
  cases call with
  | update a =>
    rcases next_update hnext with rfl | ⟨time, _, rfl⟩
    · exact h
    · exact h.count a _
  | tabulateAndResetMetrics sampleInterval =>
    obtain rfl := next_tabulate hnext
    -- the same packets, all of them tabulated now
    have hcounted : ∀ m o, counted { metrics := m, observables := o, tabulated := r.tabulated ++ r.window } =
        r.counted := fun _ _ => List.append_nil _
    refine ⟨?_, ?_, ?_⟩
    · rw [hcounted]
      exact h.mark
    · rw [goodEndTimes, hcounted]
      exact h.accepted
    · rw [hcounted]
      exact h.each

/-- A stream that has counted nothing. -/
def start (m : StreamMetrics) (o : Observables) : StreamRun := { metrics := m, observables := o }

/-- What calls lead to from the metrics that the constructor makes for a packet. -/
def Reached (r : StreamRun) : Prop :=
  ∃ packet m o, StreamMetrics.named packet = .ok m ∧ Reaches StreamRun.next (start m o) r

theorem Reached.keepsMark (h : r.Reached) : r.KeepsMark := by
  obtain ⟨packet, m, o, hnew, calls, hrun⟩ := h
  refine invariant (fun _ _ _ => KeepsMark.next) ⟨?_, rfl, ?_⟩ hrun
  · exact (StreamMetrics.named_fresh hnew).2.1
  · intro earlier c rest hsplit
    exact absurd hsplit (by simp [counted, start])

/-- **Good packets are strictly newer**: after any calls on the metrics of a stream with any clock readings,
the packets counted as good have strictly increasing end times that were not ahead of the clock, and the
most recent sample is the last of them. Conversely a packet that ends after the epoch, neither ahead of the
clock nor more than six months ago, and after every earlier packet that was not ahead of it, is good. -/
theorem good_strictly_newer (r : StreamRun) (hreached : r.Reached) :
    r.goodEndTimes.Pairwise (· < ·) ∧
      (∀ c ∈ r.counted, c.good = true → c.endTime ≤ c.now) ∧
      r.metrics.mMostRecentSample = r.goodEndTimes.getLast?.getD 0 ∧
      ∀ earlier c rest, r.counted = earlier ++ c :: rest → 0 < c.endTime → c.endTime ≤ c.now →
        c.now - months 6 ≤ c.endTime →
        (∀ e ∈ earlier, e.endTime ≤ e.now → e.endTime < c.endTime) → c.good = true := by
  have hkeeps := hreached.keepsMark
  refine ⟨?_, ?_, ?_, ?_⟩
  · rw [hkeeps.accepted]
    exact Watermark.accepted_pairwise
  · intro c hc hgood
    obtain ⟨earlier, rest, hsplit⟩ := List.append_of_mem hc
    rw [hkeeps.each earlier c rest hsplit, Watermark.accepts_iff] at hgood
    exact of_decide_eq_true hgood.1
  · rw [hkeeps.mark, Watermark.markAfter_eq, hkeeps.accepted]
  · intro earlier c rest hsplit hpos hclock _ hlater
    rw [hkeeps.each earlier c rest hsplit, Watermark.accepts_iff, Watermark.markAfter_lt_iff]
    refine ⟨decide_eq_true hclock, hpos, fun offered hoffered heligible => ?_⟩
    obtain ⟨e, he, rfl⟩ := List.mem_map.mp hoffered
    exact hlater e he (of_decide_eq_true heligible)

/-- The first packet of a stream is good, and the same packet again is not. -/
theorem good_strictly_newer_known :
    ∃ r, exec StreamRun.next (start StreamMetrics.knownNewMetrics {})
        [.update StreamMetrics.knownArrival, .tabulateAndResetMetrics 60,
          .update StreamMetrics.knownArrival] = some r ∧
      r.counted.map (·.good) = [true, false] ∧
      r.metrics.mMostRecentSample = r.goodEndTimes.getLast?.getD 0 := by
  have hruns : (exec StreamRun.next (start StreamMetrics.knownNewMetrics {})
      [.update StreamMetrics.knownArrival, .tabulateAndResetMetrics 60,
        .update StreamMetrics.knownArrival]).map (fun r => r.counted.map (·.good)) =
      some [true, false] := by
    decide +kernel
  obtain ⟨r, hrun, hgood⟩ := Option.map_eq_some_iff.mp hruns
  exact ⟨r, hrun, hgood,
    (good_strictly_newer r ⟨knownPacket .integer32 [5], _, _, rfl, _, hrun⟩).2.2.1⟩

end StreamRun

end USEEDLinkToRingServer
