import USEEDLinkToRingServer.Library.Machine
import USEEDLinkToRingServer.Known
import USEEDLinkToRingServer.StreamMetrics

/-!
# The classes of packets

A packet is good, comes from the future or is expired. Which of them it is counted as depends on the most
recent sample of its stream, and a late packet is counted as none of them.
-/

namespace USEEDLinkToRingServer

open Machine

/-! ### The branches -/

section Branches

variable {mostRecentSample endTime now : Int}

/-- A late packet brings nothing new and is neither from the future nor expired. -/
theorem Branch.of_eq_late_iff :
    Branch.of mostRecentSample endTime now = .late ↔
      ¬ (mostRecentSample < endTime ∨ now < endTime ∨ endTime < now - months 6) := by
  have hmonths : (0 : Int) ≤ months 6 := by decide
  unfold Branch.of
  split
  · next h => exact iff_of_false nofun fun hlate => hlate (.inl h.1)
  · next hgood =>
    split
    · next h => exact iff_of_false nofun fun hlate => hlate (.inr (.inl h))
    · next hfuture =>
      split
      · next h => exact iff_of_false nofun fun hlate => hlate (.inr (.inr h))
      · next hexpired =>
        refine iff_of_true rfl ?_
        rintro (hnew | hahead | hold)
        · exact hgood ⟨hnew, by omega⟩
        · exact hfuture hahead
        · exact hexpired hold

/-- An old packet is expired only if its stream has a sample that is not older. -/
theorem Branch.of_old (hold : endTime < now - months 6) :
    Branch.of mostRecentSample endTime now = if mostRecentSample < endTime then .good else .expired := by
  have hmonths : (0 : Int) ≤ months 6 := by decide
  unfold Branch.of
  by_cases hnew : mostRecentSample < endTime
  · rw [if_pos ⟨hnew, by omega⟩, if_pos hnew]
  · rw [if_neg (fun h => hnew h.1), if_neg (by omega), if_pos hold, if_neg hnew]

end Branches

/-! ### The classes and the total -/

/-- A packet with the two clock readings of its update. -/
structure Arrival where
  packet : Packet
  now : Int
  later : Int

namespace StreamMetrics

/-- An update that throws leaves the metrics as they are. -/
def next (m : StreamMetrics) (a : Arrival) : Option StreamMetrics :=
  match m.update a.packet a.now a.later with
  | .ok m' => some m'
  | .error _ => some m

/-- A packet of the stream that can be counted ends after the most recent sample, in the future or more
than six months ago. -/
def Classified (m : StreamMetrics) (a : Arrival) : Prop :=
  ∀ time, packetName a.packet = .ok m.mName → a.packet.getEndTime = .ok time →
    m.mMostRecentSample < toMicroseconds time ∨ a.now < toMicroseconds time ∨
      toMicroseconds time < a.now - months 6

/-- The packets that are counted in the total only. -/
def unclassified (m : StreamMetrics) : Int :=
  m.running .total - (m.running .good + m.running .future + m.running .expired)

variable {m m' : StreamMetrics} {a : Arrival}

theorem count_unclassified {packet : Packet} {endTime now later : Int} :
    (m.count packet endTime now later).unclassified =
      m.unclassified + if Branch.of m.mMostRecentSample endTime now = .late then 1 else 0 := by
  simp only [unclassified, count_running]
  cases Branch.of m.mMostRecentSample endTime now <;> simp [Branch.counts] <;> omega

theorem next_cases (h : StreamMetrics.next m a = some m') :
    m' = m ∧ (∀ time, packetName a.packet = .ok m.mName → a.packet.getEndTime ≠ .ok time) ∨
      ∃ time, packetName a.packet = .ok m.mName ∧ a.packet.getEndTime = .ok time ∧
        m' = m.count a.packet (toMicroseconds time) a.now a.later := by
  unfold StreamMetrics.next at h
  split at h
  · next hupdate =>
    obtain ⟨hname, time, htime, rfl⟩ := update_eq_ok.mp hupdate
    exact .inr ⟨time, hname, htime, (Option.some.inj h).symm⟩
  · next hupdate =>
    refine .inl ⟨(Option.some.inj h).symm, fun time hname htime => ?_⟩
    rw [update_eq_ok.mpr ⟨hname, time, htime, rfl⟩] at hupdate
    cases hupdate

theorem next_unclassified_of_classified (hclass : m.Classified a)
    (h : StreamMetrics.next m a = some m') : m'.unclassified = m.unclassified := by
  rcases next_cases h with ⟨rfl, _⟩ | ⟨time, hname, htime, rfl⟩
  · rfl
  · have hlate := mt Branch.of_eq_late_iff.mp (not_not.mpr (hclass time hname htime))
    rw [count_unclassified, if_neg hlate, Int.add_zero]

theorem lt_unclassified_of_not_classified (hclass : ¬ m.Classified a)
    (h : StreamMetrics.next m a = some m') : m.unclassified < m'.unclassified := by
  simp only [Classified, not_forall] at hclass
  obtain ⟨time, hname, htime, hlate⟩ := hclass
  rcases next_cases h with ⟨_, hnone⟩ | ⟨time', _, htime', rfl⟩
  · exact absurd htime (hnone time hname)
  · obtain rfl := Except.ok.inj (htime.symm.trans htime')
    rw [count_unclassified, if_pos (Branch.of_eq_late_iff.mpr hlate)]
    omega

/-- **The classes partition the total exactly when no packet comes late**: after any updates of a stream
with any clock readings, the good, the future and the expired packets are all packets if and only if each
packet counted was new, from the future or expired when it came. -/
theorem classes_partition_iff (packet : Packet) (m m' : StreamMetrics) (as : List Arrival)
    (hnew : named packet = .ok m) (hrun : exec StreamMetrics.next m as = some m') :
    m'.running .total = m'.running .good + m'.running .future + m'.running .expired ↔
      Along StreamMetrics.next Classified m as := by
  have hzero : m.unclassified = 0 := by
    simp only [unclassified, (named_fresh hnew).2.2]
    rfl
  have hcount := (along_iff_of_measure (fun _ _ _ => next_unclassified_of_classified)
    (fun _ _ _ => lt_unclassified_of_not_classified) hrun).2
  rw [← hcount, hzero]
  unfold unclassified
  omega

/-- The metrics of the known station before its first packet is counted. -/
def knownNewMetrics : StreamMetrics where
  mName := knownName
  mMetricsKey := ['u', 'u', '_', 'f', 't', 'u', '_', 'h', 'h', 'n', '_', '0', '1']

theorem knownPacket_getEndTime : (knownPacket .integer32 [5]).getEndTime = .ok 1759952887000000001 :=
  Packet.getEndTime_eq_ok.mpr ⟨by decide +kernel, by decide +kernel, by decide +kernel⟩

/-- The packet of the known station, thirteen seconds later. -/
def knownArrival : Arrival := ⟨knownPacket .integer32 [5], 1759952900000000, 1759952900000000⟩

/-- The first packet of a stream is classified. -/
theorem classes_partition_iff_known :
    ∃ m', exec StreamMetrics.next knownNewMetrics [knownArrival] = some m' ∧
      m'.running .total = m'.running .good + m'.running .future + m'.running .expired := by
  have hruns : (exec StreamMetrics.next knownNewMetrics [knownArrival]).isSome = true := by
    decide +kernel
  obtain ⟨m', hrun⟩ := Option.isSome_iff_exists.mp hruns
  refine ⟨m', hrun, (classes_partition_iff (knownPacket .integer32 [5]) _ _ _ rfl hrun).mpr ⟨?_, ?_⟩⟩
  · intro time _ htime
    obtain rfl := Except.ok.inj (knownPacket_getEndTime.symm.trans htime)
    exact .inl (by decide)
  · exact fun _ _ => trivial

/-- The same packet twice counts twice in the total and once as good. -/
theorem classes_not_partition :
    ¬ ∀ (packet : Packet) (m m' : StreamMetrics) (as : List Arrival), named packet = .ok m →
      exec StreamMetrics.next m as = some m' →
      m'.running .total = m'.running .good + m'.running .future + m'.running .expired := by
  intro hclaim
  have hrun : (exec StreamMetrics.next knownNewMetrics [knownArrival, knownArrival]).map
      unclassified = some 1 := by
    decide +kernel
  obtain ⟨m', hexec, hlate⟩ := Option.map_eq_some_iff.mp hrun
  have hsum := hclaim (knownPacket .integer32 [5]) knownNewMetrics m' _ rfl hexec
  unfold unclassified at hlate
  omega

/-! ### Expired packets -/

/-- **An old packet is counted as expired exactly when it brings nothing new**: a packet of the stream
that ends more than six months ago is counted as expired and not as good if and only if the most recent
sample of the stream is not before its end. -/
theorem expired_counted_iff (m : StreamMetrics) (packet : Packet) (now later : Int) (time : Int64)
    (hname : packetName packet = .ok m.mName) (htime : packet.getEndTime = .ok time)
    (hold : toMicroseconds time < now - months 6) :
    (∃ m', m.update packet now later = .ok m' ∧ m'.running .expired = m.running .expired + 1 ∧
        m'.running .good = m.running .good) ↔ toMicroseconds time ≤ m.mMostRecentSample := by
  have hupdate : m.update packet now later = .ok (m.count packet (toMicroseconds time) now later) :=
    update_eq_ok.mpr ⟨hname, time, htime, rfl⟩
  have hbranch : Branch.of m.mMostRecentSample (toMicroseconds time) now =
      if m.mMostRecentSample < toMicroseconds time then .good else .expired := Branch.of_old hold
  constructor
  · rintro ⟨m', hm', hexpired, _⟩
    obtain rfl := Except.ok.inj (hupdate.symm.trans hm')
    by_contra hnew
    rw [count_running, hbranch.trans (if_pos (by omega))] at hexpired
    simp [Branch.counts] at hexpired
  · intro hle
    have hexpired := hbranch.trans (if_neg (by omega))
    refine ⟨_, hupdate, ?_, ?_⟩
    · rw [count_running, hexpired]
      rfl
    · rw [count_running, hexpired]
      exact Int.add_zero _

/-- The metrics of the known station when its packet has been counted as good. -/
def knownMetrics : StreamMetrics :=
  { knownNewMetrics with
    mMostRecentSample := 1759952887000000
    mRunningPacketsCounter := 1
    mRunningTotalPacketsCounter := 1 }

/-- The same packet seven months later is expired. -/
theorem expired_counted_iff_known :
    ∃ m', knownMetrics.update (knownPacket .integer32 [5]) (1759952887000000 + months 7)
        (1759952887000000 + months 7) = .ok m' ∧
      m'.running .expired = knownMetrics.running .expired + 1 ∧
      m'.running .good = knownMetrics.running .good :=
  (expired_counted_iff knownMetrics (knownPacket .integer32 [5]) _ _ 1759952887000000001 rfl
    knownPacket_getEndTime (by decide)).mpr (by decide)

/-- The first packet of a stream is good however old it is. -/
theorem expired_counted_as_good :
    ¬ ∀ (first packet : Packet) (m₀ m : StreamMetrics) (as : List Arrival) (now later : Int)
        (time : Int64), named first = .ok m₀ → exec StreamMetrics.next m₀ as = some m →
      packetName packet = .ok m.mName → packet.getEndTime = .ok time →
      toMicroseconds time < now - months 6 →
      ∃ m', m.update packet now later = .ok m' ∧ m'.running .expired = m.running .expired + 1 ∧
        m'.running .good = m.running .good := by
  intro hclaim
  have hcounted := hclaim (knownPacket .integer32 [5]) (knownPacket .integer32 [5]) knownNewMetrics
    knownNewMetrics [] (1759952887000000 + months 7) (1759952887000000 + months 7) 1759952887000000001
    rfl rfl rfl knownPacket_getEndTime (by decide)
  obtain ⟨m', hupdate, hexpired, _⟩ := hcounted
  obtain ⟨_, time, htime, rfl⟩ := update_eq_ok.mp hupdate
  obtain rfl := Except.ok.inj (knownPacket_getEndTime.symm.trans htime)
  rw [count_running] at hexpired
  exact absurd hexpired (by decide)

end StreamMetrics

end USEEDLinkToRingServer
