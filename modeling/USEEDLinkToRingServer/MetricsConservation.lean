import USEEDLinkToRingServer.Library.Machine
import USEEDLinkToRingServer.Known
import USEEDLinkToRingServer.StreamMetrics

/-!
# No update is lost or counted twice

A tabulation moves what the streams have counted into the maps that the telemetry reads. Whatever is called
in whatever order, the exported and the running value of a counter of a stream make up the updates of the
stream that this counter counts.
-/

namespace USEEDLinkToRingServer

open Machine

/-! ### Runs of calls -/

inductive MetricsCall
  | update (packet : Packet) (now later : Int)
  | tabulateAndResetAllMetrics (now : Int)

/-- The metrics with the calls of `update` that returned normally: the stream and the branch taken. -/
structure MeteredRun where
  metrics : MetricsStore
  returned : List (Str × Branch) := []

/-- The stream an update that returns counts for, and the branch it takes. -/
def MetricsStore.branchTaken (s : MetricsStore) (packet : Packet) (now : Int) : Str × Branch :=
  let name := (packetName packet).toOption.getD []
  let endTime := toMicroseconds (packet.getEndTime.toOption.getD 0)
  let mostRecentSample := ((s.stream name).map (·.mMostRecentSample)).getD 0
  (name, Branch.of mostRecentSample endTime now)

namespace MeteredRun

def next (r : MeteredRun) : MetricsCall → Option MeteredRun
  | .update packet now later =>
    match r.metrics.update packet now later with
    | (metrics, .error _) => some { r with metrics := metrics }
    | (metrics, .ok ()) =>
      some { metrics := metrics, returned := r.returned ++ [r.metrics.branchTaken packet now] }
  | .tabulateAndResetAllMetrics now =>
    some { r with metrics := r.metrics.tabulateAndResetAllMetrics now }

/-- The number of updates of a stream that took a branch with the given counter. -/
def counted (r : MeteredRun) (name : Str) (c : Counter) : Nat :=
  r.returned.countP fun call => call.1 == name && call.2.counts c

end MeteredRun

/-! ### Streams keep their keys -/

namespace MetricsStore

variable {s s' : MetricsStore}

/-- No two streams share a metrics key. -/
def DistinctKeys (s : MetricsStore) : Prop :=
  ∀ name name' m m', s.stream name = some m → s.stream name' = some m' →
    m.mMetricsKey = m'.mMetricsKey → name = name'

/-- No stream is removed and no stream changes its key. -/
def KeepsKeys (s s' : MetricsStore) : Prop :=
  ∀ name m, s.stream name = some m → ∃ m', s'.stream name = some m' ∧ m'.mMetricsKey = m.mMetricsKey

theorem DistinctKeys.of_keepsKeys (h : s'.DistinctKeys) (hkeep : KeepsKeys s s') : s.DistinctKeys := by
  intro name name' m m' hm hm' heq
  obtain ⟨n, hn, hkey⟩ := hkeep name m hm
  obtain ⟨n', hn', hkey'⟩ := hkeep name' m' hm'
  exact h name name' n n' hn hn' (by rw [hkey, hkey', heq])

theorem keepsKeys_tabulateStream (s : MetricsStore) (name : Str) : KeepsKeys s (s.tabulateStream name) := by
  intro name' m' hm'
  cases hm : s.stream name with
  | none => exact ⟨m', by rw [tabulateStream_of_none hm]; exact hm', rfl⟩
  | some m =>
    obtain ⟨reset, _, hkey, hstream, _⟩ := tabulateStream_of_some hm
    by_cases hname : name' = name
    · subst hname
      obtain rfl := Option.some.inj (hm.symm.trans hm')
      exact ⟨reset, by rw [hstream, if_pos rfl], hkey⟩
    · exact ⟨m', by rw [hstream, if_neg hname]; exact hm', rfl⟩

/-! ### The balance -/

/-- Of each counter of each stream, the exported and the running value make up what was counted. Nothing
was exported under a key that no stream has. -/
structure Conserves (s : MetricsStore) (counted : Str → Counter → Int) : Prop where
  balance : ∀ name m c, s.stream name = some m →
    s.exported c m.mMetricsKey + m.running c = counted name c
  absent : ∀ name c, s.stream name = none → counted name c = 0
  unused : ∀ key c, (∀ name m, s.stream name = some m → m.mMetricsKey ≠ key) → s.exported c key = 0

variable {counted : Str → Counter → Int}

theorem Conserves.congr {counted' : Str → Counter → Int} (h : s.Conserves counted)
    (heq : ∀ name c, counted name c = counted' name c) : s.Conserves counted' := by
  obtain rfl : counted = counted' := funext fun name => funext fun c => heq name c
  exact h

theorem Conserves.setSampleTime (h : s.Conserves counted) (now : Int) :
    (s.setSampleTime now).Conserves counted :=
  ⟨h.balance, h.absent, h.unused⟩

theorem exported_tabulateStream {name : Str} {m : StreamMetrics} (h : s.stream name = some m)
    (c : Counter) (key : Str) :
    (s.tabulateStream name).exported c key =
      s.exported c key + if key = m.mMetricsKey then m.running c else 0 := by
  obtain ⟨_, _, _, _, hcounter⟩ := tabulateStream_of_some h
  rw [exported, hcounter, ObservableMap.count_addOrAssign]
  rfl

/-- The tabulation of a stream moves its counts and those of no other stream. -/
theorem Conserves.tabulateStream (h : s.Conserves counted) (hkeys : s.DistinctKeys) (name : Str) :
    (s.tabulateStream name).Conserves counted := by
  cases hm : s.stream name with
  | none =>
    rw [tabulateStream_of_none hm]
    exact h
  | some m =>
    obtain ⟨reset, hzero, hkey, hstream, _⟩ := tabulateStream_of_some hm
    refine ⟨fun name' m' c hm' => ?_, fun name' c hnone => ?_, fun key c hunused => ?_⟩
    · rw [hstream] at hm'
      rw [exported_tabulateStream hm]
      split at hm'
      · next hname =>
        obtain rfl := Option.some.inj hm'
        rw [hkey, if_pos rfl, hzero, hname, ← h.balance name m c hm]
        omega
      · next hname =>
        have hother : m'.mMetricsKey ≠ m.mMetricsKey :=
          fun heq => hname (hkeys name' name m' m hm' hm heq)
        rw [if_neg hother, ← h.balance name' m' c hm']
        omega
    · rw [hstream] at hnone
      split at hnone
      · cases hnone
      · exact h.absent name' c hnone
    · have hbefore : s.exported c key = 0 := by
        apply h.unused
        intro name' m' hm'
        obtain ⟨m'', hm'', heq⟩ := keepsKeys_tabulateStream s name name' m' hm'
        rw [← heq]
        exact hunused name' m'' hm''
      have hthis : key ≠ m.mMetricsKey := by
        intro heq
        apply hunused name reset
        · rw [hstream, if_pos rfl]
        · rw [hkey, heq]
      rw [exported_tabulateStream hm, hbefore, if_neg hthis]
      rfl

/-- An update adds one to the counters of its branch. New metrics have counted nothing before, and their
key has nothing exported. -/
theorem Conserves.update (h : s.Conserves counted) {name : Str} {m m' : StreamMetrics} {b : Branch}
    (hexported : ∀ c key, s'.exported c key = s.exported c key)
    (hlookup : ∀ name', s'.stream name' = if name' = name then some m' else s.stream name')
    (hkey : m'.mMetricsKey = m.mMetricsKey)
    (hrunning : ∀ c, m'.running c = m.running c + if b.counts c then 1 else 0)
    (hstream : s.stream name = some m ∨ s.stream name = none ∧ ∀ c, m.running c = 0)
    (hkeys : s'.DistinctKeys) :
    s'.Conserves fun name' c => counted name' c + if name' = name ∧ b.counts c = true then 1 else 0 := by
  have hbefore : ∀ c, s.exported c m.mMetricsKey + m.running c = counted name c := by
    intro c
    rcases hstream with hold | ⟨hnone, hzero⟩
    · exact h.balance name m c hold
    · have hunused : s.exported c m.mMetricsKey = 0 := by
        apply h.unused
        intro name' other hother heq
        have hname : name' ≠ name := by
          rintro rfl
          rw [hnone] at hother
          cases hother
        apply hname
        apply hkeys name' name other m'
        · rw [hlookup, if_neg hname, hother]
        · rw [hlookup, if_pos rfl]
        · rw [hkey, heq]
      rw [hunused, hzero, h.absent name c hnone]
      rfl
  refine ⟨fun name' other c hother => ?_, fun name' c hnone => ?_, fun key c hunused => ?_⟩
  · rw [hlookup] at hother
    rw [hexported]
    split at hother
    · next hname =>
      obtain rfl := Option.some.inj hother
      rw [hkey, hrunning, hname, ← hbefore c]
      simp only [true_and]
      omega
    · next hname =>
      rw [if_neg (fun hboth => hname hboth.1), h.balance name' other c hother, Int.add_zero]
  · rw [hlookup] at hnone
    split at hnone
    · cases hnone
    · next hname =>
      rw [if_neg (fun hboth => hname hboth.1), h.absent name' c hnone]
      rfl
  · rw [hexported]
    apply h.unused
    intro name' other hother heq
    by_cases hname : name' = name
    · rcases hstream with hold | ⟨hnone, _⟩
      · rw [hname, hold] at hother
        obtain rfl := Option.some.inj hother
        exact hunused name m' (by rw [hlookup, if_pos rfl]) (by rw [hkey, heq])
      · rw [hname, hnone] at hother
        cases hother
    · exact hunused name' other (by rw [hlookup, if_neg hname, hother]) heq

/-! ### The metrics after an update that counted its packet -/

section Counted

variable {o : Observables} {m : StreamMetrics} {packet : Packet} {time : Int64} {now later : Int}

/-- Observables with the same counters show the same. -/
theorem exported_observables (hcounter : ∀ c, o.counter c = s.observables.counter c) (c : Counter)
    (key : Str) : ({ s with observables := o } : MetricsStore).exported c key = s.exported c key :=
  congrArg (ObservableMap.count · key) (hcounter c)

theorem exported_counted (hcounter : ∀ c, o.counter c = s.observables.counter c)
    (m' : StreamMetrics) (c : Counter) (key : Str) :
    ({ s with observables := o }.setStream m.mName m').exported c key = s.exported c key := by
  rw [← exported_observables hcounter c key, exported, exported, observables_setStream]

theorem stream_counted (m' : StreamMetrics) (name : Str) :
    ({ s with observables := o }.setStream m.mName m').stream name =
      if name = m.mName then some m' else s.stream name :=
  stream_setStream m.mName name m'

theorem keepsKeys_counted {m' : StreamMetrics} (hkey : m'.mMetricsKey = m.mMetricsKey)
    (hstream : s.stream m.mName = some m ∨ s.stream m.mName = none) :
    KeepsKeys s ({ s with observables := o }.setStream m.mName m') := by
  intro name other hother
  by_cases hname : name = m.mName
  · refine ⟨m', by rw [stream_counted, if_pos hname], ?_⟩
    rw [hname] at hother
    rcases hstream with hold | hnone
    · rw [hkey, Option.some.inj (hold.symm.trans hother)]
    · rw [hnone] at hother
      cases hother
  · exact ⟨other, by rw [stream_counted, if_neg hname]; exact hother, rfl⟩

/-- The branch noted for an update is the one it takes. -/
theorem branchTaken_counted (hname : packetName packet = .ok m.mName)
    (htime : packet.getEndTime = .ok time)
    (hstream : s.stream m.mName = some m ∨
      s.stream m.mName = none ∧ StreamMetrics.named packet = .ok m) :
    s.branchTaken packet now =
      (m.mName, Branch.of m.mMostRecentSample (toMicroseconds time) now) := by
  have hrecent : ((s.stream m.mName).map (·.mMostRecentSample)).getD 0 = m.mMostRecentSample := by
    rcases hstream with hold | ⟨hnone, hnew⟩
    · rw [hold]
      rfl
    · rw [hnone, (StreamMetrics.named_fresh hnew).2.1]
      rfl
  simp only [branchTaken, hname, htime, Except.toOption, Option.getD_some, hrecent]

end Counted

end MetricsStore

/-! ### Steps and runs -/

namespace MeteredRun

open MetricsStore

variable {r r' : MeteredRun} {a : MetricsCall} {as : List MetricsCall}

theorem counted_append (metrics : MetricsStore) (name name' : Str) (b : Branch) (c : Counter) :
    ((MeteredRun.mk metrics (r.returned ++ [(name, b)])).counted name' c : Int) =
      r.counted name' c + if name' = name ∧ b.counts c = true then 1 else 0 := by
  by_cases hname : name' = name
  · subst hname
    cases hcounts : b.counts c <;> simp [counted, List.countP_append, hcounts]
  · simp [counted, List.countP_append, hname, Ne.symm hname]

/-- While no two streams share a key, the balance holds. -/
def Balanced (r : MeteredRun) : Prop :=
  r.metrics.DistinctKeys → r.metrics.Conserves fun name c => r.counted name c

theorem next_balanced (h : r.Balanced) (hnext : MeteredRun.next r a = some r') : r'.Balanced := by
  intro hkeys
  cases a with
  | update packet now later =>
    simp only [MeteredRun.next] at hnext
    have hcases := update_cases r.metrics packet now later
    generalize r.metrics.update packet now later = result at hcases hnext
    cases hcases with
    | failed o e hcounter =>
      obtain rfl := Option.some.inj hnext
      obtain ⟨hbalance, habsent, hunused⟩ := h hkeys
      refine ⟨fun name m c hm => ?_, habsent, fun key c hkey => ?_⟩
      · rw [exported_observables hcounter]
        exact hbalance name m c hm
      · rw [exported_observables hcounter]
        exact hunused key c hkey
    | counted o m time hcounter hname htime hstream =>
      rw [branchTaken_counted hname htime hstream] at hnext
      obtain rfl := Option.some.inj hnext
      have hold : r.metrics.stream m.mName = some m ∨ r.metrics.stream m.mName = none :=
        hstream.imp_right And.left
      have hbefore := h (hkeys.of_keepsKeys (keepsKeys_counted StreamMetrics.count_names.2 hold))
      have hafter := hbefore.update (exported_counted hcounter _) (stream_counted _)
        StreamMetrics.count_names.2 StreamMetrics.count_running
        (hstream.imp_right fun hnew => ⟨hnew.1, (StreamMetrics.named_fresh hnew.2).2.2⟩) hkeys
      refine hafter.congr fun name c => ?_
      exact (counted_append _ m.mName name _ c).symm
  | tabulateAndResetAllMetrics now =>
    obtain rfl := Option.some.inj hnext
    refine tabulateAll_preserves (I := fun s => s.DistinctKeys → s.Conserves fun name c => r.counted name c)
      (fun s hs hdistinct => (hs hdistinct).setSampleTime now) (fun s name hs hdistinct => ?_) h hkeys
    have hbefore := hdistinct.of_keepsKeys (keepsKeys_tabulateStream s name)
    exact (hs hbefore).tabulateStream hbefore name

/-- Nothing was subtracted from what `exported` says, and no running counter is negative. -/
structure Grows (exported : Counter → Str → Int) (s : MetricsStore) : Prop where
  le : ∀ c key, exported c key ≤ s.exported c key
  nonneg : ∀ name m c, s.stream name = some m → 0 ≤ m.running c

theorem Grows.tabulateStream {exported : Counter → Str → Int} {s : MetricsStore} (h : Grows exported s)
    (name : Str) : Grows exported (s.tabulateStream name) := by
  cases hm : s.stream name with
  | none =>
    rw [tabulateStream_of_none hm]
    exact h
  | some m =>
    obtain ⟨reset, hzero, _, hstream, _⟩ := tabulateStream_of_some hm
    refine ⟨fun c key => ?_, fun name' m' c hm' => ?_⟩
    · have hle := h.le c key
      have hrunning := h.nonneg name m c hm
      rw [exported_tabulateStream hm]
      split <;> omega
    · rw [hstream] at hm'
      split at hm'
      · obtain rfl := Option.some.inj hm'
        rw [hzero]
      · exact h.nonneg name' m' c hm'

theorem next_grows {exported : Counter → Str → Int} (h : Grows exported r.metrics)
    (hnext : MeteredRun.next r a = some r') : Grows exported r'.metrics := by
  cases a with
  | update packet now later =>
    simp only [MeteredRun.next] at hnext
    have hcases := update_cases r.metrics packet now later
    generalize r.metrics.update packet now later = result at hcases hnext
    cases hcases with
    | failed o e hcounter =>
      obtain rfl := Option.some.inj hnext
      refine ⟨fun c key => ?_, h.nonneg⟩
      rw [exported_observables hcounter]
      exact h.le c key
    | counted o m time hcounter hname htime hstream =>
      obtain rfl := Option.some.inj hnext
      refine ⟨fun c key => ?_, fun name m' c hm' => ?_⟩
      · rw [exported_counted hcounter]
        exact h.le c key
      · rw [stream_counted] at hm'
        split at hm'
        · obtain rfl := Option.some.inj hm'
          have hbefore : 0 ≤ m.running c := by
            rcases hstream with hold | ⟨_, hnew⟩
            · exact h.nonneg m.mName m c hold
            · rw [(StreamMetrics.named_fresh hnew).2.2]
          rw [StreamMetrics.count_running]
          split <;> omega
        · exact h.nonneg name m' c hm'
  | tabulateAndResetAllMetrics now =>
    obtain rfl := Option.some.inj hnext
    exact tabulateAll_preserves (I := Grows exported) (fun s hs => ⟨hs.le, hs.nonneg⟩)
      (fun s name hs => hs.tabulateStream name) h

/-- The map before the first call. -/
def initial (started : Int) : MeteredRun := { metrics := { map := { mLastSampleTime := started } } }

theorem initial_balanced (started : Int) : (initial started).Balanced := by
  intro _
  refine ⟨fun name m c hm => ?_, fun _ _ _ => rfl, fun key c _ => ?_⟩
  · cases hm
  · cases c <;> rfl

/-- **Conservation of the metrics**: after any calls with any clock readings, as long as no two streams
share a key, the exported and the running value of every counter of every stream make up the updates of
the stream that returned and that this counter counts, the one that made the stream among them. An
exported counter never decreases. -/
theorem metrics_conserved (started : Int) (as : List MetricsCall) (r : MeteredRun)
    (hrun : exec MeteredRun.next (initial started) as = some r) :
    (r.metrics.DistinctKeys →
        (∀ name m c, r.metrics.stream name = some m →
          r.metrics.exported c m.mMetricsKey + m.running c = r.counted name c) ∧
        ∀ name c, r.metrics.stream name = none → r.counted name c = 0) ∧
      ∀ more r', exec MeteredRun.next r more = some r' →
        ∀ c key, r.metrics.exported c key ≤ r'.metrics.exported c key := by
  have hbalanced : r.Balanced :=
    invariant (fun _ _ _ h hnext => next_balanced h hnext) (initial_balanced started) hrun
  have hnonneg : Grows (fun _ _ => 0) r.metrics := by
    refine invariant (I := fun t => Grows (fun _ _ => 0) t.metrics)
      (fun _ _ _ h hnext => next_grows h hnext) ⟨fun c key => ?_, fun name m c hm => ?_⟩ hrun
    · cases c <;> exact Int.le_refl 0
    · cases hm
  refine ⟨fun hkeys => ?_, fun more r' hmore => ?_⟩
  · have hconserves := hbalanced hkeys
    exact ⟨hconserves.balance, fun name c hnone => Int.ofNat.inj (hconserves.absent name c hnone)⟩
  · have hgrows : Grows r.metrics.exported r'.metrics :=
      invariant (I := fun t => Grows r.metrics.exported t.metrics)
        (fun _ _ _ h hnext => next_grows h hnext) ⟨fun c key => Int.le_refl _, hnonneg.nonneg⟩ hmore
    exact hgrows.le

/-- The known packet, a tabulation that is due, and the same packet again. -/
def knownCalls : List MetricsCall :=
  [.update (knownPacket .integer32 [5]) 1759952900000000 1759952900000000,
    .tabulateAndResetAllMetrics 1759952900000001,
    .update (knownPacket .integer32 [5]) 1759952900000002 1759952900000002]

/-- One update is exported and the other one runs. -/
theorem metrics_conserved_known :
    ∃ r m, exec MeteredRun.next (initial 0) knownCalls = some r ∧
      r.metrics.stream knownName = some m ∧
      r.metrics.exported .total m.mMetricsKey + m.running .total = 2 := by
  have hrun : (exec MeteredRun.next (initial 0) knownCalls).map
      (fun r => (r.metrics.map.mMetrics.keys, r.counted knownName .total)) =
        some ([knownName], 2) := by
    decide +kernel
  obtain ⟨r, hexec, hdata⟩ := Option.map_eq_some_iff.mp hrun
  obtain ⟨hstreams, hcounted⟩ := Prod.mk.inj hdata
  have honly : ∀ name m, r.metrics.stream name = some m → name = knownName := by
    intro name m hm
    have hmem := AList.mem_keys.mp (AList.lookup_isSome.mp (Option.isSome_of_eq_some hm))
    rw [hstreams] at hmem
    exact List.mem_singleton.mp hmem
  obtain ⟨m, hm⟩ := Option.isSome_iff_exists.mp
    (AList.lookup_isSome.mpr (AList.mem_keys.mpr (hstreams ▸ List.mem_singleton_self knownName)))
  refine ⟨r, m, hexec, hm, ?_⟩
  rw [((metrics_conserved 0 _ r hexec).1 fun name name' n n' hn hn' _ => ?_).1 _ m .total hm, hcounted]
  · rfl
  · rw [honly name n hn, honly name' n' hn']

end MeteredRun

end USEEDLinkToRingServer
