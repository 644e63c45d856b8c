import USEEDLinkToRingServer.Library.Separated
import USEEDLinkToRingServer.DataLinkClient
import USEEDLinkToRingServer.MetricsConservation
import USEEDLinkToRingServer.MiniSEED

/-!
# The names of a stream

The ring knows a stream by its DataLink name and the telemetry by its metrics key. Both join the parts of
the identifier with underscores, which a channel may contain as well. The DataLink name has the channel last
and the key has it between the others.
-/

namespace USEEDLinkToRingServer

open Machine

/-! ### Identifiers as the reader builds them -/

namespace StreamIdentifier

/-- The identifier is complete and without lower-case letters, only its channel may contain an underscore,
its location code is not empty and its cached name is up to date. -/
structure AsRead (id : StreamIdentifier) : Prop where
  complete : id.Complete
  noLower : ∀ c ∈ id.mNetwork ++ id.mStation ++ id.mChannel ++ id.mLocationCode, c.isLower = false
  network : '_' ∉ id.mNetwork
  station : '_' ∉ id.mStation
  location : '_' ∉ id.mLocationCode
  locationSet : id.mLocationCode ≠ []
  named : id.setString = id

/-- The four parts are the same. -/
def SameParts (id id' : StreamIdentifier) : Prop :=
  id.mNetwork = id'.mNetwork ∧ id.mStation = id'.mStation ∧ id.mChannel = id'.mChannel ∧
    id.mLocationCode = id'.mLocationCode

variable {id id' : StreamIdentifier}

/-- The parts determine an identifier of the reader. -/
theorem AsRead.eq_of_sameParts (h : id.AsRead) (h' : id'.AsRead) (hparts : SameParts id id') :
    id = id' := by
  have hflag : id.mHasLocationCode = id'.mHasLocationCode :=
    h.complete.2.2.2.trans h'.complete.2.2.2.symm
  obtain ⟨hnetwork, hstation, hchannel, hlocation⟩ := hparts
  rw [← h.named, ← h'.named]
  simp only [setString, hnetwork, hstation, hchannel, hlocation, hflag]

theorem AsRead.getStringReference (h : id.AsRead) :
    id.getStringReference = .ok id.mString := by
  obtain ⟨hnetwork, hstation, hchannel, hlocation⟩ := h.complete.has
  simp [StreamIdentifier.getStringReference, hnetwork, hstation, hchannel, hlocation]

theorem AsRead.toDataLinkIdentifier (h : id.AsRead) :
    USEEDLinkToRingServer.toDataLinkIdentifier id =
      .ok (id.mNetwork ++ '_' :: id.mStation ++ '_' :: id.mLocationCode ++ '_' :: id.mChannel ++
        ['/', 'M', 'S', 'E', 'E', 'D']) :=
  toDataLinkIdentifier_of_has h.complete.has

theorem AsRead.metricsKey (h : id.AsRead) :
    USEEDLinkToRingServer.metricsKey id =
      .ok ((id.mNetwork ++ '_' :: id.mStation ++ '_' :: id.mChannel ++ '_' :: id.mLocationCode).map
        tolower) := by
  obtain ⟨hnetwork, hstation, hchannel, hlocation⟩ := get_of_has h.complete.has
  have hset : id.mLocationCode.isEmpty = false := by simpa using h.locationSet
  simp [USEEDLinkToRingServer.metricsKey, hnetwork, hstation, hchannel, hlocation,
    h.complete.has.2.2.2, hset, bind, Except.bind, pure, Except.pure]

/-- The network, the station and the location code end at the first three underscores. -/
theorem AsRead.sameParts_of_dataLink (h : id.AsRead) (h' : id'.AsRead)
    (heq : USEEDLinkToRingServer.toDataLinkIdentifier id =
      USEEDLinkToRingServer.toDataLinkIdentifier id') : SameParts id id' := by
  rw [h.toDataLinkIdentifier, h'.toDataLinkIdentifier] at heq
  have hjoined := List.append_cancel_right (Except.ok.inj heq)
  simp only [List.append_assoc, List.cons_append] at hjoined
  obtain ⟨hnetwork, hrest⟩ := Separated.eq_of_first h.network h'.network hjoined
  obtain ⟨hstation, hrest⟩ := Separated.eq_of_first h.station h'.station hrest
  obtain ⟨hlocation, hchannel⟩ := Separated.eq_of_first h.location h'.location hrest
  exact ⟨hnetwork, hstation, hchannel, hlocation⟩

/-- A joined name of an identifier of the reader has no lower-case letters. -/
theorem AsRead.map_tolower (h : id.AsRead) :
    ((id.mNetwork ++ '_' :: id.mStation ++ '_' :: id.mChannel ++ '_' :: id.mLocationCode).map
      tolower).map toupper =
        id.mNetwork ++ '_' :: id.mStation ++ '_' :: id.mChannel ++ '_' :: id.mLocationCode := by
  apply map_toupper_tolower
  intro c hc
  simp only [List.append_assoc, List.cons_append, List.mem_append, List.mem_cons] at hc
  have hparts := h.noLower c
  simp only [List.append_assoc, List.mem_append] at hparts
  rcases hc with hc | rfl | hc | rfl | hc | rfl | hc
  · exact hparts (.inl hc)
  · rfl
  · exact hparts (.inr (.inl hc))
  · rfl
  · exact hparts (.inr (.inr (.inl hc)))
  · rfl
  · exact hparts (.inr (.inr (.inr hc)))

/-- Lower-casing loses nothing; then the network and the station end at the first two underscores and the
location code starts at the last. -/
theorem AsRead.sameParts_of_key (h : id.AsRead) (h' : id'.AsRead)
    (heq : USEEDLinkToRingServer.metricsKey id = USEEDLinkToRingServer.metricsKey id') :
    SameParts id id' := by
  rw [h.metricsKey, h'.metricsKey] at heq
  have hjoined := congrArg (List.map toupper) (Except.ok.inj heq)
  rw [h.map_tolower, h'.map_tolower] at hjoined
  obtain ⟨hrest, hlocation⟩ := Separated.eq_of_last h.location h'.location hjoined
  simp only [List.append_assoc, List.cons_append] at hrest
  obtain ⟨hnetwork, hrest⟩ := Separated.eq_of_first h.network h'.network hrest
  obtain ⟨hstation, hchannel⟩ := Separated.eq_of_first h.station h'.station hrest
  exact ⟨hnetwork, hstation, hchannel, hlocation⟩

end StreamIdentifier

/-- What `ms_sid2nslc_n` makes of a source identifier: it splits it at the underscores, and what is left
is the channel. -/
def Nslc.Split (nslc : Nslc) : Prop :=
  '_' ∉ nslc.network ∧ '_' ∉ nslc.station ∧ '_' ∉ nslc.location

instance (nslc : Nslc) : Decidable nslc.Split :=
  inferInstanceAs (Decidable ('_' ∉ nslc.network ∧ '_' ∉ nslc.station ∧ '_' ∉ nslc.location))

theorem underscore_notMem_convertString {s : Str} (h : '_' ∉ s) : '_' ∉ convertString s := by
  intro hmem
  obtain ⟨c, hc, hupper⟩ := List.mem_map.mp hmem
  exact h (toupper_eq_underscore hupper ▸ List.mem_of_mem_filter hc)

theorem isLower_convertString {s : Str} : ∀ c ∈ convertString s, c.isLower = false := by
  intro c hc
  obtain ⟨d, _, rfl⟩ := List.mem_map.mp hc
  exact isLower_toupper d

/-- The reader's identifiers: the parts of a split name in their canonical spelling. -/
theorem asRead_of_readIdentifier {nslc : Nslc} {id : StreamIdentifier} (hsplit : nslc.Split)
    (hlocation : nslc.location = [] ∨ isEmpty nslc.location = false)
    (h : readIdentifier nslc = .ok id) : id.AsRead := by
  obtain ⟨hnonblank, rfl⟩ := readIdentifier_eq_ok.mp h
  obtain ⟨code, hcode, hset, hunderscore⟩ : ∃ code, (canonical nslc).mLocationCode = convertString code ∧
      isEmpty code = false ∧ '_' ∉ code := by
    rcases hlocation with hnil | hset
    · refine ⟨['-', '-'], ?_, rfl, by decide⟩
      simp only [canonical, hnil]
      rfl
    · have hne : nslc.location.isEmpty = false := (Bool.or_eq_false_iff.mp hset).1
      refine ⟨nslc.location, ?_, hset, hsplit.2.2⟩
      simp [canonical, StreamIdentifier.setLocationCode, hne, hset]
  refine ⟨canonical_complete hnonblank, ?_, underscore_notMem_convertString hsplit.1,
    underscore_notMem_convertString hsplit.2.1, ?_, ?_, rfl⟩
  · intro c hc
    rw [hcode] at hc
    simp only [List.append_assoc, List.mem_append] at hc
    rcases hc with hc | hc | hc | hc <;> exact isLower_convertString c hc
  · rw [hcode]
    exact underscore_notMem_convertString hunderscore
  · rw [hcode]
    intro hnil
    have hblank := isEmpty_convertString code
    rw [hnil, hset] at hblank
    cases hblank

/-- The packet has an identifier as the reader builds them, if it has one. -/
def Packet.NamedAsRead (packet : Packet) : Prop :=
  ∀ id, packet.getStreamIdentifierReference = .ok id → id.AsRead

/-! ### The entries of the metrics map -/

namespace MetricsStore

/-- Every stream is filed under the name and exported under the key of an identifier of the reader. -/
def NamesRead (s : MetricsStore) : Prop :=
  ∀ name m, s.stream name = some m →
    ∃ id : StreamIdentifier, id.AsRead ∧ id.mString = name ∧ metricsKey id = .ok m.mMetricsKey

variable {s : MetricsStore} {packet : Packet}

/-- Equal keys come from equal parts, and these have one name. -/
theorem NamesRead.distinctKeys (h : s.NamesRead) : s.DistinctKeys := by
  intro name name' m m' hm hm' heq
  obtain ⟨id, hid, rfl, hkey⟩ := h name m hm
  obtain ⟨id', hid', rfl, hkey'⟩ := h name' m' hm'
  have hsame : metricsKey id = metricsKey id' := by rw [hkey, hkey', heq]
  rw [hid.eq_of_sameParts hid' (hid.sameParts_of_key hid' hsame)]

theorem NamesRead.tabulateStream (h : s.NamesRead) (name : Str) : (s.tabulateStream name).NamesRead := by
  intro name' m' hm'
  cases hm : s.stream name with
  | none =>
    rw [tabulateStream_of_none hm] at hm'
    exact h name' m' hm'
  | some m =>
    obtain ⟨reset, _, hkey, hstream, _⟩ := tabulateStream_of_some hm
    rw [hstream] at hm'
    split at hm'
    · next hname =>
      obtain rfl := Option.some.inj hm'
      rw [hname, hkey]
      exact h name m hm
    · exact h name' m' hm'

theorem NamesRead.counted (h : s.NamesRead) (hpacket : packet.NamedAsRead) {o : Observables}
    {m m' : StreamMetrics} (hkey : m'.mMetricsKey = m.mMetricsKey)
    (hstream : s.stream m.mName = some m ∨
      s.stream m.mName = none ∧ StreamMetrics.named packet = .ok m) :
    ({ s with observables := o }.setStream m.mName m').NamesRead := by
  intro name other hother
  rw [stream_counted] at hother
  split at hother
  · next hname =>
    obtain rfl := Option.some.inj hother
    rw [hname, hkey]
    rcases hstream with hold | ⟨_, hnew⟩
    · exact h m.mName m hold
    · obtain ⟨id, name, key, hid, hstring, hnewKey, rfl⟩ := StreamMetrics.named_eq_ok.mp hnew
      refine ⟨id, hpacket id hid, ?_, hnewKey⟩
      exact Except.ok.inj ((hpacket id hid).getStringReference.symm.trans hstring)
  · exact h name other hother

end MetricsStore

namespace MeteredRun

/-- The packets handed to `update` come from the reader. -/
def FromReader : MetricsCall → Prop
  | .update packet _ _ => packet.NamedAsRead
  | .tabulateAndResetAllMetrics _ => True

theorem next_namesRead {r r' : MeteredRun} {a : MetricsCall} (ha : FromReader a)
    (h : r.metrics.NamesRead) (hnext : MeteredRun.next r a = some r') : r'.metrics.NamesRead := by
  cases a with
  | update packet now later =>
    simp only [MeteredRun.next] at hnext
    have hcases := MetricsStore.update_cases r.metrics packet now later
    generalize r.metrics.update packet now later = result at hcases hnext
    cases hcases with
    | failed o e hcounter =>
      obtain rfl := Option.some.inj hnext
      exact h
    | counted o m time hcounter hname htime hstream =>
      obtain rfl := Option.some.inj hnext
      exact h.counted ha StreamMetrics.count_names.2 hstream
  | tabulateAndResetAllMetrics now =>
    obtain rfl := Option.some.inj hnext
    exact MetricsStore.tabulateAll_preserves (fun s hs => hs) (fun s name hs => hs.tabulateStream name) h

end MeteredRun

/-! ### The names in the ring -/

namespace DataLinkClient

variable {lib : Libmseed} {options : WriterOptions} {c c' : DataLinkClient}

/-- The packet in work is the one that was dequeued last, and it is written under its name. -/
def InHand (obtained : List Packet) : Writer → Prop
  | .converting packet => obtained.getLast? = some packet
  | .naming packet _ => obtained.getLast? = some packet
  | .writing streamIdentifier _ =>
    ∃ packet, obtained.getLast? = some packet ∧ streamName packet = .ok streamIdentifier
  | _ => True

theorem inHand_of_idle {obtained : List Packet} {writer : Writer} (h : writer.packetInWork = false) :
    InHand obtained writer := by
  cases writer with
  | converting packet | naming packet records | writing streamIdentifier records => cases h
  | _ => trivial

/-- The packet a call of `dl_write` is for: the one dequeued last at the time of the call. -/
def packetOf (c : DataLinkClient) (call : WriteCall) : Option Packet :=
  (c.queue.obtained.take call.ordinal).getLast?

/-- Every call of `dl_write` was made under the name of the packet it is for. -/
structure WritesUnderNames (c : DataLinkClient) : Prop where
  inHand : InHand c.queue.obtained c.writer
  called : ∀ call ∈ c.log.calls, call.ordinal ≤ c.queue.obtained.length
  named : ∀ call ∈ c.log.calls, ∃ packet, c.packetOf call = some packet ∧
    streamName packet = .ok call.streamIdentifier

theorem WritesUnderNames.of_same (h : c.WritesUnderNames) (hlog : c'.log.calls = c.log.calls)
    (hobtained : c'.queue.obtained = c.queue.obtained) (hinHand : InHand c.queue.obtained c'.writer) :
    c'.WritesUnderNames := by
  refine ⟨hobtained ▸ hinHand, ?_, ?_⟩
  · rw [hlog, hobtained]
    exact h.called
  · simp only [packetOf, hlog, hobtained]
    exact h.named

theorem WritesUnderNames.wrote (h : c.WritesUnderNames) {streamIdentifier : Str} {record : DataLinkPacket}
    {rest : List DataLinkPacket} (hwriting : c.writer = .writing streamIdentifier (record :: rest))
    (answer : Answer) : (c.dlWrite streamIdentifier record rest answer).WritesUnderNames := by
  have hinHand := h.inHand
  rw [hwriting] at hinHand
  obtain ⟨packet, hlast, hname⟩ := hinHand
  obtain ⟨call, isConnected, rfl, hcases⟩ :=
    dlWrite_cases (c := c) streamIdentifier record rest answer
  have hshape : ∃ log writer, c.dlWrite streamIdentifier record rest answer =
        { c with log, isConnected, writer } ∧
      log.calls = c.log.calls ++ [⟨c.queue.obtained.length, streamIdentifier, record, answer.returnCode⟩] ∧
      InHand c.queue.obtained writer := by
    rcases hcases with ⟨_, _, heq⟩ | ⟨_, _, heq⟩ | ⟨_, heq⟩
    · exact ⟨_, _, heq, rfl, trivial⟩
    · exact ⟨_, _, heq, rfl, packet, hlast, hname⟩
    · exact ⟨_, _, heq, rfl, packet, hlast, hname⟩
  obtain ⟨log, writer, heq, hcalls, hafter⟩ := hshape
  rw [heq]
  refine ⟨hafter, ?_, ?_⟩
  · intro call hcall
    rcases List.mem_append.mp (hcalls ▸ hcall) with hold | hnew
    · exact h.called call hold
    · rw [List.mem_singleton.mp hnew]
  · intro call hcall
    rcases List.mem_append.mp (hcalls ▸ hcall) with hold | hnew
    · exact h.named call hold
    · obtain rfl := List.mem_singleton.mp hnew
      refine ⟨packet, ?_, hname⟩
      rw [packetOf, List.take_length]
      exact hlast

theorem WritesUnderNames.write (h : c.WritesUnderNames) (hstep : WriteStep lib options c c') :
    c'.WritesUnderNames := by
  have hinHand := h.inHand
  cases hstep with
  | moved writer isConnected hfrom hto => exact h.of_same rfl rfl (inHand_of_idle hto)
  | took packet queue hdequeuing htake =>
    obtain ⟨rest, _, rfl⟩ := BoundedQueue.take_eq_some.mp htake
    refine ⟨List.getLast?_concat, ?_, ?_⟩
    · intro call hcall
      exact (h.called call hcall).trans (by simp)
    · intro call hcall
      simp only [packetOf]
      rw [List.take_append_of_le_length (h.called call hcall)]
      exact h.named call hcall
  | refused packet exception hconverting herror => exact h.of_same rfl rfl trivial
  | converted packet records hconverting hok =>
    rw [hconverting] at hinHand
    exact h.of_same rfl rfl hinHand
  | unnamed packet records exception hnaming herror => exact h.of_same rfl rfl trivial
  | named packet records streamIdentifier hnaming hname =>
    rw [hnaming] at hinHand
    exact h.of_same rfl rfl ⟨packet, hinHand, hname⟩
  | finished streamIdentifier hwriting => exact h.of_same rfl rfl trivial
  | skipped streamIdentifier record rest hwriting hempty =>
    rw [hwriting] at hinHand
    exact h.of_same rfl rfl hinHand
  | wrote streamIdentifier record rest answer hwriting hnonempty => exact h.wrote hwriting answer

theorem WritesUnderNames.next {event : Event} (h : c.WritesUnderNames)
    (hnext : DataLinkClient.next lib options c event = some c') : c'.WritesUnderNames := by
  rcases next_cases hnext with hwrite | hother
  · exact h.write hwrite
  · apply h.of_same (congrArg WriterLog.calls hother.log) hother.obtained
    rcases hother.writer with heq | ⟨_, hidle, _⟩
    · rw [heq]
      exact h.inHand
    · exact inHand_of_idle hidle

theorem writesUnderNames_of_exec {events : List Event}
    (hrun : exec (DataLinkClient.next lib options) {} events = some c) : c.WritesUnderNames := by
  have hinit : ({} : DataLinkClient).WritesUnderNames :=
    ⟨trivial, fun _ hmem => (nomatch hmem), fun _ hmem => (nomatch hmem)⟩
  exact invariant (fun _ _ _ h hnext => h.next hnext) hinit hrun

theorem mem_of_packetOf {call : WriteCall} {packet : Packet} (h : c.packetOf call = some packet) :
    packet ∈ c.queue.obtained :=
  List.mem_of_mem_take (List.mem_of_getLast? h)

theorem streamName_eq_ok {packet : Packet} {name : Str} (h : streamName packet = .ok name) :
    ∃ id, packet.getStreamIdentifierReference = .ok id ∧ toDataLinkIdentifier id = .ok name := by
  unfold streamName at h
  cases hid : packet.getStreamIdentifierReference with
  | error e =>
    rw [hid] at h
    cases h
  | ok id =>
    rw [hid] at h
    exact ⟨id, rfl, h⟩

end DataLinkClient

/-! ### The encodings agree -/

open StreamIdentifier in
/-- **The encodings agree**: identifiers of the reader have equal parts exactly when they have equal
DataLink names, and exactly when they have equal metrics keys. No two streams of a metrics map that the
reader's packets have gone through share a key, and writers write packets under one DataLink name only if
their identifiers have equal parts. -/
theorem encodings_agree :
    (∀ nslc id, nslc.Split → (nslc.location = [] ∨ isEmpty nslc.location = false) →
      readIdentifier nslc = .ok id → id.AsRead) ∧
    (∀ id id' : StreamIdentifier, id.AsRead → id'.AsRead →
      ∃ name name' key key', toDataLinkIdentifier id = .ok name ∧ toDataLinkIdentifier id' = .ok name' ∧
        metricsKey id = .ok key ∧ metricsKey id' = .ok key' ∧
        (SameParts id id' ↔ name = name') ∧ (SameParts id id' ↔ key = key')) ∧
    (∀ (started : Int) (as : List MetricsCall) (r : MeteredRun), (∀ a ∈ as, MeteredRun.FromReader a) →
      exec MeteredRun.next (MeteredRun.initial started) as = some r → r.metrics.DistinctKeys) ∧
    ∀ (lib : Libmseed) (options options' : WriterOptions) (events events' : List DataLinkClient.Event)
      (c c' : DataLinkClient), exec (DataLinkClient.next lib options) {} events = some c →
      exec (DataLinkClient.next lib options') {} events' = some c' →
      (∀ packet ∈ c.queue.obtained ++ c'.queue.obtained, packet.NamedAsRead) →
      ∀ call ∈ c.log.calls, ∀ call' ∈ c'.log.calls, call.streamIdentifier = call'.streamIdentifier →
        ∃ packet packet' id id', c.packetOf call = some packet ∧ c'.packetOf call' = some packet' ∧
          packet.getStreamIdentifierReference = .ok id ∧
          packet'.getStreamIdentifierReference = .ok id' ∧ SameParts id id' := by
  refine ⟨fun nslc id hsplit hlocation h => asRead_of_readIdentifier hsplit hlocation h, ?_, ?_, ?_⟩
  · intro id id' h h'
    refine ⟨_, _, _, _, h.toDataLinkIdentifier, h'.toDataLinkIdentifier, h.metricsKey, h'.metricsKey,
      ⟨?_, fun heq => ?_⟩, ⟨?_, fun heq => ?_⟩⟩
    · rintro ⟨hnetwork, hstation, hchannel, hlocation⟩
      rw [hnetwork, hstation, hchannel, hlocation]
    · apply h.sameParts_of_dataLink h'
      rw [h.toDataLinkIdentifier, h'.toDataLinkIdentifier, heq]
    · rintro ⟨hnetwork, hstation, hchannel, hlocation⟩
      rw [hnetwork, hstation, hchannel, hlocation]
    · apply h.sameParts_of_key h'
      rw [h.metricsKey, h'.metricsKey, heq]
  · intro started as r hfrom hrun
    have hnames : r.metrics.NamesRead :=
      invariant_along (I := fun t => t.metrics.NamesRead)
        (fun _ _ _ ha h hnext => MeteredRun.next_namesRead ha h hnext) (fun _ _ hm => nomatch hm)
        (along_of_mem hfrom _) hrun
    exact hnames.distinctKeys
  · intro lib options options' events events' c c' hrun hrun' hread call hcall call' hcall' heq
    obtain ⟨packet, hpacket, hname⟩ := (DataLinkClient.writesUnderNames_of_exec hrun).named call hcall
    obtain ⟨packet', hpacket', hname'⟩ :=
      (DataLinkClient.writesUnderNames_of_exec hrun').named call' hcall'
    obtain ⟨id, hid, hlink⟩ := DataLinkClient.streamName_eq_ok hname
    obtain ⟨id', hid', hlink'⟩ := DataLinkClient.streamName_eq_ok hname'
    refine ⟨packet, packet', id, id', hpacket, hpacket', hid, hid', ?_⟩
    have hmem := List.mem_append_left c'.queue.obtained (DataLinkClient.mem_of_packetOf hpacket)
    have hmem' := List.mem_append_right c.queue.obtained (DataLinkClient.mem_of_packetOf hpacket')
    apply (hread packet hmem id hid).sameParts_of_dataLink (hread packet' hmem' id' hid')
    rw [hlink, hlink', heq]

/-- Two streams of the known station: one with underscores in its channel, and one that differs from it in
the location code. -/
def knownExtended : Nslc := ⟨['U', 'U'], ['F', 'T', 'U'], ['0', '1'], ['H', '_', 'N']⟩
def knownShort : Nslc := ⟨['U', 'U'], ['F', 'T', 'U'], ['N'], ['H']⟩

/-- The two streams have two DataLink names and two keys. -/
theorem encodings_agree_known :
    toDataLinkIdentifier (canonical knownExtended) ≠ toDataLinkIdentifier (canonical knownShort) ∧
      metricsKey (canonical knownExtended) ≠ metricsKey (canonical knownShort) := by
  obtain ⟨hread, hagree, _⟩ := encodings_agree
  have h := hread knownExtended (canonical knownExtended) (by decide) (.inr rfl) rfl
  have h' := hread knownShort (canonical knownShort) (by decide) (.inr rfl) rfl
  obtain ⟨name, name', key, key', hname, hname', hkey, hkey', hnames, hkeys⟩ := hagree _ _ h h'
  have hdiffer : ¬ StreamIdentifier.SameParts (canonical knownExtended) (canonical knownShort) :=
    fun hsame => absurd hsame.2.2.1 (by decide)
  rw [hname, hname', hkey, hkey']
  exact ⟨fun heq => hdiffer (hnames.mpr (Except.ok.inj heq)),
    fun heq => hdiffer (hkeys.mpr (Except.ok.inj heq))⟩

end USEEDLinkToRingServer
