import USEEDLinkToRingServer.DataLinkClient

/-!
# A packet in work

What the writer does with one packet between taking it from the queue and testing its flag again. It
counts the packet as invalid, or it calls `dl_write` for each record that is not empty. If there is no
such record it does neither.
-/

namespace USEEDLinkToRingServer

open Machine

/-- The stream name and the record of a call. -/
def WriteCall.written (call : WriteCall) : Str × DataLinkPacket :=
  (call.streamIdentifier, call.dataLinkPacket)

namespace DataLinkClient

variable {lib : Libmseed} {options : WriterOptions} {packet : Packet} {c c' : DataLinkClient}
  {before : WriterLog}

/-- The packet can be converted and named. -/
def Accepted (lib : Libmseed) (options : WriterOptions) (packet : Packet) : Prop :=
  ∃ dataLinkPackets streamIdentifier, toDataLinkPackets lib packet options.packing = .ok dataLinkPackets ∧
    streamName packet = .ok streamIdentifier

instance : Decidable (Accepted lib options packet) :=
  match hpackets : toDataLinkPackets lib packet options.packing, hname : streamName packet with
  | .ok dataLinkPackets, .ok streamIdentifier =>
    .isTrue ⟨dataLinkPackets, streamIdentifier, hpackets, hname⟩
  | .error _, _ => .isFalse fun ⟨_, _, hok, _⟩ => nomatch hpackets.symm.trans hok
  | _, .error _ => .isFalse fun ⟨_, _, _, hok⟩ => nomatch hname.symm.trans hok

theorem writes_of_ok {dataLinkPackets : List DataLinkPacket} {streamIdentifier : Str}
    (hpackets : toDataLinkPackets lib packet options.packing = .ok dataLinkPackets)
    (hname : streamName packet = .ok streamIdentifier) :
    writes lib options packet =
      (dataLinkPackets.filter (!·.data.isEmpty)).map (streamIdentifier, ·) := by
  simp only [writes, hpackets, hname]

/-! ### Every step keeps account of the packet -/

/-- How far the writer is with a packet, since it had done what `before` says. -/
inductive InWork (lib : Libmseed) (options : WriterOptions) (packet : Packet) (before : WriterLog)
    (c : DataLinkClient) : Prop
  | converting : c.writer = .converting packet → c.log = before → InWork lib options packet before c
  | naming (dataLinkPackets : List DataLinkPacket) :
      c.writer = .naming packet dataLinkPackets →
      toDataLinkPackets lib packet options.packing = .ok dataLinkPackets → c.log = before →
      InWork lib options packet before c
  | writing (streamIdentifier : Str) (rest : List DataLinkPacket) (new : List WriteCall) :
      c.writer = .writing streamIdentifier rest → Accepted lib options packet →
      c.log.invalidPackets = before.invalidPackets → c.log.calls = before.calls ++ new →
      new.map (·.written) ++ (rest.filter (!·.data.isEmpty)).map (streamIdentifier, ·) =
        writes lib options packet →
      InWork lib options packet before c
  | countedInvalid : c.writer.packetInWork = false → ¬ Accepted lib options packet →
      c.log.invalidPackets = before.invalidPackets + 1 → InWork lib options packet before c
  | left (new : List WriteCall) (rest : List (Str × DataLinkPacket)) :
      c.writer.packetInWork = false → Accepted lib options packet →
      c.log.invalidPackets = before.invalidPackets → c.log.calls = before.calls ++ new →
      new.map (·.written) ++ rest = writes lib options packet →
      (new = [] → rest = []) → InWork lib options packet before c

/-- A call of `dl_write` ends the work on the packet or goes on to the next record. -/
theorem inWork_dlWrite {streamIdentifier : Str} {record : DataLinkPacket} {rest : List DataLinkPacket}
    {new : List WriteCall} (haccepted : Accepted lib options packet)
    (hinvalid : c.log.invalidPackets = before.invalidPackets)
    (hcalls : c.log.calls = before.calls ++ new)
    (hwrites : new.map (·.written) ++
        (((record :: rest).filter (!·.data.isEmpty)).map (streamIdentifier, ·)) =
      writes lib options packet)
    (hnonempty : record.data ≠ []) (answer : Answer) :
    InWork lib options packet before (c.dlWrite streamIdentifier record rest answer) := by
  obtain ⟨call, isConnected, hcall, hcases⟩ := dlWrite_cases (c := c) streamIdentifier record rest answer
  have hwritten : call.written = (streamIdentifier, record) := by rw [hcall, WriteCall.written]
  have hcalls' : c.log.calls ++ [call] = before.calls ++ (new ++ [call]) := by
    rw [hcalls, List.append_assoc]
  have hwrites' : (new ++ [call]).map (·.written) ++
      (rest.filter (!·.data.isEmpty)).map (streamIdentifier, ·) = writes lib options packet := by
    rw [← hwrites]
    simp [hwritten, hnonempty]
  rcases hcases with ⟨_, _, heq⟩ | ⟨_, _, heq⟩ | ⟨_, heq⟩ <;> rw [heq]
  · exact .left _ _ rfl haccepted hinvalid hcalls' hwrites' (by simp)
  · exact .writing streamIdentifier rest _ rfl haccepted hinvalid hcalls' hwrites'
  · exact .writing streamIdentifier rest _ rfl haccepted hinvalid hcalls' hwrites'

theorem inWork_converting (h : InWork lib options packet before c) {packet' : Packet}
    (hwriter : c.writer = .converting packet') : packet' = packet ∧ c.log = before := by
  cases h with
  | converting hw hlog => exact ⟨Writer.converting.inj (hwriter.symm.trans hw), hlog⟩
  | naming _ hw | writing _ _ _ hw => cases hwriter.symm.trans hw
  | countedInvalid hw | left _ _ hw =>
    rw [hwriter] at hw
    cases hw

theorem inWork_naming (h : InWork lib options packet before c) {packet' : Packet}
    {dataLinkPackets : List DataLinkPacket} (hwriter : c.writer = .naming packet' dataLinkPackets) :
    packet' = packet ∧ toDataLinkPackets lib packet options.packing = .ok dataLinkPackets ∧
      c.log = before := by
  cases h with
  | naming _ hw hok hlog =>
    obtain ⟨rfl, rfl⟩ := Writer.naming.inj (hwriter.symm.trans hw)
    exact ⟨rfl, hok, hlog⟩
  | converting hw | writing _ _ _ hw => cases hwriter.symm.trans hw
  | countedInvalid hw | left _ _ hw =>
    rw [hwriter] at hw
    cases hw

theorem inWork_writing (h : InWork lib options packet before c) {streamIdentifier : Str}
    {rest : List DataLinkPacket} (hwriter : c.writer = .writing streamIdentifier rest) :
    ∃ new, Accepted lib options packet ∧ c.log.invalidPackets = before.invalidPackets ∧
      c.log.calls = before.calls ++ new ∧
      new.map (·.written) ++ (rest.filter (!·.data.isEmpty)).map (streamIdentifier, ·) =
        writes lib options packet := by
  cases h with
  | writing _ _ new hw haccepted hinvalid hcalls hwrites =>
    obtain ⟨rfl, rfl⟩ := Writer.writing.inj (hwriter.symm.trans hw)
    exact ⟨new, haccepted, hinvalid, hcalls, hwrites⟩
  | converting hw | naming _ hw => cases hwriter.symm.trans hw
  | countedInvalid hw | left _ _ hw =>
    rw [hwriter] at hw
    cases hw

theorem inWork_write (h : InWork lib options packet before c) (hwork : c.writer.packetInWork = true)
    (hstep : WriteStep lib options c c') : InWork lib options packet before c' := by
  cases hstep with
  | moved writer isConnected hfrom =>
    rw [hfrom] at hwork
    cases hwork
  | took packet' queue hdequeuing htake =>
    rw [hdequeuing] at hwork
    cases hwork
  | refused packet' exception hconverting herror =>
    obtain ⟨rfl, rfl⟩ := inWork_converting h hconverting
    refine .countedInvalid rfl ?_ rfl
    rintro ⟨_, _, hok, _⟩
    cases herror.symm.trans hok
  | converted packet' dataLinkPackets hconverting hok =>
    obtain ⟨rfl, rfl⟩ := inWork_converting h hconverting
    exact .naming dataLinkPackets rfl hok rfl
  | unnamed packet' dataLinkPackets exception hnaming herror =>
    obtain ⟨rfl, _, rfl⟩ := inWork_naming h hnaming
    refine .countedInvalid rfl ?_ rfl
    rintro ⟨_, _, _, hname⟩
    cases herror.symm.trans hname
  | named packet' dataLinkPackets streamIdentifier hnaming hname =>
    obtain ⟨rfl, hok, rfl⟩ := inWork_naming h hnaming
    exact .writing streamIdentifier dataLinkPackets [] rfl ⟨_, _, hok, hname⟩ rfl
      (List.append_nil _).symm (writes_of_ok hok hname).symm
  | finished streamIdentifier hwriting =>
    obtain ⟨new, haccepted, hinvalid, hcalls, hwrites⟩ := inWork_writing h hwriting
    exact .left new [] rfl haccepted hinvalid hcalls hwrites fun _ => rfl
  | skipped streamIdentifier record rest hwriting hempty =>
    obtain ⟨new, haccepted, hinvalid, hcalls, hwrites⟩ := inWork_writing h hwriting
    refine .writing streamIdentifier rest new rfl haccepted hinvalid hcalls ?_
    rwa [List.filter_cons_of_neg (by simp [hempty])] at hwrites
  | wrote streamIdentifier record rest answer hwriting hnonempty =>
    obtain ⟨new, haccepted, hinvalid, hcalls, hwrites⟩ := inWork_writing h hwriting
    exact inWork_dlWrite haccepted hinvalid hcalls hwrites hnonempty answer

theorem inWork_other (h : InWork lib options packet before c) (hwork : c.writer.packetInWork = true)
    (hstep : OtherStep c c') : InWork lib options packet before c' := by
  have hwriter : c'.writer = c.writer := by
    rcases hstep.writer with heq | ⟨hidle, _⟩
    · exact heq
    · rw [hidle] at hwork
      cases hwork
  rw [← hwriter] at hwork
  cases h with
  | converting hw hlog => exact .converting (hwriter.trans hw) (hstep.log.trans hlog)
  | naming dataLinkPackets hw hok hlog =>
    exact .naming dataLinkPackets (hwriter.trans hw) hok (hstep.log.trans hlog)
  | writing streamIdentifier rest new hw haccepted hinvalid hcalls hwrites =>
    exact .writing streamIdentifier rest new (hwriter.trans hw) haccepted (hstep.log ▸ hinvalid)
      (hstep.log ▸ hcalls) hwrites
  | countedInvalid hw haccepted hinvalid =>
    exact .countedInvalid (hwriter ▸ hw) haccepted (hstep.log ▸ hinvalid)
  | left new rest hw haccepted hinvalid hcalls hwrites hnil =>
    exact .left new rest (hwriter ▸ hw) haccepted (hstep.log ▸ hinvalid) (hstep.log ▸ hcalls) hwrites
      hnil

/-- The work on a packet ends with the packet counted as invalid or with a call, unless it is accepted
and has no record to write. -/
theorem inWork_done (h : InWork lib options packet before c) (hdone : c.writer.packetInWork = false) :
    (before.invalidPackets < c.log.invalidPackets ∨ before.calls.length < c.log.calls.length) ↔
      (Accepted lib options packet → writes lib options packet ≠ []) := by
  cases h with
  | converting hw | naming _ hw | writing _ _ _ hw =>
    rw [hw] at hdone
    cases hdone
  | countedInvalid hw haccepted hinvalid =>
    exact iff_of_true (Or.inl (by omega)) fun h => absurd h haccepted
  | left new rest hw haccepted hinvalid hcalls hwrites hnil =>
    have hempty : writes lib options packet = [] ↔ new = [] := by
      rw [← hwrites, List.append_eq_nil_iff, List.map_eq_nil_iff]
      exact ⟨fun h => h.1, fun h => ⟨h, hnil h⟩⟩
    rw [hinvalid, hcalls, List.length_append, ne_eq, hempty, ← List.length_pos_iff.not_left]
    constructor
    · rintro (hlt | hlt) <;> omega
    · intro hvisible
      have hpos := hvisible haccepted
      omega

/-! ### The packer's part -/

/-- The packet is described and named, and the pass whose records are returned does not fail and makes no
record that is not empty. -/
def PacksNothing (lib : Libmseed) (options : PackingOptions) (packet : Packet) : Prop :=
  packet.pImpl.mIdentifier.hasLocationCode = true ∧
    ∃ record, msRecord lib packet options = .ok record ∧
      ((options.flushPackets = false ∧ isOkay lib (packingPass lib options record false) = true ∧
          ∀ bytes ∈ (packingPass lib options record false).records, bytes = []) ∨
        (¬ (options.flushPackets = false ∧
              isOkay lib (packingPass lib options record false) = true) ∧
          0 ≤ (packingPass lib options record true).returnValue ∧
          ∀ bytes ∈ (packingPass lib options record true).records, bytes = []))

/-- A packet that is described can be named if its location code is set. -/
theorem streamName_eq_ok_iff {options : PackingOptions} {record : MS3Record}
    (h : msRecord lib packet options = .ok record) :
    (∃ streamIdentifier, streamName packet = .ok streamIdentifier) ↔
      packet.pImpl.mIdentifier.hasLocationCode = true := by
  obtain ⟨_, hidentifier, hsid, _⟩ := msRecord_eq_ok h
  obtain ⟨_, _, _, hnetwork, hstation, hchannel⟩ := packSid_eq_ok hsid
  have hreference : packet.getStreamIdentifierReference = .ok packet.pImpl.mIdentifier := by
    simp [Packet.getStreamIdentifierReference, hidentifier]
  have hname : streamName packet = toDataLinkIdentifier packet.pImpl.mIdentifier := by
    simp only [streamName, hreference, bind, Except.bind]
  rw [hname]
  constructor
  · rintro ⟨streamIdentifier, hok⟩
    exact (has_of_toDataLinkIdentifier hok).2.2.2
  · intro hlocation
    exact ⟨_, toDataLinkIdentifier_of_has ⟨hnetwork, hstation, hchannel, hlocation⟩⟩

theorem writes_eq_nil_iff {records : List Bytes} {streamIdentifier : Str}
    (hpackets : toDataLinkPackets lib packet options.packing = .ok (records.map (msRecordHandler lib)))
    (hname : streamName packet = .ok streamIdentifier) :
    writes lib options packet = [] ↔ ∀ bytes ∈ records, bytes = [] := by
  rw [writes_of_ok hpackets hname, List.map_eq_nil_iff, List.filter_eq_nil_iff]
  simp

theorem packsNothing_iff :
    PacksNothing lib options.packing packet ↔
      Accepted lib options packet ∧ writes lib options packet = [] := by
  constructor
  · rintro ⟨hlocation, record, hrecord, hpasses⟩
    obtain ⟨streamIdentifier, hname⟩ := (streamName_eq_ok_iff hrecord).mpr hlocation
    have hpackets := toDataLinkPackets_of_msRecord hrecord
    rcases hpasses with ⟨hflush, hokay, hempty⟩ | ⟨hnot, hreturn, hempty⟩
    · rw [hflush, hokay, Bool.not_false, Bool.true_and, if_pos rfl] at hpackets
      exact ⟨⟨_, _, hpackets, hname⟩, (writes_eq_nil_iff hpackets hname).mpr hempty⟩
    · rw [if_neg (by simpa using hnot), if_neg (not_lt.mpr hreturn)] at hpackets
      exact ⟨⟨_, _, hpackets, hname⟩, (writes_eq_nil_iff hpackets hname).mpr hempty⟩
  · rintro ⟨⟨dataLinkPackets, streamIdentifier, hpackets, hname⟩, hnone⟩
    obtain ⟨record, hrecord, hpasses⟩ := toDataLinkPackets_eq_ok hpackets
    refine ⟨(streamName_eq_ok_iff hrecord).mp ⟨_, hname⟩, record, hrecord, ?_⟩
    rcases hpasses with ⟨hflush, hokay, rfl⟩ | ⟨hnot, hreturn, rfl⟩
    · exact Or.inl ⟨hflush, hokay, (writes_eq_nil_iff hpackets hname).mp hnone⟩
    · exact Or.inr ⟨hnot, hreturn, (writes_eq_nil_iff hpackets hname).mp hnone⟩

instance (options : PackingOptions) : Decidable (PacksNothing lib options packet) :=
  decidable_of_iff _ (@packsNothing_iff lib { packing := options } packet).symm

/-- **No packet disappears silently** exactly when it does not happen that it is described and named and
the pass whose records are returned makes none that is not empty. -/
theorem packet_accounted_iff (lib : Libmseed) (options : WriterOptions) (packet : Packet)
    (c c' : DataLinkClient) (as : List Event) (hdequeued : c.writer = .converting packet)
    (hrun : exec (next lib options) c as = some c')
    (hwork : Along (next lib options) (fun s _ => s.writer.packetInWork = true) c as)
    (hdone : c'.writer.packetInWork = false) :
    (c.log.invalidPackets < c'.log.invalidPackets ∨ c.log.calls.length < c'.log.calls.length) ↔
      ¬ PacksNothing lib options.packing packet := by
  have hstep : ∀ (s : DataLinkClient) (a : Event) (s' : DataLinkClient),
      s.writer.packetInWork = true → InWork lib options packet c.log s → next lib options s a = some s' →
        InWork lib options packet c.log s' := by
    intro s a s' hbusy hs hnext
    rcases next_cases hnext with hstep | hstep
    · exact inWork_write hs hbusy hstep
    · exact inWork_other hs hbusy hstep
  have hend := invariant_along hstep (.converting hdequeued rfl) hwork hrun
  rw [inWork_done hend hdone, packsNothing_iff, not_and]

/-! ### The known packet -/

/-- A writer that has taken the known packet. -/
def knownPacketTaken : DataLinkClient := { writer := .converting (knownPacket .integer32 [5]) }

/-- The work on the known packet ends with a call. -/
theorem packet_accounted_iff_known :
    ∃ c', exec (next (.knowing knownRecord knownNames) {}) knownPacketTaken
        [.write {}, .write {}, .write {}, .write {}] = some c' ∧
      (knownPacketTaken.log.invalidPackets < c'.log.invalidPackets ∨
        knownPacketTaken.log.calls.length < c'.log.calls.length) := by
  have hrun : ∃ c', exec (next (.knowing knownRecord knownNames) {}) knownPacketTaken
      [.write {}, .write {}, .write {}, .write {}] = some c' ∧ c'.writer = .testing := ⟨_, rfl, rfl⟩
  obtain ⟨c', hrun, hdone⟩ := hrun
  have hwork : Along (next (.knowing knownRecord knownNames) {})
      (fun s _ => s.writer.packetInWork = true) knownPacketTaken
      [.write {}, .write {}, .write {}, .write {}] := by
    refine (along_cons rfl).mpr ⟨rfl, (along_cons rfl).mpr ⟨rfl, ?_⟩⟩
    exact (along_cons rfl).mpr ⟨rfl, (along_cons rfl).mpr ⟨rfl, trivial⟩⟩
  refine ⟨c', hrun, (packet_accounted_iff _ {} (knownPacket .integer32 [5]) _ c' _ rfl hrun hwork
    (by rw [hdone]; rfl)).mpr ?_⟩
  rintro ⟨_, record, hrecord, ⟨hflush, _⟩ | ⟨_, _, hempty⟩⟩
  · cases hflush
  · obtain rfl := Except.ok.inj hrecord
    exact absurd (hempty knownRecord.bytes (List.mem_singleton.mpr rfl)) (by decide)

/-- The packer makes no record of any packet and returns zero. -/
def packingNothing : Libmseed :=
  { Libmseed.knowing knownRecord knownNames with msr3Pack := fun _ _ => ⟨[], 0, 0⟩ }

/-- With such a packer the known packet disappears. -/
theorem packet_disappears :
    ¬ ∀ (lib : Libmseed) (options : WriterOptions) (packet : Packet) (c c' : DataLinkClient)
      (as : List Event), c.writer = .converting packet → exec (next lib options) c as = some c' →
      Along (next lib options) (fun s _ => s.writer.packetInWork = true) c as →
      c'.writer.packetInWork = false →
        c.log.invalidPackets < c'.log.invalidPackets ∨ c.log.calls.length < c'.log.calls.length := by
  intro hclaim
  have hrun : ∃ c', exec (next packingNothing {}) knownPacketTaken [.write {}, .write {}, .write {}] =
      some c' ∧ c'.writer = .testing ∧ c'.log = knownPacketTaken.log := ⟨_, rfl, rfl, rfl⟩
  obtain ⟨c', hrun, hdone, hlog⟩ := hrun
  have hwork : Along (next packingNothing {}) (fun s _ => s.writer.packetInWork = true)
      knownPacketTaken [.write {}, .write {}, .write {}] := by
    refine (along_cons rfl).mpr ⟨rfl, (along_cons rfl).mpr ⟨rfl, ?_⟩⟩
    exact (along_cons rfl).mpr ⟨rfl, trivial⟩
  have hseen := hclaim packingNothing {} (knownPacket .integer32 [5]) knownPacketTaken c' _ rfl hrun hwork
    (by rw [hdone]; rfl)
  rw [hlog] at hseen
  exact absurd hseen (by decide)

end DataLinkClient

end USEEDLinkToRingServer
