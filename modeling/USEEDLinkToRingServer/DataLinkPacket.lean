import USEEDLinkToRingServer.Packet

/-!
# From packets to DataLink records

`toDataLinkPackets` describes a packet to libmseed and packs it in up to two passes: one that does not
flush, whose output is checked, and a flushing one to fall back on.
-/

namespace USEEDLinkToRingServer

/-- A packed record with its first and last time in microseconds. -/
structure DataLinkPacket where
  data : Bytes
  startTime : Int64 := 0
  endTime : Int64 := 0
deriving DecidableEq, Repr

inductive Compression
  | none
  | steim1
  | steim2
deriving DecidableEq, Repr

/-- The arguments of `toDataLinkPackets` that a writer fixes once. -/
structure PackingOptions where
  maxRecordLength : Int := 512
  useMiniSEED3 : Bool := true
  compression : Compression := .none
  flushPackets : Bool := true
deriving DecidableEq, Repr

variable (lib : Libmseed)

/-- The packer's callback. The times are truncated from nanoseconds to microseconds, and are zero if
the record cannot be parsed. -/
def msRecordHandler (record : Bytes) : DataLinkPacket :=
  match lib.msr3Parse record false with
  | ⟨returnCode, some parsed⟩ =>
    if returnCode = MS_NOERROR then
      { data := record
        startTime := parsed.starttime / 1000
        endTime := lib.msr3Endtime parsed / 1000 }
    else { data := record }
  | ⟨_, none⟩ => { data := record }

@[simp] theorem msRecordHandler_data (record : Bytes) : (msRecordHandler lib record).data = record := by
  unfold msRecordHandler
  split
  · split <;> rfl
  · rfl

/-- The callback keeps the records it is given. -/
theorem map_data_msRecordHandler (records : List Bytes) :
    (records.map (msRecordHandler lib)).map (·.data) = records := by
  rw [List.map_map]
  exact (List.map_congr_left fun _ _ => msRecordHandler_data lib _).trans (List.map_id _)

/-- The encoding and the sample type of a packet with samples. -/
def sampleEncoding (dataType : DataType) (compression : Compression) :
    Except Exception (Encoding × Char) :=
  match dataType with
  | .integer32 =>
    .ok (match compression with
      | .none => .int32
      | .steim1 => .steim1
      | .steim2 => .steim2, 'i')
  | .float => .ok (.float32, 'f')
  | .double => .ok (.float64, 'd')
  | .text => .ok (.text, 't')
  | .unknown => .error (.runtimeError "Unhandled precision")

/-- The source identifier of the packed records. -/
def packSid (identifier : StreamIdentifier) : Except Exception Str := do
  let location ← if identifier.hasLocationCode then identifier.getLocationCode else .ok []
  let network ← identifier.getNetwork
  let station ← identifier.getStation
  let channel ← identifier.getChannel
  match lib.msNslc2sid { network, station, location, channel } with
  | none => .error (.runtimeError "Failed to pack SID")
  | some sid => .ok sid

/-- The description of a packet that the packer is given. -/
def msRecord (packet : Packet) (options : PackingOptions) : Except Exception MS3Record := do
  let samprate ←
    match packet.getSamplingRate with
    | .error e => .error (.runtimeError ("Failed to pack mseed record because " ++ e.what))
    | .ok samplingRate => .ok samplingRate
  let identifier ← packet.getStreamIdentifierReference
  let sid ← packSid lib identifier
  let described : MS3Record :=
    { sid
      reclen := if options.maxRecordLength > 0 then options.maxRecordLength else 4096
      pubversion := 1
      starttime := packet.getStartTime
      samprate
      numsamples := packet.getNumberOfSamples
      samplecnt := packet.getNumberOfSamples }
  if packet.getNumberOfSamples > 0 then
    let (encoding, sampletype) ← sampleEncoding packet.getDataType options.compression
    return { described with encoding := some encoding, sampletype, datasamples := packet.getDataPointer }
  else return described

/-- The result of one packing pass. -/
def packingPass (options : PackingOptions) (record : MS3Record) (flushData : Bool) : PackResult :=
  lib.msr3Pack record { flushData, packVer2 := !options.useMiniSEED3 }

/-- The checks on the pass that does not flush: it made a record, it reports as many as it gave to the
callback, and all of them fit in a DataLink packet. -/
def isOkay (result : PackResult) : Bool :=
  let outputPackets := result.records.map (msRecordHandler lib)
  !(result.returnValue < 1) && result.returnValue == castToInt outputPackets.length &&
    outputPackets.all fun packet => packet.data.length ≤ 512

def toDataLinkPackets (packet : Packet) (options : PackingOptions) :
    Except Exception (List DataLinkPacket) := do
  let record ← msRecord lib packet options
  if !options.flushPackets && isOkay lib (packingPass lib options record false) then
    return (packingPass lib options record false).records.map (msRecordHandler lib)
  else
    let result := packingPass lib options record true
    if result.returnValue < 0 then .error (.runtimeError "Failed to pack miniSEED")
    else return result.records.map (msRecordHandler lib)

/-! ### What the packer is asked and what is returned -/

variable {lib}

theorem packSid_eq_ok {identifier : StreamIdentifier} {sid : Str}
    (h : packSid lib identifier = .ok sid) :
    ∃ location, lib.msNslc2sid
        ⟨identifier.mNetwork, identifier.mStation, location, identifier.mChannel⟩ = some sid ∧
      (identifier.mHasLocationCode = true → location = identifier.mLocationCode) ∧
      identifier.hasNetwork = true ∧ identifier.hasStation = true ∧ identifier.hasChannel = true := by
  unfold packSid StreamIdentifier.getNetwork StreamIdentifier.getStation
    StreamIdentifier.getChannel StreamIdentifier.getLocationCode at h
  cases hlocation : identifier.hasLocationCode <;> cases hnetwork : identifier.hasNetwork <;>
    cases hstation : identifier.hasStation <;> cases hchannel : identifier.hasChannel <;>
    simp only [hlocation, hnetwork, hstation, hchannel, Bool.not_true, Bool.not_false,
      Bool.false_eq_true, if_true, if_false, bind, Except.bind, reduceCtorEq] at h
  · split at h
    · cases h
    · next found heq =>
      obtain rfl := Except.ok.inj h
      refine ⟨[], heq, fun hflag => ?_, rfl, rfl, rfl⟩
      rw [StreamIdentifier.hasLocationCode, hflag] at hlocation
      cases hlocation
  · split at h
    · cases h
    · next found heq =>
      obtain rfl := Except.ok.inj h
      exact ⟨_, heq, fun _ => rfl, rfl, rfl, rfl⟩

theorem sampleEncoding_code {u : SampleType} {compression : Compression} {encoding : Encoding}
    {code : Char} (h : sampleEncoding u.dataType compression = .ok (encoding, code)) :
    code = u.code := by
  cases u <;> exact (Prod.mk.inj (Except.ok.inj h)).2.symm

/-- The description carries the packet's time, rate and samples. -/
theorem msRecord_eq_ok {packet : Packet} {options : PackingOptions} {record : MS3Record}
    (h : msRecord lib packet options = .ok record) :
    packet.hasSamplingRate = true ∧ packet.hasStreamIdentifier = true ∧
      packSid lib packet.pImpl.mIdentifier = .ok record.sid ∧
      record.starttime = packet.getStartTime ∧ record.samprate = packet.pImpl.mSamplingRate ∧
      record.numsamples = packet.getNumberOfSamples ∧
      (0 < packet.getNumberOfSamples → record.datasamples = packet.getDataPointer ∧
        ∃ encoding, sampleEncoding packet.getDataType options.compression =
          .ok (encoding, record.sampletype)) := by
  unfold msRecord Packet.getSamplingRate Packet.getStreamIdentifierReference at h
  cases hrate : packet.hasSamplingRate <;> cases hidentifier : packet.hasStreamIdentifier <;>
    simp only [hrate, hidentifier, Bool.not_true, Bool.not_false, Bool.false_eq_true, if_true,
      if_false, bind, Except.bind, reduceCtorEq] at h
  cases hsid : packSid lib packet.pImpl.mIdentifier with
  | error e => simp [hsid] at h
  | ok sid =>
    simp only [hsid] at h
    split at h
    · cases hencoding : sampleEncoding packet.getDataType options.compression with
      | error e => simp [hencoding] at h
      | ok encoding =>
        simp only [hencoding, pure, Except.pure, Except.ok.injEq] at h
        subst h
        exact ⟨rfl, rfl, rfl, rfl, rfl, rfl, fun _ => ⟨rfl, encoding.1, rfl⟩⟩
    · next hnone =>
      simp only [pure, Except.pure, Except.ok.injEq] at h
      subst h
      exact ⟨rfl, rfl, rfl, rfl, rfl, rfl, fun hpos => absurd hpos hnone⟩

theorem packSid_of_complete {identifier : StreamIdentifier} (h : identifier.Complete) :
    packSid lib identifier =
      match lib.msNslc2sid ⟨identifier.mNetwork, identifier.mStation, identifier.mLocationCode,
        identifier.mChannel⟩ with
      | none => .error (.runtimeError "Failed to pack SID")
      | some sid => .ok sid := by
  obtain ⟨hnetwork, hstation, hchannel, hlocation⟩ := StreamIdentifier.get_of_has h.has
  simp only [packSid, hnetwork, hstation, hchannel, hlocation, h.has.2.2.2, if_true]
  rfl

/-- A packet whose source identifier can be made is described. -/
theorem msRecord_of_packSid {packet : Packet} {sid : Str} (options : PackingOptions)
    (hrate : packet.hasSamplingRate = true) (hidentifier : packet.hasStreamIdentifier = true)
    (hsid : packSid lib packet.pImpl.mIdentifier = .ok sid) :
    ∃ record, msRecord lib packet options = .ok record ∧ record.sid = sid := by
  have hencoding : 0 < packet.getNumberOfSamples →
      ∃ encoding, sampleEncoding packet.getDataType options.compression = .ok encoding := by
    intro hpos
    rw [Packet.getNumberOfSamples, PacketImpl.size] at hpos
    rw [Packet.getDataType]
    cases htype : packet.pImpl.mDataType
    · exact ⟨_, rfl⟩
    · exact ⟨_, rfl⟩
    · exact ⟨_, rfl⟩
    · exact ⟨_, rfl⟩
    · rw [htype] at hpos
      exact absurd hpos (lt_irrefl 0)
  simp only [msRecord, Packet.getSamplingRate, Packet.getStreamIdentifierReference, hrate,
    hidentifier, hsid, Bool.not_true, Bool.false_eq_true, if_false, bind, Except.bind, pure,
    Except.pure]
  split
  · next hpos =>
    obtain ⟨encoding, hencoding⟩ := hencoding hpos
    rw [hencoding]
    exact ⟨_, rfl, rfl⟩
  · exact ⟨_, rfl, rfl⟩

/-- The two passes over a packet that is described. -/
theorem toDataLinkPackets_of_msRecord {packet : Packet} {options : PackingOptions} {record : MS3Record}
    (h : msRecord lib packet options = .ok record) :
    toDataLinkPackets lib packet options =
      if !options.flushPackets && isOkay lib (packingPass lib options record false) then
        .ok ((packingPass lib options record false).records.map (msRecordHandler lib))
      else if (packingPass lib options record true).returnValue < 0 then
        .error (.runtimeError "Failed to pack miniSEED")
      else .ok ((packingPass lib options record true).records.map (msRecordHandler lib)) := by
  simp only [toDataLinkPackets, h, bind, Except.bind, pure, Except.pure]

/-- Only complete packets are packed, and what is returned was emitted by one pass. -/
theorem toDataLinkPackets_eq_ok {packet : Packet} {options : PackingOptions}
    {packets : List DataLinkPacket} (h : toDataLinkPackets lib packet options = .ok packets) :
    ∃ record, msRecord lib packet options = .ok record ∧
      ((options.flushPackets = false ∧ isOkay lib (packingPass lib options record false) = true ∧
          packets = (packingPass lib options record false).records.map (msRecordHandler lib)) ∨
        (¬ (options.flushPackets = false ∧
            isOkay lib (packingPass lib options record false) = true) ∧
          0 ≤ (packingPass lib options record true).returnValue ∧
          packets = (packingPass lib options record true).records.map (msRecordHandler lib))) := by
  cases hrecord : msRecord lib packet options with
  | error e => simp [toDataLinkPackets, hrecord, bind, Except.bind] at h
  | ok record =>
    refine ⟨record, rfl, ?_⟩
    rw [toDataLinkPackets_of_msRecord hrecord] at h
    split at h
    · next hfirst =>
      simp only [Bool.and_eq_true, Bool.not_eq_true'] at hfirst
      exact Or.inl ⟨hfirst.1, hfirst.2, (Except.ok.inj h).symm⟩
    · next hfirst =>
      simp only [Bool.and_eq_true, Bool.not_eq_true'] at hfirst
      split at h
      · cases h
      · next hreturn => exact Or.inr ⟨hfirst, not_lt.mp hreturn, (Except.ok.inj h).symm⟩

end USEEDLinkToRingServer
