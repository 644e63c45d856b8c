import USEEDLinkToRingServer.RecordWalk
import USEEDLinkToRingServer.DataLinkPacket

/-!
# Stream names through the relay

The reader decodes a source identifier and the writer makes one again. In between the codes take their
canonical spelling, and an empty location code becomes two dashes.
-/

namespace USEEDLinkToRingServer

/-- The codes have neither blanks nor lower-case letters. -/
def Nslc.Plain (nslc : Nslc) : Prop :=
  ∀ c ∈ nslc.network ++ nslc.station ++ nslc.location ++ nslc.channel, c ≠ ' ' ∧ c.isLower = false

instance (nslc : Nslc) : Decidable nslc.Plain := List.decidableBAll _ _

/-- The writer describes every packing of the packet with this source identifier. -/
def PackedAs (lib : Libmseed) (packet : Packet) (sid : Str) : Prop :=
  ∀ options, ∃ packed, msRecord lib packet options = .ok packed ∧ packed.sid = sid

/-- The location code that a decoded one is forwarded as. -/
def forwardedLocation (location : Str) : Str :=
  if location = [] then ['-', '-'] else if isEmpty location then [] else location

theorem canonical_of_plain {nslc : Nslc} (h : nslc.Plain) :
    (canonical nslc).mNetwork = nslc.network ∧ (canonical nslc).mStation = nslc.station ∧
      (canonical nslc).mChannel = nslc.channel ∧
      (canonical nslc).mLocationCode = forwardedLocation nslc.location := by
  have hnetwork : convertString nslc.network = nslc.network :=
    convertString_eq_self fun c hc => h c (by simp [hc])
  have hstation : convertString nslc.station = nslc.station :=
    convertString_eq_self fun c hc => h c (by simp [hc])
  have hlocation : convertString nslc.location = nslc.location :=
    convertString_eq_self fun c hc => h c (by simp [hc])
  have hchannel : convertString nslc.channel = nslc.channel :=
    convertString_eq_self fun c hc => h c (by simp [hc])
  refine ⟨hnetwork, hstation, hchannel, ?_⟩
  change (if isEmpty (if nslc.location.isEmpty then ['-', '-'] else nslc.location) then []
    else convertString (if nslc.location.isEmpty then ['-', '-'] else nslc.location)) = _
  by_cases hempty : nslc.location = []
  · rw [forwardedLocation, if_pos hempty, hempty]
    rfl
  · have hisEmpty : nslc.location.isEmpty = false := by simpa using hempty
    simp only [forwardedLocation, hempty, hisEmpty, hlocation, Bool.false_eq_true, if_false]

/-- The packet of a record is packed under the name of its forwarded codes. -/
theorem packedAs_of_unpackRecord {lib : Libmseed} {record : MS3Record} {packet : Packet}
    (h : unpackRecord lib record = .ok packet) {nslc : Nslc}
    (hnslc : lib.msSid2nslc record.sid = some nslc) (hplain : nslc.Plain) {sid : Str}
    (hsid : lib.msNslc2sid ⟨nslc.network, nslc.station, forwardedLocation nslc.location,
      nslc.channel⟩ = some sid) : PackedAs lib packet sid := by
  obtain ⟨nslc', hnslc', hnonblank, hrate, hsamples⟩ := unpackRecord_eq_ok.mp h
  obtain rfl := Option.some.inj (hnslc.symm.trans hnslc')
  obtain ⟨hid, hhas, hsamprate, _⟩ := unpackSamples_frame hsamples
  obtain ⟨hnetwork, hstation, hchannel, hlocation⟩ := canonical_of_plain hplain
  have hsamprate' : packet.pImpl.mSamplingRate = record.samprate := hsamprate
  intro options
  refine msRecord_of_packSid options ?_ hhas ?_
  · simp [Packet.hasSamplingRate, hsamprate', hrate]
  · rw [hid, (describe_frame record nslc).1, packSid_of_complete (canonical_complete hnonblank),
      hnetwork, hstation, hchannel, hlocation, hsid]

/-- **Stream names.** A stream with a location code that is not blank is forwarded under the source
identifier it came with. Without a location code it is forwarded under the name of the location code
`--`, and with a location code of white space other than blanks under the name without one. -/
theorem sid_forwarded (lib : Libmseed) (hlib : lib.NamesInvert) (buffer : Bytes)
    (bufferSize : Int32) (packets : List Packet) (walk : Walk)
    (h : miniSEEDToDataPackets lib buffer bufferSize = some (.ok packets, walk)) :
    List.Forall₂
      (fun record packet => ∀ nslc, lib.msSid2nslc record.sid = some nslc → nslc.Plain →
        (isEmpty nslc.location = false → PackedAs lib packet record.sid) ∧
        (nslc.location = [] → ∀ sid,
          lib.msNslc2sid ⟨nslc.network, nslc.station, ['-', '-'], nslc.channel⟩ = some sid →
            PackedAs lib packet sid) ∧
        (nslc.location ≠ [] → isEmpty nslc.location = true → ∀ sid,
          lib.msNslc2sid ⟨nslc.network, nslc.station, [], nslc.channel⟩ = some sid →
            PackedAs lib packet sid))
      walk.handedOut packets := by
  apply (miniSEEDToDataPackets_unpacked h).imp
  intro record packet hunpack nslc hnslc hplain
  have hpacked := @packedAs_of_unpackRecord lib record packet hunpack nslc hnslc hplain
  refine ⟨fun hlocation => hpacked ?_, fun hlocation sid hsid => hpacked ?_,
    fun hlocation hblank sid hsid => hpacked ?_⟩
  · have hne : nslc.location ≠ [] := by
      rintro hnil
      rw [hnil] at hlocation
      cases hlocation
    simp only [forwardedLocation, hne, hlocation, Bool.false_eq_true, if_false]
    exact (hlib _ _).mpr hnslc
  · rwa [forwardedLocation, if_pos hlocation]
  · simpa only [forwardedLocation, hlocation, hblank, if_true, if_false] using hsid

/-- The stream of the known record keeps its name. -/
theorem sid_forwarded_known :
    ∃ packet walk,
      miniSEEDToDataPackets (.knowing knownRecord knownNames) knownRecord.bytes 64 =
        some (.ok [packet], walk) ∧
      PackedAs (.knowing knownRecord knownNames) packet knownRecord.record.sid := by
  have hwalk : ∃ packet walk,
      miniSEEDToDataPackets (.knowing knownRecord knownNames) knownRecord.bytes 64 =
        some (.ok [packet], walk) ∧ walk.handedOut = [knownRecord.record] := ⟨_, _, rfl, rfl⟩
  obtain ⟨packet, walk, hwalk, hrecords⟩ := hwalk
  have hall := sid_forwarded _ (Libmseed.knowing_namesInvert (by decide) (by decide)) _ _ _ _ hwalk
  rw [hrecords] at hall
  exact ⟨packet, walk, hwalk, ((List.forall₂_cons.mp hall).1
    ⟨['U', 'U'], ['F', 'T', 'U'], ['0', '1'], ['H', 'H', 'N']⟩ rfl (by decide)).1 rfl⟩

/-- A stream without a location code is republished under another name. -/
theorem sid_not_preserved :
    ¬ ∀ (lib : Libmseed), lib.NamesInvert → ∀ (buffer : Bytes) (bufferSize : Int32)
      (packets : List Packet) (walk : Walk),
      miniSEEDToDataPackets lib buffer bufferSize = some (.ok packets, walk) →
        List.Forall₂
          (fun record packet => ∀ nslc, lib.msSid2nslc record.sid = some nslc → nslc.Plain →
            nslc.NonBlank → PackedAs lib packet record.sid)
          walk.handedOut packets := by
  intro hclaim
  have hwalk : ∃ packet walk,
      miniSEEDToDataPackets (.knowing knownRecordNoLocation knownNames) knownRecordNoLocation.bytes 62 =
        some (.ok [packet], walk) ∧ walk.handedOut = [knownRecordNoLocation.record] :=
    ⟨_, _, rfl, rfl⟩
  obtain ⟨packet, walk, hwalk, hrecords⟩ := hwalk
  have hplain : Nslc.Plain ⟨['U', 'U'], ['F', 'T', 'U'], [], ['H', 'H', 'N']⟩ := by decide
  have hall := hclaim _ (Libmseed.knowing_namesInvert (by decide) (by decide)) _ _ _ _ hwalk
  have hunpacked := miniSEEDToDataPackets_unpacked hwalk
  rw [hrecords] at hall hunpacked
  have hkept := (List.forall₂_cons.mp hall).1 _ rfl hplain ⟨rfl, rfl, rfl⟩ {}
  have hdashes := packedAs_of_unpackRecord (List.forall₂_cons.mp hunpacked).1 rfl hplain rfl {}
  obtain ⟨packed, hpacked, hsid⟩ := hkept
  obtain ⟨packed', hpacked', hsid'⟩ := hdashes
  obtain rfl := Except.ok.inj (hpacked.symm.trans hpacked')
  exact absurd (hsid.symm.trans hsid') (by decide)

end USEEDLinkToRingServer
