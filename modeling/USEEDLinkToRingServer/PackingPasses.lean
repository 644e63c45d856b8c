import USEEDLinkToRingServer.DataLinkPacket
import USEEDLinkToRingServer.Known
import USEEDLinkToRingServer.PacketObjects

/-!
# The two packing passes

The records of a first pass that does not stand are dropped before the flushing pass, so what is returned comes
from one pass, and no sample is in it twice. The count that is to match the return value of the first pass is
narrowed to an `int`.
-/

namespace USEEDLinkToRingServer

/-! ### Records that cover samples -/

/-- The samples of type `u` that a description gives to the packer. -/
def MS3Record.samplesGiven (u : SampleType) (packed : MS3Record) : List u.Value :=
  ((packed.datasamples.as u).getD []).take packed.numsamples.toNat

/-- The description has no samples, or samples of type `u`. -/
def MS3Record.Typed (u : SampleType) (packed : MS3Record) : Prop :=
  packed.numsamples ≤ 0 ∨ packed.sampletype = u.code ∧ ∃ values, packed.datasamples = .of u values

namespace Libmseed

variable (lib : Libmseed)

/-- The record that `bytes` parse to has these samples. -/
def RecordHas (u : SampleType) (bytes : Bytes) (values : List u.Value) : Prop :=
  ∃ record, lib.msr3Parse bytes true = ⟨MS_NOERROR, some record⟩ ∧ record.numsamples = values.length ∧
    (values ≠ [] → record.sampletype = u.code ∧ record.datasamples = .of u values)

/-- The records have these samples between them, each in one record and all in order. -/
def Covers (u : SampleType) (records : List Bytes) (values : List u.Value) : Prop :=
  ∃ chunks : List (List u.Value), List.Forall₂ (lib.RecordHas u) records chunks ∧ chunks.flatten = values

/-- A flushing call that does not fail emits records of all samples in order, and one that does not flush
records of the first of them. The description is the same after the call. -/
structure PacksInOrder : Prop where
  flushed : ∀ (packed : MS3Record) (flags : PackFlags) (u : SampleType), packed.Typed u →
    flags.flushData = true → 0 ≤ (lib.msr3Pack packed flags).returnValue →
      lib.Covers u (lib.msr3Pack packed flags).records (packed.samplesGiven u)
  begun : ∀ (packed : MS3Record) (flags : PackFlags) (u : SampleType), packed.Typed u →
    flags.flushData = false → 0 ≤ (lib.msr3Pack packed flags).returnValue →
      ∃ first, first <+: packed.samplesGiven u ∧ lib.Covers u (lib.msr3Pack packed flags).records first

/-- The return value is an `int`. -/
def ReturnsInt : Prop := ∀ packed flags, (lib.msr3Pack packed flags).returnValue < 2 ^ 31

end Libmseed

/-! ### One pass -/

section

variable (lib : Libmseed) (packet : Packet) (options : PackingOptions)

/-- The records of the first pass are those to return. -/
structure FirstPassStands (record : MS3Record) : Prop where
  notFlushing : options.flushPackets = false
  created : 1 ≤ (packingPass lib options record false).records.length
  matching : (packingPass lib options record false).returnValue =
    (packingPass lib options record false).records.length
  small : ∀ bytes ∈ (packingPass lib options record false).records, bytes.length ≤ 512

/-- What is returned are the records of the one pass that is called for. -/
def ReturnsOnePass : Prop :=
  (∃ e, toDataLinkPackets lib packet options = .error e) ∨
    ∃ record, msRecord lib packet options = .ok record ∧
      (FirstPassStands lib options record ∧ toDataLinkPackets lib packet options =
          .ok ((packingPass lib options record false).records.map (msRecordHandler lib)) ∨
        ¬ FirstPassStands lib options record ∧ toDataLinkPackets lib packet options =
          .ok ((packingPass lib options record true).records.map (msRecordHandler lib)))

/-- No sample is returned twice, and none is left out if the packets are flushed or the first pass is
rejected. -/
def ReturnsSamplesOnce : Prop :=
  ∀ (u : SampleType) (packets : List DataLinkPacket) (record : MS3Record),
    toDataLinkPackets lib packet options = .ok packets → msRecord lib packet options = .ok record →
    packet.getDataType = u.dataType ∨ packet.getNumberOfSamples < 1 →
      ∃ covered, covered <+: packet.getData u ∧ lib.Covers u (packets.map (·.data)) covered ∧
        (options.flushPackets = true ∨ isOkay lib (packingPass lib options record false) = false →
          covered = packet.getData u)

end

section

variable {lib : Libmseed} {packet : Packet} {options : PackingOptions} {record : MS3Record} {u : SampleType}

/-! ### The samples of a packet -/

theorem getData_of_dataType (htype : packet.getDataType = u.dataType) (hsome : 1 ≤ packet.getNumberOfSamples) :
    packet.getData u = (packet.pImpl.buffer u).take packet.getNumberOfSamples.toNat := by
  have hpointer := Packet.getDataPointer_of_dataType htype hsome
  obtain ⟨_, _, hdata, hheld⟩ := Packet.getters_eq packet
  rw [if_neg (by omega), hpointer] at hheld
  rw [hdata, if_neg (by omega), ← hheld, Packet.copyOf, SampleType.convert_self, List.map_id]

/-- The description gives the packer the samples of the packet. -/
theorem samplesGiven_of_msRecord (h : msRecord lib packet options = .ok record)
    (htype : packet.getDataType = u.dataType ∨ packet.getNumberOfSamples < 1) :
    record.Typed u ∧ record.samplesGiven u = packet.getData u := by
  obtain ⟨_, _, _, _, _, hnumber, hsamples⟩ := msRecord_eq_ok h
  rcases lt_or_ge packet.getNumberOfSamples 1 with hnone | hsome
  · refine ⟨.inl (by omega), ?_⟩
    have hzero : record.numsamples.toNat = 0 := Int.toNat_eq_zero.mpr (by omega)
    rw [MS3Record.samplesGiven, hzero, List.take_zero, (Packet.getters_eq packet).2.2.1, if_pos hnone]
  · have htype : packet.getDataType = u.dataType := htype.resolve_right (by omega)
    obtain ⟨hdata, encoding, hencoding⟩ := hsamples (by omega)
    rw [htype] at hencoding
    rw [Packet.getDataPointer_of_dataType htype hsome] at hdata
    refine ⟨.inr ⟨sampleEncoding_code hencoding, _, hdata⟩, ?_⟩
    rw [MS3Record.samplesGiven, hdata, Samples.as_of, Option.getD_some, hnumber,
      getData_of_dataType htype hsome]

/-- **The samples that are returned** follow from what the packer does in each pass. -/
theorem returnsSamplesOnce (hpacker : lib.PacksInOrder) : ReturnsSamplesOnce lib packet options := by
  intro u packets record h hrecord htype
  obtain ⟨htyped, hgiven⟩ := samplesGiven_of_msRecord hrecord htype
  obtain ⟨record', hrecord', hpass⟩ := toDataLinkPackets_eq_ok h
  obtain rfl := Except.ok.inj (hrecord.symm.trans hrecord')
  rcases hpass with ⟨hflush, hokay, rfl⟩ | ⟨_, hreturn, rfl⟩
  · have hreturn : 0 ≤ (packingPass lib options record false).returnValue := by
      simp only [isOkay, Bool.and_eq_true, Bool.not_eq_true', decide_eq_false_iff_not] at hokay
      omega
    obtain ⟨first, hprefix, hcovers⟩ := hpacker.begun record _ u htyped rfl hreturn
    rw [hgiven] at hprefix
    refine ⟨first, hprefix, ?_, ?_⟩
    · rw [map_data_msRecordHandler]
      exact hcovers
    · rintro (hflushes | hrejected)
      · rw [hflush] at hflushes
        cases hflushes
      · rw [hokay] at hrejected
        cases hrejected
  · have hcovers := hpacker.flushed record _ u htyped rfl hreturn
    rw [hgiven] at hcovers
    refine ⟨packet.getData u, List.prefix_refl _, ?_, fun _ => rfl⟩
    rw [map_data_msRecordHandler]
    exact hcovers

/-! ### The pass that is returned -/

theorem isOkay_iff {result : PackResult} :
    isOkay lib result = true ↔ 1 ≤ result.returnValue ∧
      result.returnValue = castToInt result.records.length ∧ ∀ bytes ∈ result.records, bytes.length ≤ 512 := by
  simp only [isOkay, Bool.and_eq_true, Bool.not_eq_true', decide_eq_false_iff_not, not_lt, beq_iff_eq,
    List.length_map, List.all_map, List.all_eq_true, Function.comp_apply, msRecordHandler_data,
    decide_eq_true_iff, and_assoc]

/-- A first pass that is to be returned passes the checks. -/
theorem FirstPassStands.isOkay (h : FirstPassStands lib options record) (hint : lib.ReturnsInt) :
    isOkay lib (packingPass lib options record false) = true := by
  have hlt := hint record { flushData := false, packVer2 := !options.useMiniSEED3 }
  have hmatching := h.matching
  have hcreated := h.created
  rw [packingPass] at hmatching hcreated
  rw [isOkay_iff, packingPass, castToInt_of_lt (by omega)]
  exact ⟨by omega, hmatching, h.small⟩

/-- A first pass that passes the checks is to be returned, if its records can be counted in an `int`. -/
theorem firstPassStands_of_isOkay (hflush : options.flushPackets = false)
    (hokay : isOkay lib (packingPass lib options record false) = true)
    (hfew : (packingPass lib options record false).records.length < 2 ^ 31) :
    FirstPassStands lib options record := by
  obtain ⟨hpositive, hcount, hsmall⟩ := isOkay_iff.mp hokay
  rw [castToInt_of_lt hfew] at hcount
  exact ⟨hflush, by omega, hcount, hsmall⟩

theorem map_msRecordHandler_injective {records records' : List Bytes}
    (h : records.map (msRecordHandler lib) = records'.map (msRecordHandler lib)) : records = records' := by
  rw [← map_data_msRecordHandler lib records, h, map_data_msRecordHandler]

/-- One pass is returned unless the check of the first takes a number for another that an `int` cannot tell
from it. -/
theorem returnsOnePass_iff (hint : lib.ReturnsInt) (hrecord : msRecord lib packet options = .ok record) :
    ReturnsOnePass lib packet options ↔
      (options.flushPackets = false → isOkay lib (packingPass lib options record false) = true →
        (packingPass lib options record false).records.length < 2 ^ 31 ∨
          (packingPass lib options record false).records = (packingPass lib options record true).records) := by
  have hresult := toDataLinkPackets_of_msRecord hrecord
  by_cases haccepted : options.flushPackets = false ∧
      isOkay lib (packingPass lib options record false) = true
  · obtain ⟨hflush, hokay⟩ := haccepted
    rw [hflush, hokay, Bool.not_false, Bool.and_true, if_pos rfl] at hresult
    rw [forall_prop_of_true hflush, forall_prop_of_true hokay]
    constructor
    · rintro (⟨e, herror⟩ | ⟨record', hrecord', ⟨hstands, _⟩ | ⟨_, hsecond⟩⟩)
      · rw [hresult] at herror
        cases herror
      · obtain rfl := Except.ok.inj (hrecord.symm.trans hrecord')
        have hlt := hint record { flushData := false, packVer2 := !options.useMiniSEED3 }
        have hmatching := hstands.matching
        rw [packingPass] at hmatching ⊢
        exact .inl (by omega)
      · obtain rfl := Except.ok.inj (hrecord.symm.trans hrecord')
        rw [hresult] at hsecond
        exact .inr (map_msRecordHandler_injective (Except.ok.inj hsecond))
    · intro hcondition
      refine .inr ⟨record, hrecord, ?_⟩
      by_cases hstands : FirstPassStands lib options record
      · exact .inl ⟨hstands, hresult⟩
      · rcases hcondition with hfew | hsame
        · exact absurd (firstPassStands_of_isOkay hflush hokay hfew) hstands
        · exact .inr ⟨hstands, by rw [hresult, hsame]⟩
  · refine iff_of_true ?_ fun hflush hokay => absurd ⟨hflush, hokay⟩ haccepted
    have hnot : ¬ FirstPassStands lib options record := fun hstands =>
      haccepted ⟨hstands.notFlushing, hstands.isOkay hint⟩
    have htest : ¬ (!options.flushPackets && isOkay lib (packingPass lib options record false)) = true := by
      simpa using haccepted
    rw [if_neg htest] at hresult
    split at hresult
    · exact .inl ⟨_, hresult⟩
    · exact .inr ⟨record, hrecord, .inr ⟨hnot, hresult⟩⟩

end

/-- **The two packing passes never mix** exactly when the first is not accepted for a number of records that
its return value matches only as an `int`, or makes the same records as the second. -/
theorem passes_never_mix_iff (lib : Libmseed) (hint : lib.ReturnsInt) (packet : Packet)
    (options : PackingOptions) :
    (ReturnsOnePass lib packet options ∧ (lib.PacksInOrder → ReturnsSamplesOnce lib packet options)) ↔
      ∀ record, msRecord lib packet options = .ok record → options.flushPackets = false →
        isOkay lib (packingPass lib options record false) = true →
          (packingPass lib options record false).records.length < 2 ^ 31 ∨
            (packingPass lib options record false).records =
              (packingPass lib options record true).records := by
  rw [and_iff_left returnsSamplesOnce]
  cases hrecord : msRecord lib packet options with
  | error e =>
    refine iff_of_true (.inl ⟨e, ?_⟩) fun record h => by cases h
    simp only [toDataLinkPackets, hrecord, bind, Except.bind]
  | ok record =>
    rw [returnsOnePass_iff hint hrecord]
    refine ⟨fun h record' h' => ?_, fun h => h record rfl⟩
    obtain rfl := Except.ok.inj h'
    exact h

/-! ### A pass that is rejected -/

namespace Libmseed

variable {known : KnownRecord} {names : List (Nslc × Str)} {u : SampleType} {values : List u.Value}

theorem knowing_returnsInt : (knowing known names).ReturnsInt := by
  intro packed flags
  unfold knowing
  dsimp only
  split <;> norm_num

/-- A library that knows one record packs all of its samples or fails. -/
theorem knowing_covers (h : known.WellFormed u values) {packed : MS3Record} {flags : PackFlags}
    {v : SampleType} (htyped : packed.Typed v)
    (hreturn : 0 ≤ ((knowing known names).msr3Pack packed flags).returnValue) :
    (knowing known names).Covers v ((knowing known names).msr3Pack packed flags).records
      (packed.samplesGiven v) := by
  by_cases hmade : flags.packVer2 = false ∧ known.describedBy packed = true
  · obtain ⟨hne, hcode, hsamples, hnum⟩ := h.samples
    obtain ⟨_, _, hnum', htype, hdata'⟩ := describedBy_eq hmade.2
    have hpositive : 0 < values.length := List.length_pos_iff.mpr hne
    obtain ⟨_, data, hdata⟩ := htyped.resolve_left (by omega)
    obtain ⟨rfl, heq⟩ := Samples.of.inj (hdata.symm.trans (hdata'.trans hsamples))
    obtain rfl := eq_of_heq heq
    have hrecords : ((knowing known names).msr3Pack packed flags).records = [known.bytes] := by
      simp only [knowing, hmade, and_self, if_true]
    have hgiven : packed.samplesGiven v = data := by
      rw [MS3Record.samplesGiven, hdata, Samples.as_of, Option.getD_some, hnum', hnum, Int.toNat_natCast,
        List.take_length]
    rw [hrecords, hgiven]
    refine ⟨[data], .cons ⟨known.record, ?_, hnum, fun _ => ⟨hcode, hsamples⟩⟩ .nil,
      List.flatten_singleton⟩
    simpa using @knowing_parse known names []
  · simp only [knowing, hmade, if_false] at hreturn
    exact absurd hreturn (by decide)

end Libmseed

/-- A packer whose pass that does not flush hands out a record and fails. -/
def failingUnflushed : Libmseed :=
  { Libmseed.knowing knownRecord knownNames with
    msr3Pack packed flags :=
      if flags.flushData then (Libmseed.knowing knownRecord knownNames).msr3Pack packed flags
      else ⟨[knownRecord.bytes], -1, 0⟩ }

theorem failingUnflushed_returnsInt : failingUnflushed.ReturnsInt := by
  intro packed flags
  unfold failingUnflushed
  dsimp only
  split
  · exact Libmseed.knowing_returnsInt packed flags
  · norm_num

theorem failingUnflushed_packsInOrder : failingUnflushed.PacksInOrder where
  flushed packed flags u htyped hflush hreturn := by
    have hpack : failingUnflushed.msr3Pack packed flags =
        (Libmseed.knowing knownRecord knownNames).msr3Pack packed flags := if_pos hflush
    rw [hpack] at hreturn ⊢
    exact Libmseed.knowing_covers knownRecord_wellFormed htyped hreturn
  begun packed flags u htyped hflush hreturn := by
    have hpack : failingUnflushed.msr3Pack packed flags = ⟨[knownRecord.bytes], -1, 0⟩ :=
      if_neg (by rw [hflush]; exact Bool.false_ne_true)
    rw [hpack] at hreturn
    exact absurd hreturn (by decide)

/-- The record that the first pass leaves behind is not returned with that of the second. -/
theorem passes_never_mix_iff_known :
    ∃ record packets, msRecord failingUnflushed (knownPacket .integer32 [5]) { flushPackets := false } = .ok record ∧
      (packingPass failingUnflushed { flushPackets := false } record false).records.length = 1 ∧
      toDataLinkPackets failingUnflushed (knownPacket .integer32 [5]) { flushPackets := false } = .ok packets ∧
      packets.length = 1 ∧
      ReturnsOnePass failingUnflushed (knownPacket .integer32 [5]) { flushPackets := false } ∧
      ReturnsSamplesOnce failingUnflushed (knownPacket .integer32 [5]) { flushPackets := false } := by
  have hmade : (toDataLinkPackets failingUnflushed (knownPacket .integer32 [5]) { flushPackets := false }).map
      List.length = .ok 1 := by decide +kernel
  obtain ⟨packets, hpackets, hlength⟩ := Fallible.map_eq_ok_iff.mp hmade
  obtain ⟨record, hrecord, _⟩ := toDataLinkPackets_eq_ok hpackets
  obtain ⟨hone, honce⟩ := (passes_never_mix_iff failingUnflushed failingUnflushed_returnsInt
    (knownPacket .integer32 [5]) { flushPackets := false }).mpr fun record _ _ _ => .inl (by
      show [knownRecord.bytes].length < 2 ^ 31
      norm_num)
  exact ⟨record, packets, hrecord, rfl, hpackets, hlength, hone, honce failingUnflushed_packsInOrder⟩

/-- A packer that makes 2^32 + 1 records in the pass that does not flush and returns 1. -/
def miscounting : Libmseed :=
  { Libmseed.knowing knownRecord knownNames with
    msr3Pack _ flags :=
      if flags.flushData then ⟨[knownRecord.bytes], 1, 1⟩
      else ⟨List.replicate (2 ^ 32 + 1) knownRecord.bytes, 1, 1⟩ }

/-- The records that the return value does not match are returned, and not those of the flushing pass. -/
theorem passes_mixed :
    ¬ ∀ (lib : Libmseed), lib.ReturnsInt → ∀ (packet : Packet) (options : PackingOptions),
      ReturnsOnePass lib packet options := by
  intro hclaim
  have hint : miscounting.ReturnsInt := by
    intro packed flags
    unfold miscounting
    dsimp only
    split <;> norm_num
  obtain ⟨record, hrecord, _⟩ := @msRecord_of_packSid miscounting (knownPacket .integer32 [5]) _
    { flushPackets := false } rfl rfl rfl
  have hfirst : (packingPass miscounting { flushPackets := false } record false).records =
      List.replicate (2 ^ 32 + 1) knownRecord.bytes := rfl
  have hsecond : (packingPass miscounting { flushPackets := false } record true).records =
      [knownRecord.bytes] := rfl
  have hcreated : castToInt ((2 ^ 32 + 1 : Nat) : Int) = 1 := by decide
  have hokay : isOkay miscounting (packingPass miscounting { flushPackets := false } record false) = true := by
    rw [isOkay_iff, hfirst, List.length_replicate, hcreated]
    refine ⟨le_refl _, rfl, fun bytes hbytes => ?_⟩
    rw [List.eq_of_mem_replicate hbytes]
    decide
  rcases (returnsOnePass_iff hint hrecord).mp (hclaim _ hint _ _) rfl hokay with hfew | hsame
  · rw [hfirst, List.length_replicate] at hfew
    omega
  · have hlengths := congrArg List.length hsame
    rw [hfirst, hsecond, List.length_replicate, List.length_singleton] at hlengths
    omega

end USEEDLinkToRingServer
