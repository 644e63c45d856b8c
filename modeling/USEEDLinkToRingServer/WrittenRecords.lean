import USEEDLinkToRingServer.Configuration
import USEEDLinkToRingServer.SavedState

/-!
# What is written

Each `dl_write` of a configured process can be traced back to a payload of the SEEDLink server: the record was packed
of a packet of that payload, is no longer than the file says, and carries the name of the packet's stream and the
times that the record itself has.
-/

namespace USEEDLinkToRingServer

open Fallible Machine

namespace Libmseed

/-- A packed record is no longer than the packer was told. -/
def KeepsRecordLength (lib : Libmseed) : Prop :=
  ∀ packed flags, 0 < packed.reclen →
    ∀ bytes ∈ (lib.msr3Pack packed flags).records, (bytes.length : Int) ≤ packed.reclen

/-- The packer fails if a record would be too long. -/
def refusingLong (lib : Libmseed) : Libmseed :=
  { lib with
    msr3Pack := fun packed flags =>
      if (lib.msr3Pack packed flags).records.all fun bytes => (bytes.length : Int) ≤ packed.reclen then
        lib.msr3Pack packed flags
      else ⟨[], -1, 0⟩ }

theorem keepsRecordLength_refusingLong (lib : Libmseed) : lib.refusingLong.KeepsRecordLength := by
  intro packed flags _ bytes hmem
  rw [refusingLong] at hmem
  dsimp only at hmem
  split at hmem
  · next hshort => exact of_decide_eq_true (List.all_eq_true.mp hshort bytes hmem)
  · cases hmem

end Libmseed

/-! ### A call -/

namespace DataLinkClient

/-- The call writes a record that was packed of the packet, under the name of its stream. The times are those of
the record in whole microseconds, towards the epoch. -/
structure WellFormedCall (lib : Libmseed) (options : DataLinkClientOptions) (packet : Packet) (call : WriteCall) :
    Prop where
  nonempty : call.dataLinkPacket.data ≠ []
  fits : (call.dataLinkPacket.data.length : Int) ≤ options.getMiniSEEDRecordSize.toInt ∧
    options.getMiniSEEDRecordSize.toInt ≤ 512
  packed : ∃ record flushData, msRecord lib packet options.forWriter.packing = .ok record ∧
    call.dataLinkPacket.data ∈ (packingPass lib options.forWriter.packing record flushData).records
  name : streamName packet = .ok call.streamIdentifier
  times : ∀ parsed, lib.msr3Parse call.dataLinkPacket.data false = ⟨MS_NOERROR, some parsed⟩ →
    call.dataLinkPacket.startTime.toInt = parsed.starttime.toInt.tdiv 1000 ∧
      call.dataLinkPacket.endTime.toInt = (lib.msr3Endtime parsed).toInt.tdiv 1000
  ordered : ∀ parsed, lib.msr3Parse call.dataLinkPacket.data false = ⟨MS_NOERROR, some parsed⟩ →
    parsed.starttime ≤ lib.msr3Endtime parsed → call.dataLinkPacket.startTime ≤ call.dataLinkPacket.endTime

variable {lib : Libmseed} {options : DataLinkClientOptions} {packet : Packet}

theorem reclen_of_msRecord {packing : PackingOptions} {record : MS3Record} (hpositive : 0 < packing.maxRecordLength)
    (h : msRecord lib packet packing = .ok record) : record.reclen = packing.maxRecordLength := by
  have hreclen : (if packing.maxRecordLength > 0 then packing.maxRecordLength else 4096) =
      packing.maxRecordLength :=
    if_pos hpositive
  rw [msRecord] at h
  split at h
  · cases h
  · obtain ⟨_, _, h⟩ := bind_eq_ok_iff.mp h
    obtain ⟨_, _, h⟩ := bind_eq_ok_iff.mp h
    obtain ⟨_, _, h⟩ := bind_eq_ok_iff.mp h
    dsimp only at h
    rw [hreclen] at h
    split at h
    · obtain ⟨_, _, h⟩ := bind_eq_ok_iff.mp h
      obtain rfl := pure_eq_ok_iff.mp h
      rfl
    · obtain rfl := pure_eq_ok_iff.mp h
      rfl

/-- The records of a packet that can be converted come of one pass of the packer. -/
theorem packed_of_toDataLinkPackets {packing : PackingOptions} {packets : List DataLinkPacket}
    (h : toDataLinkPackets lib packet packing = .ok packets) :
    ∃ record flushData, msRecord lib packet packing = .ok record ∧
      packets = (packingPass lib packing record flushData).records.map (msRecordHandler lib) := by
  obtain ⟨record, hrecord, ⟨_, _, hpackets⟩ | ⟨_, _, hpackets⟩⟩ := toDataLinkPackets_eq_ok h
  · exact ⟨record, false, hrecord, hpackets⟩
  · exact ⟨record, true, hrecord, hpackets⟩

theorem times_msRecordHandler {bytes : Bytes} {parsed : MS3Record}
    (h : lib.msr3Parse bytes false = ⟨MS_NOERROR, some parsed⟩) :
    (msRecordHandler lib bytes).startTime.toInt = parsed.starttime.toInt.tdiv 1000 ∧
      (msRecordHandler lib bytes).endTime.toInt = (lib.msr3Endtime parsed).toInt.tdiv 1000 := by
  have hhandled : msRecordHandler lib bytes =
      { data := bytes
        startTime := parsed.starttime / 1000
        endTime := lib.msr3Endtime parsed / 1000 } := by
    rw [msRecordHandler, h]
    rfl
  have hmicroseconds (time : Int64) : (time / 1000).toInt = time.toInt.tdiv 1000 :=
    Int64.toInt_div_of_ne_right time 1000 (by decide)
  rw [hhandled]
  exact ⟨hmicroseconds _, hmicroseconds _⟩

theorem wellFormedCall_of_mem (hvalid : options.Valid) (hlength : lib.KeepsRecordLength) {call : WriteCall}
    (h : call.written ∈ writes lib options.forWriter packet) : WellFormedCall lib options packet call := by
  unfold writes at h
  split at h
  · next packets streamIdentifier hpackets hname =>
    obtain ⟨record, hmem, hwritten⟩ := List.mem_map.mp h
    obtain ⟨hmem, hnonempty⟩ := List.mem_filter.mp hmem
    obtain ⟨hidentifier, hrecord⟩ := Prod.mk.inj hwritten
    obtain ⟨described, flushData, hdescribed, rfl⟩ := packed_of_toDataLinkPackets hpackets
    obtain ⟨bytes, hbytes, rfl⟩ := List.mem_map.mp hmem
    have hdata : call.dataLinkPacket.data = bytes := by rw [← hrecord, msRecordHandler_data]
    have hpositive : 0 < options.forWriter.packing.maxRecordLength :=
      Int.lt_of_lt_of_le Int.zero_lt_one hvalid.recordSize.1
    have hreclen := reclen_of_msRecord hpositive hdescribed
    have htimes (parsed : MS3Record)
        (hparse : lib.msr3Parse call.dataLinkPacket.data false = ⟨MS_NOERROR, some parsed⟩) :
        call.dataLinkPacket.startTime.toInt = parsed.starttime.toInt.tdiv 1000 ∧
          call.dataLinkPacket.endTime.toInt = (lib.msr3Endtime parsed).toInt.tdiv 1000 := by
      rw [hdata] at hparse
      rw [← hrecord]
      exact times_msRecordHandler hparse
    refine ⟨?_, ⟨?_, hvalid.recordSize.2⟩, ⟨described, flushData, hdescribed, hdata ▸ hbytes⟩, ?_, htimes, ?_⟩
    · rw [← hrecord]
      simpa using hnonempty
    · have hle := hlength described _ (by rw [hreclen]; exact hpositive) bytes hbytes
      rw [hreclen] at hle
      rw [hdata]
      exact hle
    · rw [hname, hidentifier]
    · intro parsed hparse hordered
      obtain ⟨hstart, hend⟩ := htimes parsed hparse
      rw [Int64.le_iff_toInt_le, hstart, hend]
      exact Int.tdiv_le_tdiv (by decide) (Int64.le_iff_toInt_le.mp hordered)
  · cases h

/-- Each call was made for a packet that was taken. -/
theorem exists_of_mem_calls {options : WriterOptions} {c : DataLinkClient} {pending : List (Str × DataLinkPacket)}
    (h : RelaysWith lib options c pending) {call : WriteCall} (hcall : call ∈ c.log.calls) :
    ∃ packet ∈ c.queue.obtained, call.written ∈ writes lib options packet := by
  have hmem : call.written ∈ c.log.calls.map (·.written) ++ pending :=
    List.mem_append_left _ (List.mem_map_of_mem hcall)
  rw [h.calls] at hmem
  exact List.mem_flatMap.mp hmem

end DataLinkClient

/-! ### A payload -/

namespace SEEDLinkClient

variable {lib : Libraries} {options : SEEDLinkOptions} {c c' : SEEDLinkClient}

theorem offers_of_next {event : Event} (h : c.Offers lib) (hstep : next lib options c event = some c') :
    c'.Offers lib := by
  cases event with
  | start =>
    obtain ⟨_, hnotStarted, rfl⟩ := start_eq_some.mp hstep
    exact h.of_remaining (by rw [hnotStarted]; rfl)
  | poll answer => exact h.poll hstep
  | stop =>
    obtain rfl := Option.some.inj hstep
    exact h
  | destroy =>
    rw [next, destroy] at hstep
    split at hstep
    · obtain rfl := Option.some.inj hstep
      rw [disconnect]
      split
      · cases options.mUseStateFile <;> exact h
      · exact h
    · cases hstep

/-- What was offered are packets of payloads that were collected. -/
theorem exists_of_mem_offered {before : Option Nat} (h : Reaches (next lib options) (initializeClient options before) c)
    {packet : Packet} (hoffered : packet ∈ c.offered) : ∃ payload ∈ c.collected, packet ∈ unpacked lib payload := by
  obtain ⟨events, hrun⟩ := h
  have hstart : (initializeClient options before).Offers lib := rfl
  have hoffers : c.Offers lib := invariant (fun _ _ _ hs hnext => offers_of_next hs hnext) hstart hrun
  have hmem : packet ∈ c.offered ++ c.poller.remaining := List.mem_append_left _ hoffered
  rw [hoffers] at hmem
  exact List.mem_flatMap.mp hmem

end SEEDLinkClient

/-! ### Whole runs -/

namespace IniFile

/-- In every run of a process that a file configures, with any number of writers: each `dl_write` has a payload that
the SEEDLink server sent and a packet of it such that the call is well-formed for the packet and for the section of
the writer. -/
theorem calls_wellFormed (ini : IniFile) (options : ProgramOptions) (hload : ini.parseIniFile = .ok options)
    (lib : Libraries) (hlength : lib.KeepsRecordLength) (savedState : Option Nat)
    (events : List (Process.Event options.dataLinkClientOptions.length))
    (p : Process options.dataLinkClientOptions.length)
    (hrun : exec (Process.next lib options.forProcess) (.construct options.forProcess savedState) events = some p)
    (client : Fin options.dataLinkClientOptions.length) :
    ∀ call ∈ (p.dataLink client).log.calls, ∃ payload ∈ p.seedLink.collected, ∃ packet ∈ unpacked lib payload,
      DataLinkClient.WellFormedCall lib (options.dataLinkClientOptions.get client) packet call := by
  have hvalid : (options.dataLinkClientOptions.get client).Valid := by
    rcases parseIniFile_eq_ok_iff.mp hload with ⟨_, rfl⟩ | ⟨hpresent, _⟩
    · exact client.elim0
    · obtain ⟨_, _, ⟨_, _, haccepted, _⟩, hconfigures⟩ := configures_of_parseIniFile hpresent hload
      exact (hconfigures.haveRoom haccepted).1 _ (List.get_mem _ client)
  intro call hcall
  have hflows : Process.Flows lib options.forProcess p client := Process.flows_of_exec hrun
  obtain ⟨pending, hrelays⟩ := hflows.relays
  obtain ⟨packet, hpacket, hwritten⟩ := DataLinkClient.exists_of_mem_calls hrelays hcall
  have hoffered : packet ∈ p.seedLink.offered := hflows.offered ▸ hflows.received.subset hpacket
  obtain ⟨payload, hpayload, hunpacked⟩ :=
    SEEDLinkClient.exists_of_mem_offered (Process.reaches_seedLink client hrun) hoffered
  exact ⟨payload, hpayload, packet, hunpacked, DataLinkClient.wellFormedCall_of_mem hvalid hlength hwritten⟩

/-- One writer, which writes miniSEED 3. -/
def writingVersion3 : IniFile :=
  { known with
    readIni := .ok
      { data := fun path =>
          [("DataLink.host".toList, "localhost".toList), ("DataLink.writeMiniSEED3".toList, "true".toList)].lookup
            path } }

def optionsOfVersion3 : ProgramOptions where
  dataLinkClientOptions :=
    [{ mHost := "localhost".toList, mName := "seedLinkToRingServer-DALIWriter".toList, mWriteMiniSEED3 := true }]

/-- Libraries that know the record and refuse longer ones. -/
def refusingLong : Libraries :=
  { Libraries.knowing knownRecordOnSecond knownNames with
    toLibmseed := (Libmseed.knowing knownRecordOnSecond knownNames).refusingLong }

/-- The known record is written once. -/
theorem calls_wellFormed_known :
    ∃ p, exec (Process.next refusingLong optionsOfVersion3.forProcess)
      (.construct optionsOfVersion3.forProcess none) Process.forwardOne = some p ∧
      (p.dataLink ⟨0, Nat.zero_lt_one⟩).log.calls.length = 1 ∧
      ∀ call ∈ (p.dataLink ⟨0, Nat.zero_lt_one⟩).log.calls, call.dataLinkPacket.data.length ≤ 512 := by
  have hparse : (writingVersion3.parseIniFile.map fun options => decide (options = optionsOfVersion3)) = .ok true := by
    decide +kernel
  obtain ⟨options, hload, heq⟩ := Fallible.map_eq_ok_iff.mp hparse
  obtain rfl := of_decide_eq_true heq
  have hrun : ∃ p, exec (Process.next refusingLong optionsOfVersion3.forProcess)
      (.construct optionsOfVersion3.forProcess none) Process.forwardOne = some p ∧
      (p.dataLink ⟨0, Nat.zero_lt_one⟩).log.calls.length = 1 := ⟨_, rfl, rfl⟩
  obtain ⟨p, hexec, hcalls⟩ := hrun
  refine ⟨p, hexec, hcalls, fun call hcall => ?_⟩
  obtain ⟨_, _, _, _, hformed⟩ := calls_wellFormed writingVersion3 optionsOfVersion3 hload _
    (Libmseed.keepsRecordLength_refusingLong _) none _ p hexec ⟨0, Nat.zero_lt_one⟩ call hcall
  have hfits := hformed.fits
  omega

end IniFile

end USEEDLinkToRingServer
