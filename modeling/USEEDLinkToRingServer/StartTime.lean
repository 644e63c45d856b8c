import USEEDLinkToRingServer.RecordWalk
import USEEDLinkToRingServer.DataLinkPacket

/-!
# Start times through the relay

The reader rounds the integer start time of a record with `std::round`, which goes through a double.
-/

namespace USEEDLinkToRingServer

open Rounding

/-- The packet of a record has the record's start time, and so has whatever is packed of it. -/
def KeepsStartTime (lib : Libmseed) (record : MS3Record) (packet : Packet) : Prop :=
  packet.getStartTime = record.starttime ∧
    ∀ options packed, msRecord lib packet options = .ok packed →
      packed.starttime = record.starttime

theorem unpackRecord_startTime {lib : Libmseed} {record : MS3Record} {packet : Packet}
    (h : unpackRecord lib record = .ok packet) :
    packet.getStartTime = castToInt64 (roundInt64 record.starttime) := by
  obtain ⟨nslc, _, _, _, hsamples⟩ := unpackRecord_eq_ok.mp h
  obtain ⟨_, _, _, htime⟩ := unpackSamples_frame hsamples
  exact htime.trans (describe_frame record nslc).2.2.2

theorem keepsStartTime_iff {lib : Libmseed} {record : MS3Record} {packet : Packet}
    (h : unpackRecord lib record = .ok packet) :
    KeepsStartTime lib record packet ↔ Representable 53 record.starttime.toInt.natAbs := by
  rw [← castToInt64_roundInt64_eq_iff, ← unpackRecord_startTime h]
  refine ⟨fun hkeeps => hkeeps.1, fun htime => ⟨htime, fun options packed hpacked => ?_⟩⟩
  obtain ⟨_, _, _, hstart, _⟩ := msRecord_eq_ok hpacked
  exact hstart.trans htime

/-- **Start times.** The start time of a record survives the relay exactly when it has at most 53
significant bits. -/
theorem startTime_kept_iff (lib : Libmseed) (buffer : Bytes) (bufferSize : Int32)
    (packets : List Packet) (walk : Walk)
    (h : miniSEEDToDataPackets lib buffer bufferSize = some (.ok packets, walk)) :
    List.Forall₂
      (fun record packet => KeepsStartTime lib record packet ↔
        ∃ m k, record.starttime.toInt.natAbs = m * 2 ^ k ∧ m < 2 ^ 53)
      walk.handedOut packets :=
  (miniSEEDToDataPackets_unpacked h).imp fun _ _ hunpack => keepsStartTime_iff hunpack

/-- The walk over the known record. -/
theorem knownRecord_walk :
    ∃ packet walk,
      miniSEEDToDataPackets (.knowing knownRecord knownNames) knownRecord.bytes 64 =
        some (.ok [packet], walk) ∧ walk.handedOut = [knownRecord.record] :=
  ⟨_, _, rfl, rfl⟩

theorem startTime_kept_iff_known :
    ∃ packet walk,
      miniSEEDToDataPackets (.knowing knownRecord knownNames) knownRecord.bytes 64 =
        some (.ok [packet], walk) ∧
      (KeepsStartTime (.knowing knownRecord knownNames) knownRecord.record packet ↔
        ∃ m k, (1759952887000000001 : Int64).toInt.natAbs = m * 2 ^ k ∧ m < 2 ^ 53) := by
  obtain ⟨packet, walk, hwalk, hrecords⟩ := knownRecord_walk
  have hall := startTime_kept_iff _ _ _ _ _ hwalk
  rw [hrecords] at hall
  obtain ⟨hiff, _⟩ := List.forall₂_cons.mp hall
  exact ⟨packet, walk, hwalk, hiff⟩

/-- One nanosecond after a full second the time is lost. -/
theorem startTime_not_kept :
    ¬ ∀ (lib : Libmseed) (buffer : Bytes) (bufferSize : Int32) (packets : List Packet) (walk : Walk),
      miniSEEDToDataPackets lib buffer bufferSize = some (.ok packets, walk) →
        List.Forall₂ (KeepsStartTime lib) walk.handedOut packets := by
  intro hclaim
  obtain ⟨packet, walk, hwalk, hrecords⟩ := knownRecord_walk
  have hall := hclaim _ _ _ _ _ hwalk
  have hunpacked := miniSEEDToDataPackets_unpacked hwalk
  rw [hrecords] at hall hunpacked
  have hkept := (keepsStartTime_iff (List.forall₂_cons.mp hunpacked).1).mp
    (List.forall₂_cons.mp hall).1
  rw [← roundNearestEven_eq_self_iff] at hkept
  exact absurd hkept (by decide)

end USEEDLinkToRingServer
