import USEEDLinkToRingServer.RecordWalk
import USEEDLinkToRingServer.DataLinkPacket

/-!
# What the writer emits, the reader accepts

The records of a flushing pass hold the samples of the packet in order. The reader takes each record
apart again, unless it holds text or comes back with a period in place of a rate, and a packet with more
samples than an `int` can count is not packed whole.
-/

namespace USEEDLinkToRingServer

/-- The reader makes these packets of a record. -/
def Reads (lib : Libmseed) (bytes : Bytes) (packets : List Packet) : Prop :=
  ∃ walk, miniSEEDToDataPackets lib bytes (Int32.ofNat bytes.length) = some (.ok packets, walk)

/-- The samples behind the data pointer. -/
def Packet.samples (packet : Packet) (u : SampleType) : List u.Value :=
  (packet.getDataPointer.as u).getD []

section

variable {lib : Libmseed} {bytes : Bytes} {record : MS3Record} {packets : List Packet}

/-! ### Reading one record -/

end

/-! ### Reading a record of a flushing pass -/

section

variable {lib : Libmseed} {packed : MS3Record} {flags : PackFlags} {u : SampleType} {bytes : Bytes}
  {values : List u.Value} {packets : List Packet}

end

/-! ### The records of a packet -/

end USEEDLinkToRingServer
