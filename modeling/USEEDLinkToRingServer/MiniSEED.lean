import USEEDLinkToRingServer.Packet
import USEEDLinkToRingServer.Library.Machine

/-!
# From miniSEED buffers to packets

The reader walks over the records in a buffer and makes a packet of each. libmseed decides how long a
record is, so the loop is modelled with fuel and its termination is a theorem about libmseed's
promise.
-/

namespace USEEDLinkToRingServer

/-! ### One record -/

/-- An exception that leaves the loop body, and whether the record was freed on that exit. -/
structure Rejection where
  exception : Exception
  freed : Bool
deriving DecidableEq, Repr

/-- An exception of a callee: nothing frees the record. -/
def unfreed {α : Type} (result : Except Exception α) : Except Rejection α :=
  result.mapError fun exception => { exception, freed := false }

/-- The identifier of a decoded record. An empty location code becomes two dashes. -/
def readIdentifier (nslc : Nslc) : Except Exception StreamIdentifier := do
  let identifier ← ({} : StreamIdentifier).setNetwork nslc.network
  let identifier ← identifier.setStation nslc.station
  let identifier ← identifier.setChannel nslc.channel
  return identifier.setLocationCode (if nslc.location.isEmpty then ['-', '-'] else nslc.location)

/-- The samples of a record. Their number is narrowed to an `int`. -/
def unpackSamples (record : MS3Record) (packet : Packet) : Except Rejection Packet :=
  let nSamples := castToInt record.numsamples
  if nSamples > 0 then
    if record.sampletype = 'i' then
      unfreed (packet.setDataArray .integer32 nSamples (record.datasamples.as .integer32))
    else if record.sampletype = 'f' then
      unfreed (packet.setDataArray .float nSamples (record.datasamples.as .float))
    else if record.sampletype = 'd' then
      unfreed (packet.setDataArray .double nSamples (record.datasamples.as .double))
    else .error { exception := .runtimeError "Unhandled sample type", freed := true }
  else .ok packet

/-- The packet of a record. -/
def unpackRecord (lib : Libmseed) (record : MS3Record) : Except Rejection Packet :=
  match lib.msSid2nslc record.sid with
  | none => .error { exception := .runtimeError "Failed to unpack SNCL", freed := true }
  | some nslc => do
    let identifier ← unfreed (readIdentifier nslc)
    let packet ← unfreed (({} : Packet).setStreamIdentifier identifier)
    let packet ← unfreed (packet.setSamplingRate record.samprate)
    unpackSamples record (packet.setStartTime (castToInt64 (roundInt64 record.starttime)))

/-! ### The loop -/

/-- The difference and the sum of two `uint64_t`. -/
def u64Sub (a b : Nat) : Nat := (((a : Int) - b) % 2 ^ 64).toNat
def u64Add (a : Nat) (b : Int) : Nat := ((a + b) % 2 ^ 64).toNat

/-- The variables of the loop, the records libmseed handed out so far and the positions in that list
of those that were freed. -/
structure Walk where
  offset : Nat := 0
  dataPackets : List Packet := []
  handedOut : List MS3Record := []
  freed : List Nat := []

/-- `msr3_free` of the record handed out last. -/
def Walk.free (walk : Walk) : Walk :=
  { walk with freed := walk.freed ++ [walk.handedOut.length - 1] }

/-- What one evaluation of the loop's test and body comes to. -/
inductive Turn
  | again (walk : Walk)
  | leave (result : Except Exception (List Packet)) (walk : Walk)

section

variable (lib : Libmseed) (buffer : Bytes) (bufferSize : Int32)

def bufferLength : Nat := (bufferSize.toInt % 2 ^ 64).toNat

/-- The bytes offered to the parser. -/
def offered (walk : Walk) : Bytes :=
  (buffer.drop walk.offset).take (u64Sub (bufferLength bufferSize) walk.offset)

def turn (walk : Walk) : Turn :=
  if u64Sub (bufferLength bufferSize) walk.offset > lib.MINRECLEN then
    match lib.msr3Parse (offered buffer bufferSize walk) true with
    | ⟨returnCode, none⟩ =>
      if returnCode = MS_NOERROR then
        .leave (.error (.runtimeError
          ("Insufficient data.  Number of additional bytes estimated is " ++ Int.repr returnCode))) walk
      else .leave (.error (.runtimeError "libmseed error detected")) walk
    | ⟨returnCode, some record⟩ =>
      let handed := { walk with handedOut := walk.handedOut ++ [record] }
      if returnCode = MS_NOERROR then
        match unpackRecord lib record with
        | .error rejection =>
          .leave (.error rejection.exception) (if rejection.freed then handed.free else handed)
        | .ok dataPacket =>
          .again
            { handed with
              offset := u64Add walk.offset record.reclen
              dataPackets := walk.dataPackets ++ [dataPacket] }.free
      else .leave (.error (.runtimeError "libmseed error detected")) handed.free
  else .leave (.ok walk.dataPackets) walk

/-- At most `fuel` turns of the loop, or nothing if it is not done by then. -/
def walkRecords : Nat → Walk → Option (Except Exception (List Packet) × Walk)
  | 0, _ => none
  | fuel + 1, walk =>
    match turn lib buffer bufferSize walk with
    | .again walk' => walkRecords fuel walk'
    | .leave result walk' => some (result, walk')

/-- A turn for each byte of the buffer, and one to leave, are enough for every parser that advances. -/
def miniSEEDToDataPackets : Option (Except Exception (List Packet) × Walk) :=
  walkRecords lib buffer bufferSize (bufferLength bufferSize + 1) {}

/-- The loop as a machine. -/
def nextTurn (walk : Walk) (_ : Unit) : Option Walk :=
  match turn lib buffer bufferSize walk with
  | .again walk' => some walk'
  | .leave _ _ => none

end

/-! ### The identifier of a record -/

/-- The canonical identifier of decoded codes. -/
def canonical (nslc : Nslc) : StreamIdentifier :=
  ({ mNetwork := convertString nslc.network
     mStation := convertString nslc.station
     mChannel := convertString nslc.channel } : StreamIdentifier).setLocationCode
    (if nslc.location.isEmpty then ['-', '-'] else nslc.location)

/-- The decoded codes that have a canonical identifier. -/
def Nslc.NonBlank (nslc : Nslc) : Prop :=
  isEmpty nslc.network = false ∧ isEmpty nslc.station = false ∧ isEmpty nslc.channel = false

theorem readIdentifier_eq_ok {nslc : Nslc} {identifier : StreamIdentifier} :
    readIdentifier nslc = .ok identifier ↔ nslc.NonBlank ∧ identifier = canonical nslc := by
  unfold readIdentifier StreamIdentifier.setNetwork StreamIdentifier.setStation
    StreamIdentifier.setChannel Nslc.NonBlank
  cases hnetwork : isEmpty nslc.network <;> cases hstation : isEmpty nslc.station <;>
    cases hchannel : isEmpty nslc.channel <;>
    simp [hnetwork, hstation, hchannel, bind, Except.bind, pure, Except.pure, -List.isEmpty_iff]
  exact eq_comm

theorem canonical_complete {nslc : Nslc} (h : nslc.NonBlank) : (canonical nslc).Complete := by
  obtain ⟨hnetwork, hstation, hchannel⟩ := h
  refine ⟨?_, ?_, ?_, rfl⟩ <;> simpa [canonical, StreamIdentifier.setLocationCode]

/-! ### The packet of a record -/

theorem unfreed_eq_ok {α : Type} {result : Except Exception α} {x : α} :
    unfreed result = .ok x ↔ result = .ok x := by
  cases result <;> simp [unfreed, Except.mapError]

/-- The packet of a record before its samples are set. -/
def describe (record : MS3Record) (nslc : Nslc) : Packet :=
  Packet.setStartTime
    { pImpl :=
        ({ mIdentifier := canonical nslc
           mHasIdentifier := true
           mSamplingRate := record.samprate } : PacketImpl).updateEndTime }
    (castToInt64 (roundInt64 record.starttime))

/-- A record that no callee refuses is down to its samples. -/
theorem unpackRecord_of_described {lib : Libmseed} {record : MS3Record} {nslc : Nslc}
    (hnslc : lib.msSid2nslc record.sid = some nslc) (hnonblank : nslc.NonBlank)
    (hpos : 0 < record.samprate) :
    unpackRecord lib record = unpackSamples record (describe record nslc) := by
  have hread := unfreed_eq_ok.mpr (readIdentifier_eq_ok.mpr ⟨hnonblank, rfl⟩)
  have hnamed := unfreed_eq_ok.mpr (Packet.setStreamIdentifier_eq_ok (p := {}).mpr
    ⟨(canonical_complete hnonblank).has, rfl⟩)
  have hrated := unfreed_eq_ok.mpr (Packet.setSamplingRate_eq_ok
    (p := ⟨{ mIdentifier := canonical nslc, mHasIdentifier := true }⟩).mpr ⟨hpos, rfl⟩)
  unfold unpackRecord
  simp only [hnslc, bind, Except.bind]
  rw [hread]
  dsimp only
  rw [hnamed]
  dsimp only
  rw [hrated]
  rfl

/-- A blank code or a rate that is not positive is refused by a callee. -/
theorem unpackRecord_of_refused {lib : Libmseed} {record : MS3Record} {nslc : Nslc}
    (hnslc : lib.msSid2nslc record.sid = some nslc) (h : ¬ (nslc.NonBlank ∧ 0 < record.samprate)) :
    ∃ exception, unpackRecord lib record = .error { exception, freed := false } := by
  unfold unpackRecord
  simp only [hnslc, bind, Except.bind]
  cases hread : readIdentifier nslc with
  | error exception => exact ⟨exception, rfl⟩
  | ok identifier =>
    obtain ⟨hnonblank, rfl⟩ := readIdentifier_eq_ok.mp hread
    have hrate : ¬ 0 < record.samprate := fun hpos => h ⟨hnonblank, hpos⟩
    have hnamed := unfreed_eq_ok.mpr (Packet.setStreamIdentifier_eq_ok (p := {}).mpr
      ⟨(canonical_complete hnonblank).has, rfl⟩)
    rw [show unfreed (.ok (canonical nslc)) = .ok (canonical nslc) from rfl]
    dsimp only
    rw [hnamed]
    dsimp only
    simp only [Packet.setSamplingRate, if_pos (not_lt.mp hrate)]
    exact ⟨_, rfl⟩

theorem unpackRecord_eq_ok {lib : Libmseed} {record : MS3Record} {packet : Packet} :
    unpackRecord lib record = .ok packet ↔
      ∃ nslc, lib.msSid2nslc record.sid = some nslc ∧ nslc.NonBlank ∧ 0 < record.samprate ∧
        unpackSamples record (describe record nslc) = .ok packet := by
  cases hnslc : lib.msSid2nslc record.sid with
  | none => simp [unpackRecord, hnslc]
  | some nslc =>
    simp only [Option.some.injEq, exists_eq_left']
    by_cases hdescribed : nslc.NonBlank ∧ 0 < record.samprate
    · obtain ⟨hnonblank, hpos⟩ := hdescribed
      rw [unpackRecord_of_described hnslc hnonblank hpos, and_iff_right hnonblank, and_iff_right hpos]
    · obtain ⟨exception, herror⟩ := unpackRecord_of_refused hnslc hdescribed
      rw [herror]
      exact iff_of_false nofun fun h => hdescribed ⟨h.1, h.2.1⟩

end USEEDLinkToRingServer
