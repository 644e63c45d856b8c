import USEEDLinkToRingServer.MiniSEED
import USEEDLinkToRingServer.Known

/-!
# The walk over the records of a buffer

Every turn of the reader's loop advances by the length libmseed reports, so the loop ends and stays in
the buffer, and what it returns is decided by the records it visits.
-/

namespace USEEDLinkToRingServer

open Machine

/-! ### Offsets -/

theorem u64Sub_of_le {a b : Nat} (ha : a < 2 ^ 64) (hle : b ≤ a) : u64Sub a b = a - b := by
  unfold u64Sub
  omega

theorem u64Add_of_lt {a : Nat} {b : Int} (hb : 0 ≤ b) (hlt : a + b < 2 ^ 64) :
    u64Add a b = a + b.toNat := by
  unfold u64Add
  omega

theorem bufferLength_eq {bufferSize : Int32} (h : 0 ≤ bufferSize.toInt) :
    bufferLength bufferSize = bufferSize.toInt.toNat ∧ bufferLength bufferSize < 2 ^ 31 := by
  have hlt := Int32.toInt_lt bufferSize
  unfold bufferLength
  omega

section

variable {lib : Libmseed} {buffer : Bytes} {bufferSize : Int32}

theorem offered_length_le (walk : Walk) :
    (offered buffer bufferSize walk).length ≤ u64Sub (bufferLength bufferSize) walk.offset := by
  rw [offered, List.length_take]
  exact Nat.min_le_left _ _

/-! ### One turn -/

/-- Everything a turn that goes on does. -/
theorem turn_again {walk walk' : Walk} (h : turn lib buffer bufferSize walk = .again walk') :
    lib.MINRECLEN < u64Sub (bufferLength bufferSize) walk.offset ∧
      ∃ record packet,
        lib.msr3Parse (offered buffer bufferSize walk) true = ⟨MS_NOERROR, some record⟩ ∧
        unpackRecord lib record = .ok packet ∧
        walk' =
          { offset := u64Add walk.offset record.reclen
            dataPackets := walk.dataPackets ++ [packet]
            handedOut := walk.handedOut ++ [record]
            freed := walk.freed ++ [walk.handedOut.length] } := by
  unfold turn at h
  split at h
  · next htest =>
    refine ⟨htest, ?_⟩
    split at h
    · split at h <;> cases h
    · next returnCode record hparse =>
      dsimp only at h
      split at h
      · next hok =>
        split at h
        · cases h
        · next packet hunpack =>
          obtain rfl := Turn.again.inj h
          refine ⟨record, packet, by rw [hparse, hok], hunpack, ?_⟩
          simp [Walk.free]
      · cases h
  · cases h

/-- A turn over a record that is accepted. -/
theorem turn_of_accepted {walk : Walk} {record : MS3Record} {packet : Packet}
    (htest : lib.MINRECLEN < u64Sub (bufferLength bufferSize) walk.offset)
    (hparse : lib.msr3Parse (offered buffer bufferSize walk) true = ⟨MS_NOERROR, some record⟩)
    (hunpack : unpackRecord lib record = .ok packet) :
    turn lib buffer bufferSize walk =
      .again
        { offset := u64Add walk.offset record.reclen
          dataPackets := walk.dataPackets ++ [packet]
          handedOut := walk.handedOut ++ [record]
          freed := walk.freed ++ [walk.handedOut.length] } := by
  rw [turn, if_pos htest, hparse]
  simp only [hunpack, if_true, Walk.free, List.length_append, List.length_singleton,
    Nat.add_sub_cancel]

theorem turn_of_done {walk : Walk}
    (htest : ¬ lib.MINRECLEN < u64Sub (bufferLength bufferSize) walk.offset) :
    turn lib buffer bufferSize walk = .leave (.ok walk.dataPackets) walk := by
  rw [turn, if_neg htest]

theorem turn_leave_ok {walk walk' : Walk} {packets : List Packet}
    (h : turn lib buffer bufferSize walk = .leave (.ok packets) walk') :
    packets = walk.dataPackets ∧ walk' = walk := by
  unfold turn at h
  split at h
  · split at h
    · split at h <;> cases h
    · dsimp only at h
      split at h
      · split at h <;> cases h
      · cases h
  · obtain ⟨hpackets, hwalk⟩ := Turn.leave.inj h
    exact ⟨(Except.ok.inj hpackets).symm, hwalk.symm⟩

theorem nextTurn_eq_some {walk walk' : Walk} {a : Unit} :
    nextTurn lib buffer bufferSize walk a = some walk' ↔
      turn lib buffer bufferSize walk = .again walk' := by
  unfold nextTurn
  cases turn lib buffer bufferSize walk <;> simp

/-! ### The whole loop -/

/-- The loop leaves from a state that its turns reach. -/
theorem walkRecords_reaches {fuel : Nat} {walk walk' : Walk} {result : Except Exception (List Packet)}
    (h : walkRecords lib buffer bufferSize fuel walk = some (result, walk')) :
    ∃ last, Reaches (nextTurn lib buffer bufferSize) walk last ∧
      turn lib buffer bufferSize last = .leave result walk' := by
  induction fuel generalizing walk with
  | zero => cases h
  | succ fuel ih =>
    rw [walkRecords] at h
    split at h
    · next mid hturn =>
      obtain ⟨last, ⟨as, has⟩, hlast⟩ := ih h
      exact ⟨last, ⟨() :: as, exec_cons_eq_some.mpr ⟨mid, nextTurn_eq_some.mpr hturn, has⟩⟩, hlast⟩
    · next result₀ walk₀ hturn =>
      obtain ⟨rfl, rfl⟩ := Prod.mk.inj (Option.some.inj h)
      exact ⟨walk, .refl _, hturn⟩

/-- A turn that leaves decides the result of the loop. -/
theorem walkRecords_eq_of_leave {fuel : Nat} {walk last walk' : Walk}
    {result : Except Exception (List Packet)}
    (hreach : Reaches (nextTurn lib buffer bufferSize) walk last)
    (hlast : turn lib buffer bufferSize last = .leave result walk')
    (hdone : walkRecords lib buffer bufferSize fuel walk ≠ none) :
    walkRecords lib buffer bufferSize fuel walk = some (result, walk') := by
  obtain ⟨as, has⟩ := hreach
  induction as generalizing fuel walk with
  | nil =>
    obtain rfl := Option.some.inj has
    cases fuel with
    | zero => exact absurd rfl hdone
    | succ fuel => rw [walkRecords, hlast]
  | cons a as ih =>
    obtain ⟨mid, hmid, hrest⟩ := exec_cons_eq_some.mp has
    have hturn := nextTurn_eq_some.mp hmid
    cases fuel with
    | zero => exact absurd rfl hdone
    | succ fuel =>
      simp only [walkRecords, hturn] at hdone ⊢
      exact ih hdone hrest

/-- The packets made so far are those of the records handed out so far. -/
def Unpacked (lib : Libmseed) (walk : Walk) : Prop :=
  List.Forall₂ (fun record packet => unpackRecord lib record = .ok packet) walk.handedOut
    walk.dataPackets

theorem forall₂_concat {α β : Type*} {R : α → β → Prop} {as : List α} {bs : List β} {a : α} {b : β}
    (h : List.Forall₂ R as bs) (hab : R a b) : List.Forall₂ R (as ++ [a]) (bs ++ [b]) :=
  List.rel_append h (.cons hab .nil)

theorem nextTurn_unpacked (walk : Walk) (a : Unit) (walk' : Walk) (h : Unpacked lib walk)
    (hnext : nextTurn lib buffer bufferSize walk a = some walk') : Unpacked lib walk' := by
  obtain ⟨_, record, packet, _, hunpack, rfl⟩ := turn_again (nextTurn_eq_some.mp hnext)
  exact forall₂_concat h hunpack

/-- A call that returns has made a packet of every record it was handed. -/
theorem miniSEEDToDataPackets_unpacked {packets : List Packet} {walk : Walk}
    (h : miniSEEDToDataPackets lib buffer bufferSize = some (.ok packets, walk)) :
    List.Forall₂ (fun record packet => unpackRecord lib record = .ok packet) walk.handedOut
      packets := by
  obtain ⟨last, ⟨as, has⟩, hlast⟩ := walkRecords_reaches h
  obtain ⟨rfl, rfl⟩ := turn_leave_ok hlast
  have hinit : Unpacked lib {} := .nil
  exact invariant nextTurn_unpacked hinit has

/-! ### Termination -/

/-- The offset stays in the buffer. -/
def InBuffer (bufferSize : Int32) (walk : Walk) : Prop := walk.offset ≤ bufferLength bufferSize

theorem nextTurn_inBuffer (hlib : lib.ReportsLength) (hsize : 0 ≤ bufferSize.toInt) (walk : Walk)
    (a : Unit) (walk' : Walk) (h : InBuffer bufferSize walk)
    (hnext : nextTurn lib buffer bufferSize walk a = some walk') :
    InBuffer bufferSize walk' ∧ walk.offset < walk'.offset := by
  obtain ⟨_, hlt⟩ := bufferLength_eq hsize
  obtain ⟨htest, record, packet, hparse, _, rfl⟩ := turn_again (nextTurn_eq_some.mp hnext)
  obtain ⟨hmin, hmax⟩ := hlib.bounds _ _ _ hparse
  have hpos := hlib.minRecLen_pos
  have hoffered : (offered buffer bufferSize walk).length ≤ _ := offered_length_le walk
  unfold InBuffer at h ⊢
  rw [u64Sub_of_le (by omega) h] at hoffered
  rw [u64Add_of_lt (by omega) (by omega)]
  dsimp only
  omega

theorem walkRecords_ne_none (hlib : lib.ReportsLength) (hsize : 0 ≤ bufferSize.toInt) {fuel : Nat}
    {walk : Walk} (h : InBuffer bufferSize walk)
    (hfuel : bufferLength bufferSize - walk.offset < fuel) :
    walkRecords lib buffer bufferSize fuel walk ≠ none := by
  induction fuel generalizing walk with
  | zero => omega
  | succ fuel ih =>
    rw [walkRecords]
    split
    · next walk' hturn =>
      obtain ⟨hin, hadvance⟩ := nextTurn_inBuffer hlib hsize walk () walk' h
        (nextTurn_eq_some.mpr hturn)
      unfold InBuffer at h hin
      exact ih hin (by omega)
    · exact Option.some_ne_none _

theorem miniSEEDToDataPackets_ne_none (hlib : lib.ReportsLength) (hsize : 0 ≤ bufferSize.toInt) :
    miniSEEDToDataPackets lib buffer bufferSize ≠ none :=
  walkRecords_ne_none hlib hsize (Nat.zero_le _) (Nat.lt_succ_of_le (Nat.sub_le _ _))

end

/-! ### Buffers of records -/

/-- The bytes are records that can be parsed one after another, then at most `MINRECLEN` bytes. -/
inductive Concatenation (lib : Libmseed) : Bytes → List MS3Record → Prop
  | tail (bytes : Bytes) : bytes.length ≤ lib.MINRECLEN → Concatenation lib bytes []
  | record (bytes rest : Bytes) (record : MS3Record) (records : List MS3Record) :
      lib.MINRECLEN < bytes.length →
      lib.msr3Parse (bytes ++ rest) true = ⟨MS_NOERROR, some record⟩ →
      record.reclen = bytes.length → Concatenation lib rest records →
      Concatenation lib (bytes ++ rest) (record :: records)

/-- A record the reader is made for: named, with a rate, and with no more samples than an `int` can
count, of a type other than text. -/
structure Admissible (lib : Libmseed) (record : MS3Record) : Prop where
  named : ∃ nslc, lib.msSid2nslc record.sid = some nslc ∧ nslc.NonBlank
  rate_pos : 0 < record.samprate
  samples : record.numsamples = 0 ∨ ∃ u values, u ≠ .text ∧ record.HasSamples u values ∧
    values.length < 2 ^ 31

/-- The packet says what the record says. -/
structure Carries (lib : Libmseed) (record : MS3Record) (packet : Packet) : Prop where
  identifier : ∃ nslc id, lib.msSid2nslc record.sid = some nslc ∧
    packet.getStreamIdentifierReference = .ok id ∧
    id.getNetwork = .ok (convertString nslc.network) ∧
    id.getStation = .ok (convertString nslc.station) ∧
    id.getChannel = .ok (convertString nslc.channel) ∧
    id.getLocationCode = .ok (if nslc.location = [] then ['-', '-']
      else if isEmpty nslc.location then [] else convertString nslc.location)
  samplingRate : packet.getSamplingRate = .ok record.samprate
  samples : (record.numsamples = 0 ∧ packet.getDataType = .unknown ∧ packet.getNumberOfSamples = 0) ∨
    ∃ u values, record.HasSamples u values ∧ packet.getDataType = u.dataType ∧
      packet.getNumberOfSamples = values.length ∧ packet.getDataPointer = .of u values

section

variable {lib : Libmseed} {record : MS3Record} {packet : Packet} {u : SampleType}
  {values : List u.Value}

/-- The reader copies the samples of every type but text. -/
theorem unpackSamples_of_values (hu : u ≠ .text) (hvalues : record.HasSamples u values)
    (hlength : values.length < 2 ^ 31) :
    unpackSamples record packet = .ok (packet.setData u values) := by
  obtain ⟨hne, hcode, hdata, hnum⟩ := hvalues
  have hpos : 0 < values.length := List.length_pos_iff.mpr hne
  have hcast : castToInt record.numsamples = values.length := by rw [hnum, castToInt_of_lt hlength]
  have harray : packet.setDataArray u values.length (some values) = .ok (packet.setData u values) := by
    rw [Packet.setDataArray_eq_ok]
    exact ⟨by omega, values, rfl, by rw [Int.toNat_natCast, List.take_length]⟩
  simp only [unpackSamples, hcast, hdata, hcode]
  rw [if_pos (by omega)]
  cases u with
  | text => exact absurd rfl hu
  | integer32 | float | double =>
    simp only [SampleType.code, Samples.as_of, Char.reduceEq, if_true, if_false]
    exact unfreed_eq_ok.mpr harray

theorem unpackSamples_of_none (h : record.numsamples = 0) :
    unpackSamples record packet = .ok packet := by
  simp [unpackSamples, h, castToInt]

theorem setData_samples (hne : values ≠ []) (hlength : values.length < 2 ^ 31) :
    (packet.setData u values).getDataType = u.dataType ∧
      (packet.setData u values).getNumberOfSamples = values.length ∧
      (packet.setData u values).getDataPointer = .of u values := by
  obtain ⟨htype, hbuffer⟩ := packet.pImpl.setData_of_ne_nil u values hne
  have hbuffer' : (packet.setData u values).pImpl.buffer u = values := by
    change (packet.pImpl.setData u values).updateEndTime.buffer u = values
    rw [PacketImpl.updateEndTime_buffer, hbuffer]
  have htype' : (packet.setData u values).getDataType = u.dataType := htype
  have hnumber : (packet.setData u values).getNumberOfSamples = values.length := by
    rw [Packet.getNumberOfSamples, PacketImpl.size_of_dataType _ u htype', hbuffer',
      castToInt_of_lt hlength]
  have hpos : 0 < values.length := List.length_pos_iff.mpr hne
  refine ⟨htype', hnumber, ?_⟩
  rw [Packet.getDataPointer_of_dataType htype' (by omega), hbuffer']

/-- The attributes that do not depend on the samples. -/
theorem describe_frame (record : MS3Record) (nslc : Nslc) :
    (describe record nslc).pImpl.mIdentifier = canonical nslc ∧
      (describe record nslc).pImpl.mHasIdentifier = true ∧
      (describe record nslc).pImpl.mSamplingRate = record.samprate ∧
      (describe record nslc).pImpl.mStartTimeMicroSeconds =
        castToInt64 (roundInt64 record.starttime) :=
  ⟨rfl, rfl, rfl, rfl⟩

/-- Setting the samples keeps what was described, on every path. -/
theorem unpackSamples_frame {packet' : Packet} (h : unpackSamples record packet = .ok packet') :
    packet'.pImpl.mIdentifier = packet.pImpl.mIdentifier ∧
      packet'.pImpl.mHasIdentifier = packet.pImpl.mHasIdentifier ∧
      packet'.pImpl.mSamplingRate = packet.pImpl.mSamplingRate ∧
      packet'.pImpl.mStartTimeMicroSeconds = packet.pImpl.mStartTimeMicroSeconds := by
  have hset : ∀ {v : SampleType} {n : Int} {x : Option (List v.Value)},
      unfreed (packet.setDataArray v n x) = .ok packet' →
        packet'.pImpl.mIdentifier = packet.pImpl.mIdentifier ∧
          packet'.pImpl.mHasIdentifier = packet.pImpl.mHasIdentifier ∧
          packet'.pImpl.mSamplingRate = packet.pImpl.mSamplingRate ∧
          packet'.pImpl.mStartTimeMicroSeconds = packet.pImpl.mStartTimeMicroSeconds := by
    intro v n x hx
    obtain ⟨_, data, _, rfl⟩ := Packet.setDataArray_eq_ok.mp (unfreed_eq_ok.mp hx)
    exact packet.pImpl.setData_frame v _
  unfold unpackSamples at h
  dsimp only at h
  split at h
  · split at h
    · exact hset h
    · split at h
      · exact hset h
      · split at h
        · exact hset h
        · cases h
  · obtain rfl := Except.ok.inj h
    exact ⟨rfl, rfl, rfl, rfl⟩

theorem canonical_get {nslc : Nslc} (h : nslc.NonBlank) :
    (canonical nslc).getNetwork = .ok (convertString nslc.network) ∧
      (canonical nslc).getStation = .ok (convertString nslc.station) ∧
      (canonical nslc).getChannel = .ok (convertString nslc.channel) ∧
      (canonical nslc).getLocationCode = .ok (if nslc.location = [] then ['-', '-']
        else if isEmpty nslc.location then [] else convertString nslc.location) := by
  obtain ⟨hnetwork, hstation, hchannel, hlocation⟩ :=
    StreamIdentifier.get_of_has (canonical_complete h).has
  refine ⟨hnetwork, hstation, hchannel, hlocation.trans ?_⟩
  congr 1
  change (if isEmpty (if nslc.location.isEmpty then ['-', '-'] else nslc.location) then []
    else convertString (if nslc.location.isEmpty then ['-', '-'] else nslc.location)) = _
  by_cases hempty : nslc.location = []
  · rw [hempty]
    rfl
  · have hisEmpty : nslc.location.isEmpty = false := by simpa using hempty
    simp only [hempty, hisEmpty, Bool.false_eq_true, if_false]

/-- An admissible record is accepted, and its packet says what it says. -/
theorem Admissible.unpackRecord (h : Admissible lib record) :
    ∃ packet, unpackRecord lib record = .ok packet ∧ Carries lib record packet := by
  obtain ⟨⟨nslc, hdecode, hnonblank⟩, hrate, hsamples⟩ := h
  have hall : ∃ packet, unpackSamples record (describe record nslc) = .ok packet ∧
      ((record.numsamples = 0 ∧ packet.getDataType = .unknown ∧ packet.getNumberOfSamples = 0) ∨
        ∃ u values, record.HasSamples u values ∧ packet.getDataType = u.dataType ∧
          packet.getNumberOfSamples = values.length ∧ packet.getDataPointer = .of u values) := by
    rcases hsamples with hnone | ⟨u, values, hu, hvalues, hlength⟩
    · exact ⟨_, unpackSamples_of_none hnone, Or.inl ⟨hnone, rfl, rfl⟩⟩
    · exact ⟨_, unpackSamples_of_values hu hvalues hlength,
        Or.inr ⟨u, values, hvalues, setData_samples hvalues.1 hlength⟩⟩
  obtain ⟨packet, hunpack, hcarried⟩ := hall
  obtain ⟨hid, hhas, hsamprate, _⟩ := unpackSamples_frame hunpack
  refine ⟨packet, unpackRecord_eq_ok.mpr ⟨nslc, hdecode, hnonblank, hrate, hunpack⟩, ?_, ?_, hcarried⟩
  · refine ⟨nslc, canonical nslc, hdecode, ?_, canonical_get hnonblank⟩
    simp [Packet.getStreamIdentifierReference, Packet.hasStreamIdentifier, hhas, hid,
      describe_frame]
  · have hsamprate' : packet.pImpl.mSamplingRate = record.samprate := hsamprate
    simp [Packet.getSamplingRate, Packet.hasSamplingRate, hsamprate', hrate]

/-- The loop over the rest of a buffer of admissible records. -/
theorem walkRecords_of_concatenation {buffer : Bytes} {bufferSize : Int32} {rest : Bytes}
    {records : List MS3Record} (hrest : Concatenation lib rest records)
    (hadmissible : ∀ record ∈ records, Admissible lib record)
    {walk : Walk} {fuel : Nat} (hin : InBuffer bufferSize walk)
    (hoffered : offered buffer bufferSize walk = rest)
    (hlength : rest.length = bufferLength bufferSize - walk.offset) (hfuel : rest.length < fuel) :
    ∃ packets walk', List.Forall₂ (Carries lib) records packets ∧
      walkRecords lib buffer bufferSize fuel walk =
        some (.ok (walk.dataPackets ++ packets), walk') := by
  have hlt : bufferLength bufferSize < 2 ^ 64 := by
    unfold bufferLength
    omega
  induction hrest generalizing walk fuel with
  | tail bytes hshort =>
    obtain ⟨fuel, rfl⟩ := Nat.exists_eq_add_one_of_ne_zero (Nat.ne_zero_of_lt hfuel)
    have hdone : ¬ lib.MINRECLEN < u64Sub (bufferLength bufferSize) walk.offset := by
      rw [u64Sub_of_le hlt hin]
      omega
    refine ⟨[], walk, .nil, ?_⟩
    rw [walkRecords, turn_of_done hdone, List.append_nil]
  | record bytes rest record records hlong hparse hreclen _ ih =>
    obtain ⟨fuel, rfl⟩ := Nat.exists_eq_add_one_of_ne_zero (Nat.ne_zero_of_lt hfuel)
    obtain ⟨packet, hunpack, hcarries⟩ := (hadmissible record (by simp)).unpackRecord
    rw [List.length_append] at hlength hfuel
    have htest : lib.MINRECLEN < u64Sub (bufferLength bufferSize) walk.offset := by
      rw [u64Sub_of_le hlt hin]
      omega
    have hturn := turn_of_accepted htest (hoffered ▸ hparse) hunpack
    unfold InBuffer at hin
    have hadd : u64Add walk.offset record.reclen = walk.offset + bytes.length := by
      rw [hreclen, u64Add_of_lt (by omega) (by omega),
        Int.toNat_natCast]
    have hnext : u64Sub (bufferLength bufferSize) (walk.offset + bytes.length) = rest.length := by
      rw [u64Sub_of_le hlt (by omega)]
      omega
    -- what is offered next is what follows the record in what was offered now
    have hoffered' : (buffer.drop (walk.offset + bytes.length)).take rest.length = rest := by
      have hdrop := congrArg (List.drop bytes.length) hoffered
      rw [offered, u64Sub_of_le hlt hin, List.drop_take, List.drop_drop,
        List.drop_left' rfl] at hdrop
      rwa [show bufferLength bufferSize - walk.offset - bytes.length = rest.length by omega] at hdrop
    obtain ⟨packets, walk', hall, hresult⟩ := @ih (fun r hr => hadmissible r (by simp [hr]))
      { offset := u64Add walk.offset record.reclen
        dataPackets := walk.dataPackets ++ [packet]
        handedOut := walk.handedOut ++ [record]
        freed := walk.freed ++ [walk.handedOut.length] }
      fuel (by unfold InBuffer; dsimp only; omega)
      (by rw [offered, hadd, hnext, hoffered']) (by dsimp only; omega) (by omega)
    refine ⟨packet :: packets, walk', .cons hcarries hall, ?_⟩
    rw [walkRecords, hturn]
    dsimp only at hresult ⊢
    rw [hresult, List.append_assoc]
    rfl

/-- A buffer of admissible records gives their packets. -/
theorem miniSEEDToDataPackets_of_concatenation {buffer : Bytes} {bufferSize : Int32}
    {records : List MS3Record} (hsize : 0 ≤ bufferSize.toInt)
    (hbuffer : bufferSize.toInt ≤ buffer.length)
    (hconcat : Concatenation lib (buffer.take (bufferLength bufferSize)) records)
    (hadmissible : ∀ record ∈ records, Admissible lib record) :
    ∃ packets walk, miniSEEDToDataPackets lib buffer bufferSize = some (.ok packets, walk) ∧
      List.Forall₂ (Carries lib) records packets := by
  obtain ⟨heq, hlt⟩ := bufferLength_eq hsize
  have hlen : (buffer.take (bufferLength bufferSize)).length = bufferLength bufferSize := by
    rw [List.length_take, heq]
    omega
  have hoffered : offered buffer bufferSize {} = buffer.take (bufferLength bufferSize) := by
    rw [offered, u64Sub_of_le (by omega) (Nat.zero_le _)]
    rfl
  obtain ⟨packets, walk, hall, hresult⟩ := walkRecords_of_concatenation hconcat hadmissible
    (Nat.zero_le _) hoffered hlen (Nat.lt_succ_of_le hlen.le)
  exact ⟨packets, walk, hresult, hall⟩

end

/-- **The record walk is exact.** The loop ends and stays in the buffer; a buffer of admissible records
gives their packets, in order; and a rejected record is the end of the call. -/
theorem miniSEEDToDataPackets_exact (lib : Libmseed) (hlib : lib.ReportsLength) (buffer : Bytes)
    (bufferSize : Int32) (hsize : 0 ≤ bufferSize.toInt) :
    (∃ result, miniSEEDToDataPackets lib buffer bufferSize = some result) ∧
      (∀ walk, Reaches (nextTurn lib buffer bufferSize) {} walk →
        walk.offset ≤ bufferLength bufferSize ∧
          u64Sub (bufferLength bufferSize) walk.offset = bufferLength bufferSize - walk.offset) ∧
      (∀ records, bufferSize.toInt ≤ buffer.length →
        Concatenation lib (buffer.take (bufferLength bufferSize)) records →
        (∀ record ∈ records, Admissible lib record) →
          ∃ packets walk, miniSEEDToDataPackets lib buffer bufferSize = some (.ok packets, walk) ∧
            List.Forall₂ (Carries lib) records packets) ∧
      (∀ walk exception walk', Reaches (nextTurn lib buffer bufferSize) {} walk →
        turn lib buffer bufferSize walk = .leave (.error exception) walk' →
          miniSEEDToDataPackets lib buffer bufferSize = some (.error exception, walk')) := by
  have hdone : miniSEEDToDataPackets lib buffer bufferSize ≠ none :=
    miniSEEDToDataPackets_ne_none hlib hsize
  have hlt := (bufferLength_eq hsize).2
  refine ⟨Option.ne_none_iff_exists'.mp hdone, ?_,
    fun records hbuffer hconcat hadmissible =>
      miniSEEDToDataPackets_of_concatenation hsize hbuffer hconcat hadmissible, ?_⟩
  · rintro walk ⟨as, has⟩
    have hin : InBuffer bufferSize walk :=
      invariant (fun w a w' hw hnext => (nextTurn_inBuffer hlib hsize w a w' hw hnext).1)
        (Nat.zero_le _) has
    exact ⟨hin, u64Sub_of_le (by omega) hin⟩
  · intro walk exception walk' hreach hleave
    exact walkRecords_eq_of_leave hreach hleave hdone

/-! ### The known record -/

section

variable {known : KnownRecord} {names : List (Nslc × Str)}

theorem knowing_concatenation (h : 40 < known.bytes.length)
    (hreclen : known.record.reclen = known.bytes.length) {tail : Bytes} (htail : tail.length ≤ 40) (n : Nat) :
    Concatenation (.knowing known names) ((List.replicate n known.bytes).flatten ++ tail)
      (List.replicate n known.record) := by
  induction n with
  | zero => exact .tail tail htail
  | succ n ih =>
    rw [List.replicate_succ, List.flatten_cons, List.append_assoc]
    exact .record known.bytes _ known.record _ h (Libmseed.knowing_parse _) hreclen ih

end

theorem knownRecord_admissible :
    Admissible (.knowing knownRecord knownNames) knownRecord.record where
  named := ⟨⟨['U', 'U'], ['F', 'T', 'U'], ['0', '1'], ['H', 'H', 'N']⟩, rfl, rfl, rfl, rfl⟩
  rate_pos := by norm_num [knownRecord]
  samples := Or.inr ⟨.integer32, [5], by decide, knownRecord_wellFormed.samples, by decide⟩

/-- The known record twice, and bytes that are too few for a third one. -/
def twoRecords : Bytes := (List.replicate 2 knownRecord.bytes).flatten ++ [77, 83, 3]

/-- The walk over a buffer with the known record twice. -/
theorem miniSEEDToDataPackets_exact_known :
    ∃ packets walk,
      miniSEEDToDataPackets (.knowing knownRecord knownNames) twoRecords 131 = some (.ok packets, walk) ∧
      packets.length = 2 ∧
      List.Forall₂ (Carries (.knowing knownRecord knownNames)) (List.replicate 2 knownRecord.record) packets := by
  obtain ⟨_, _, hwalk, _⟩ := miniSEEDToDataPackets_exact (.knowing knownRecord knownNames)
    (Libmseed.knowing_reportsLength knownRecord_wellFormed) twoRecords 131 (by decide)
  have hconcat : Concatenation (.knowing knownRecord knownNames) (twoRecords.take (bufferLength 131))
      (List.replicate 2 knownRecord.record) := by
    rw [show bufferLength 131 = twoRecords.length by decide +kernel, List.take_length]
    exact knowing_concatenation (by decide) (by decide) (by decide) 2
  obtain ⟨packets, walk, hresult, hcarry⟩ := hwalk (List.replicate 2 knownRecord.record) (by decide +kernel) hconcat
    fun record hmem => by
      obtain rfl := List.eq_of_mem_replicate hmem
      exact knownRecord_admissible
  exact ⟨packets, walk, hresult, hcarry.length_eq.symm, hcarry⟩

end USEEDLinkToRingServer
