import USEEDLinkToRingServer.Libmseed
import USEEDLinkToRingServer.StreamIdentifier

/-!
# Packets

A packet has one sample buffer for each element type and a tag that names the one in use. The end time
is cached and recomputed by every setter it depends on.
-/

namespace USEEDLinkToRingServer

/-- `Packet::DataType`. -/
inductive DataType
  | integer32
  | text
  | float
  | double
  | unknown
deriving DecidableEq, Repr

def SampleType.dataType : SampleType → DataType
  | .integer32 => .integer32
  | .float => .float
  | .double => .double
  | .text => .text

/-! ### Conversions between the element types -/

/-- The value of a sample. A `char` is signed. -/
def SampleType.number : (u : SampleType) → u.Value → ℚ
  | .integer32, x => x.toInt
  | .float, x => x
  | .double, x => x
  | .text, x => (x.toNat : Int).bmod 256

/-- The conversion of a number loses its fraction if the type has none. What does not fit has no defined
result; x86-64 converts to the smallest `int`, and a `char` is the low byte of that. -/
def SampleType.ofNumber : (u : SampleType) → ℚ → u.Value
  | .integer32, x => truncate x
  | .float, x => x
  | .double, x => x
  | .text, x => Char.ofNat ((truncate x).toInt % 256).toNat
where
  truncate (x : ℚ) : Int32 :=
    let n := x.num.tdiv x.den
    if -2 ^ 31 ≤ n ∧ n < 2 ^ 31 then Int32.ofInt n else Int32.minValue

/-- The conversion of one sample in a copy. -/
def SampleType.convert (u v : SampleType) (x : u.Value) : v.Value :=
  if h : u = v then h ▸ x else v.ofNumber (u.number x)

theorem SampleType.convert_self (u : SampleType) : u.convert u = id := by
  funext value
  exact dif_pos rfl

/-! ### The packet -/

structure PacketImpl where
  mIdentifier : StreamIdentifier := {}
  mTextData : List Char := []
  mInteger32Data : List Int32 := []
  mFloatData : List ℚ := []
  mDoubleData : List ℚ := []
  mStartTimeMicroSeconds : Int64 := 0
  mEndTimeMicroSeconds : Int64 := 0
  mSamplingRate : ℚ := 0
  mDataType : DataType := .unknown
  mHasIdentifier : Bool := false

namespace PacketImpl

/-- The number of samples, narrowed to an `int`. -/
def size (p : PacketImpl) : Int :=
  match p.mDataType with
  | .unknown => 0
  | .integer32 => castToInt p.mInteger32Data.length
  | .float => castToInt p.mFloatData.length
  | .double => castToInt p.mDoubleData.length
  | .text => castToInt p.mTextData.length

def clearData (p : PacketImpl) : PacketImpl :=
  { p with
    mInteger32Data := []
    mFloatData := []
    mDoubleData := []
    mTextData := []
    mDataType := .unknown }

/-- The nanoseconds from the first sample to the last. -/
def traceDuration (nSamples : Int) (samplingRate : ℚ) : Int :=
  stdRound (((nSamples - 1 : Int) : ℚ) / samplingRate * 1000000000)

def updateEndTime (p : PacketImpl) : PacketImpl :=
  { p with
    mEndTimeMicroSeconds :=
      if p.size > 0 ∧ p.mSamplingRate > 0 then
        p.mStartTimeMicroSeconds + castToInt64 (traceDuration p.size p.mSamplingRate)
      else p.mStartTimeMicroSeconds }

/-- Moves the samples into the buffer of their type and names it. -/
def store (p : PacketImpl) : (u : SampleType) → List u.Value → PacketImpl
  | .integer32, data => { p with mInteger32Data := data, mDataType := .integer32 }
  | .float, data => { p with mFloatData := data, mDataType := .float }
  | .double, data => { p with mDoubleData := data, mDataType := .double }
  | .text, data => { p with mTextData := data, mDataType := .text }

/-- The four overloads of `setData` differ in the buffer they fill. No samples are no change. -/
def setData (p : PacketImpl) (u : SampleType) (data : List u.Value) : PacketImpl :=
  if data.isEmpty then p else (p.clearData.store u data).updateEndTime

/-- The buffer of an element type. -/
def buffer (p : PacketImpl) : (u : SampleType) → List u.Value
  | .integer32 => p.mInteger32Data
  | .float => p.mFloatData
  | .double => p.mDoubleData
  | .text => p.mTextData

end PacketImpl

structure Packet where
  pImpl : PacketImpl := {}

namespace Packet

/-- The identifier is cleared like the rest, but it is not a new one. -/
def clear (p : Packet) : Packet :=
  { pImpl :=
      { p.pImpl.clearData with
        mIdentifier := p.pImpl.mIdentifier.clear
        mHasIdentifier := false
        mStartTimeMicroSeconds := 0
        mEndTimeMicroSeconds := 0
        mSamplingRate := 0 } }

def setStreamIdentifier (p : Packet) (identifier : StreamIdentifier) : Except Exception Packet :=
  if !identifier.hasNetwork then .error (.invalidArgument "Network not set")
  else if !identifier.hasStation then .error (.invalidArgument "Station not set")
  else if !identifier.hasChannel then .error (.invalidArgument "Channel not set")
  else if !identifier.hasLocationCode then .error (.invalidArgument "Location code not set")
  else .ok { pImpl := { p.pImpl with mIdentifier := identifier, mHasIdentifier := true } }

def hasStreamIdentifier (p : Packet) : Bool := p.pImpl.mHasIdentifier

def getStreamIdentifierReference (p : Packet) : Except Exception StreamIdentifier :=
  if !p.hasStreamIdentifier then .error (.runtimeError "Identifier not set")
  else .ok p.pImpl.mIdentifier

/-- The copy is made under the same check. -/
def getStreamIdentifier (p : Packet) : Except Exception StreamIdentifier := p.getStreamIdentifierReference

def setSamplingRate (p : Packet) (samplingRate : ℚ) : Except Exception Packet :=
  if samplingRate ≤ 0 then
    .error (.invalidArgument
      ("samplingRate = " ++ stdToString samplingRate ++ " must be positive"))
  else .ok { pImpl := { p.pImpl with mSamplingRate := samplingRate }.updateEndTime }

def hasSamplingRate (p : Packet) : Bool := p.pImpl.mSamplingRate > 0

def getSamplingRate (p : Packet) : Except Exception ℚ :=
  if !p.hasSamplingRate then .error (.runtimeError "Sampling rate not set")
  else .ok p.pImpl.mSamplingRate

def getNumberOfSamples (p : Packet) : Int := p.pImpl.size

def setStartTime (p : Packet) (startTime : Int64) : Packet :=
  { pImpl := { p.pImpl with mStartTimeMicroSeconds := startTime }.updateEndTime }

/-- The overload for seconds. -/
def setStartTimeSeconds (p : Packet) (startTime : ℚ) : Packet :=
  p.setStartTime (castToInt64 (stdRound (startTime * 1000000000)))

def getStartTime (p : Packet) : Int64 := p.pImpl.mStartTimeMicroSeconds

def getEndTime (p : Packet) : Except Exception Int64 :=
  if !p.hasSamplingRate then .error (.runtimeError "Sampling rate not set")
  else if p.getNumberOfSamples < 1 then .error (.runtimeError "No samples in signal")
  else .ok p.pImpl.mEndTimeMicroSeconds

def setData (p : Packet) (u : SampleType) (x : List u.Value) : Packet :=
  { pImpl := (p.pImpl.setData u x).updateEndTime }

/-- The overload for arrays: a null pointer is `none`. -/
def setDataArray (p : Packet) (u : SampleType) (nSamples : Int) (x : Option (List u.Value)) :
    Except Exception Packet :=
  if nSamples < 0 then .error (.invalidArgument "nSamples not positive")
  else
    match x with
    | none => .error (.invalidArgument "x is NULL")
    | some values => .ok (p.setData u (values.take nSamples.toNat))

def getDataType (p : Packet) : DataType := p.pImpl.mDataType

/-- The samples converted to an element type, as many as there are said to be. -/
def getData (p : Packet) (v : SampleType) : List v.Value :=
  let nSamples := p.getNumberOfSamples
  let copy (u : SampleType) (data : List u.Value) : List v.Value :=
    (data.take nSamples.toNat).map (u.convert v)
  if nSamples < 1 then []
  else
    match p.getDataType with
    | .integer32 => copy .integer32 p.pImpl.mInteger32Data
    | .float => copy .float p.pImpl.mFloatData
    | .double => copy .double p.pImpl.mDoubleData
    | .text => copy .text p.pImpl.mTextData
    | .unknown => List.replicate nSamples.toNat (v.ofNumber 0)

def getDataPointer (p : Packet) : Samples :=
  if p.getNumberOfSamples < 1 then .null
  else
    match p.getDataType with
    | .integer32 => .of .integer32 p.pImpl.mInteger32Data
    | .float => .of .float p.pImpl.mFloatData
    | .double => .of .double p.pImpl.mDoubleData
    | .text => .of .text p.pImpl.mTextData
    | .unknown => .null

/-! ### The attributes after each setter -/

section Attributes

variable {p p' : Packet}

theorem setStreamIdentifier_eq_ok {identifier : StreamIdentifier} :
    p.setStreamIdentifier identifier = .ok p' ↔
      (identifier.hasNetwork = true ∧ identifier.hasStation = true ∧ identifier.hasChannel = true ∧
        identifier.hasLocationCode = true) ∧
      p' = { pImpl := { p.pImpl with mIdentifier := identifier, mHasIdentifier := true } } := by
  unfold setStreamIdentifier
  cases identifier.hasNetwork <;> cases identifier.hasStation <;>
    cases identifier.hasChannel <;> cases identifier.hasLocationCode <;> simp [eq_comm]

theorem setSamplingRate_eq_ok {samplingRate : ℚ} :
    p.setSamplingRate samplingRate = .ok p' ↔
      0 < samplingRate ∧
        p' = { pImpl := { p.pImpl with mSamplingRate := samplingRate }.updateEndTime } := by
  unfold setSamplingRate
  split
  · next h => simp [not_lt.mpr h]
  · next h => simp [not_le.mp h, eq_comm]

theorem setDataArray_eq_ok {u : SampleType} {nSamples : Int} {x : Option (List u.Value)} :
    p.setDataArray u nSamples x = .ok p' ↔
      0 ≤ nSamples ∧ ∃ values, x = some values ∧ p' = p.setData u (values.take nSamples.toNat) := by
  unfold setDataArray
  split
  · next h => simp [not_le.mpr h]
  · next h => cases x <;> simp [not_lt.mp h, eq_comm]

theorem getEndTime_eq_ok {time : Int64} :
    p.getEndTime = .ok time ↔
      p.hasSamplingRate = true ∧ 1 ≤ p.getNumberOfSamples ∧ p.pImpl.mEndTimeMicroSeconds = time := by
  unfold getEndTime
  split
  · next h => simp_all
  · next h =>
    split
    · next hfew => simp [not_le.mpr hfew]
    · next hfew => simp_all

end Attributes

end Packet

/-! ### Sums over the samples -/

/-- The value of a number in a `double`. Characters are not summed. -/
def SampleType.toDouble : (u : SampleType) → u.Value → ℚ
  | .integer32, x => x.toInt
  | .float, x => x
  | .double, x => x
  | .text, _ => 0

/-- The loop over the samples that both sums have in common: `term` is what one sample adds and
`failure` is the error for a text. -/
def accumulateSamples (term : ℚ → ℚ) (failure : String) (packet : Packet) : Except Exception ℚ :=
  let nSamples := packet.getNumberOfSamples
  let sum (u : SampleType) (data : List u.Value) : ℚ :=
    (data.take nSamples.toNat).foldl (fun result x => result + term (u.toDouble x)) 0
  if nSamples < 1 then .ok 0
  else
    match packet.getDataType with
    | .integer32 => .ok (sum .integer32 packet.pImpl.mInteger32Data)
    | .double => .ok (sum .double packet.pImpl.mDoubleData)
    | .float => .ok (sum .float packet.pImpl.mFloatData)
    | .text => .error (.runtimeError failure)
    | .unknown => .error (.runtimeError "Unhandled data type")

def computeSumOfSamples : Packet → Except Exception ℚ :=
  accumulateSamples (fun x => x) "Cannot compute sum of text data"

def computeSumOfSamplesSquared : Packet → Except Exception ℚ :=
  accumulateSamples (fun x => x * x) "Cannot compute sum squared of text data"

/-- Only texts and packets without a type cannot be summed. -/
theorem accumulateSamples_isOk (term : ℚ → ℚ) (failure : String) {packet : Packet}
    (h : packet.getDataType ≠ .text ∧ packet.getDataType ≠ .unknown) :
    ∃ sum, accumulateSamples term failure packet = .ok sum := by
  simp only [accumulateSamples]
  split
  · exact ⟨0, rfl⟩
  · cases htype : packet.getDataType with
    | integer32 => exact ⟨_, rfl⟩
    | double => exact ⟨_, rfl⟩
    | float => exact ⟨_, rfl⟩
    | text => exact absurd htype h.1
    | unknown => exact absurd htype h.2

/-! ### Stored samples -/

namespace PacketImpl

variable (p : PacketImpl) (u : SampleType) (data : List u.Value)

@[simp] theorem store_mDataType : (p.store u data).mDataType = u.dataType := by
  cases u <;> rfl

@[simp] theorem store_buffer : (p.store u data).buffer u = data := by
  cases u <;> rfl

@[simp] theorem updateEndTime_buffer (v : SampleType) : p.updateEndTime.buffer v = p.buffer v := by
  cases v <;> rfl

/-- The number of samples of a packet that holds samples of type `u`. -/
theorem size_of_dataType (h : p.mDataType = u.dataType) :
    p.size = castToInt (p.buffer u).length := by
  unfold size
  cases u <;> rw [h] <;> rfl

/-- Setting the samples leaves every other attribute as it was. -/
theorem setData_frame :
    (p.setData u data).mIdentifier = p.mIdentifier ∧
      (p.setData u data).mHasIdentifier = p.mHasIdentifier ∧
      (p.setData u data).mSamplingRate = p.mSamplingRate ∧
      (p.setData u data).mStartTimeMicroSeconds = p.mStartTimeMicroSeconds := by
  unfold setData
  split
  · exact ⟨rfl, rfl, rfl, rfl⟩
  · cases u <;> exact ⟨rfl, rfl, rfl, rfl⟩

theorem setData_of_ne_nil (h : data ≠ []) :
    (p.setData u data).mDataType = u.dataType ∧ (p.setData u data).buffer u = data := by
  rw [setData, if_neg (by simpa using h), updateEndTime_buffer, store_buffer]
  exact ⟨store_mDataType _ _ _, rfl⟩

end PacketImpl

theorem Packet.getDataPointer_of_dataType {p : Packet} {u : SampleType}
    (htype : p.getDataType = u.dataType) (hpos : 1 ≤ p.getNumberOfSamples) :
    p.getDataPointer = .of u (p.pImpl.buffer u) := by
  rw [getDataPointer, if_neg (by omega), htype]
  cases u <;> rfl

end USEEDLinkToRingServer
