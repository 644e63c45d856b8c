import USEEDLinkToRingServer.IdentifierObjects

/-!
# Packets as objects

A packet keeps its samples in one of four buffers, a tag that names it, and an end time that follows from
the other attributes. To a client it is four registers: the identifier, the sampling rate, the start time
and the samples.
-/

namespace USEEDLinkToRingServer

open Objects

inductive PacketCall
  | setStreamIdentifier (identifier : StreamIdentifier)
  | setSamplingRate (samplingRate : ℚ)
  | setStartTime (startTime : Int64)
  | setStartTimeSeconds (startTime : ℚ)
  | setData (u : SampleType) (x : List u.Value)
  | setDataArray (u : SampleType) (nSamples : Int) (x : Option (List u.Value))
  | clear

namespace Packet

/-! The statements of the setters that throw, on the object they change. -/

def setStreamIdentifierTo (identifier : StreamIdentifier) : EStateM Exception Packet Unit := do
  if !identifier.hasNetwork then throw (.invalidArgument "Network not set")
  if !identifier.hasStation then throw (.invalidArgument "Station not set")
  if !identifier.hasChannel then throw (.invalidArgument "Channel not set")
  if !identifier.hasLocationCode then throw (.invalidArgument "Location code not set")
  modify fun p => { pImpl := { p.pImpl with mIdentifier := identifier } }
  modify fun p => { pImpl := { p.pImpl with mHasIdentifier := true } }

def setSamplingRateTo (samplingRate : ℚ) : EStateM Exception Packet Unit := do
  if samplingRate ≤ 0 then
    throw (.invalidArgument ("samplingRate = " ++ stdToString samplingRate ++ " must be positive"))
  modify fun p => { pImpl := { p.pImpl with mSamplingRate := samplingRate } }
  modify fun p => { pImpl := p.pImpl.updateEndTime }

/-- The pointer is looked at after the number. -/
def setDataArrayTo (u : SampleType) (nSamples : Int) (x : Option (List u.Value)) :
    EStateM Exception Packet Unit := do
  if nSamples < 0 then throw (.invalidArgument "nSamples not positive")
  match x with
  | none => throw (.invalidArgument "x is NULL")
  | some values => modify fun p => p.setData u (values.take nSamples.toNat)

def call (p : Packet) : PacketCall → Packet × Except Exception Unit
  | .setStreamIdentifier identifier => perform p (setStreamIdentifierTo identifier)
  | .setSamplingRate samplingRate => perform p (setSamplingRateTo samplingRate)
  | .setStartTime startTime => (p.setStartTime startTime, .ok ())
  | .setStartTimeSeconds startTime => (p.setStartTimeSeconds startTime, .ok ())
  | .setData u x => (p.setData u x, .ok ())
  | .setDataArray u nSamples x => perform p (setDataArrayTo u nSamples x)
  | .clear => (p.clear, .ok ())

/-- The class of packets, with its one constructor. -/
def objects : Class Packet Unit PacketCall Exception := ⟨fun _ => .ok {}, call⟩

/-- The packet that a call makes of another if it returns. -/
def outcome (p : Packet) : PacketCall → Except Exception Packet
  | .setStreamIdentifier identifier => p.setStreamIdentifier identifier
  | .setSamplingRate samplingRate => p.setSamplingRate samplingRate
  | .setStartTime startTime => .ok (p.setStartTime startTime)
  | .setStartTimeSeconds startTime => .ok (p.setStartTimeSeconds startTime)
  | .setData u x => .ok (p.setData u x)
  | .setDataArray u nSamples x => p.setDataArray u nSamples x
  | .clear => .ok p.clear

/-- The setters check what they are given before they change the packet. -/
theorem call_eq_attempt (p : Packet) (c : PacketCall) : objects.call p c = attempt p (p.outcome c) := by
  cases c with
  | setStreamIdentifier identifier =>
    show perform p (setStreamIdentifierTo identifier) = attempt p (p.setStreamIdentifier identifier)
    rw [setStreamIdentifierTo, setStreamIdentifier]
    exact perform_check fun _ => perform_check fun _ => perform_check fun _ => perform_check fun _ => rfl
  | setSamplingRate samplingRate =>
    show perform p (setSamplingRateTo samplingRate) = attempt p (p.setSamplingRate samplingRate)
    rw [setSamplingRateTo, setSamplingRate]
    exact perform_check fun _ => rfl
  | setDataArray u nSamples x =>
    show perform p (setDataArrayTo u nSamples x) = attempt p (p.setDataArray u nSamples x)
    unfold setDataArrayTo setDataArray
    refine perform_check fun _ => ?_
    cases x <;> rfl
  | setStartTime startTime => rfl
  | setStartTimeSeconds startTime => rfl
  | setData u x => rfl
  | clear => rfl

end Packet

/-! ### The representation -/

namespace PacketImpl

/-- The end time that the other attributes give. -/
def endTime (p : PacketImpl) : Int64 :=
  if p.size > 0 ∧ p.mSamplingRate > 0 then
    p.mStartTimeMicroSeconds + castToInt64 (traceDuration p.size p.mSamplingRate)
  else p.mStartTimeMicroSeconds

/-- The buffer in use is the one that the tag names, and the end time is up to date. -/
structure Coherent (p : PacketImpl) : Prop where
  buffers : ∀ u, p.buffer u ≠ [] ↔ p.mDataType = u.dataType
  endTime : p.mEndTimeMicroSeconds = p.endTime

variable {p : PacketImpl}

theorem coherent_updateEndTime (h : ∀ u, p.buffer u ≠ [] ↔ p.mDataType = u.dataType) :
    p.updateEndTime.Coherent where
  buffers u := by
    rw [updateEndTime_buffer]
    exact h u
  endTime := rfl

theorem coherent_empty : Coherent {} where
  buffers u := by cases u <;> decide
  endTime := rfl

/-- Samples are stored in their buffer, and the others are empty. -/
theorem buffers_store {u : SampleType} {data : List u.Value} (hne : data ≠ []) (v : SampleType) :
    (p.clearData.store u data).buffer v ≠ [] ↔ (p.clearData.store u data).mDataType = v.dataType := by
  cases u <;> cases v <;> simp [store, clearData, buffer, SampleType.dataType, hne]

theorem Coherent.setData (h : p.Coherent) (u : SampleType) (data : List u.Value) :
    (p.setData u data).updateEndTime.Coherent := by
  rw [PacketImpl.setData]
  split
  · exact coherent_updateEndTime h.buffers
  · next hne =>
    apply coherent_updateEndTime
    exact (coherent_updateEndTime (buffers_store (by simpa using hne))).buffers

theorem Coherent.dataType_eq_unknown_iff (h : p.Coherent) :
    p.mDataType = .unknown ↔ ∀ u, p.buffer u = [] := by
  constructor
  · intro hunknown u
    by_contra hne
    rw [(h.buffers u).mp hne] at hunknown
    cases u <;> cases hunknown
  · intro hempty
    have hnot : ∀ u : SampleType, p.mDataType ≠ u.dataType := fun u htype =>
      (h.buffers u).mpr htype (hempty u)
    cases htype : p.mDataType with
    | unknown => rfl
    | integer32 => exact absurd htype (hnot .integer32)
    | float => exact absurd htype (hnot .float)
    | double => exact absurd htype (hnot .double)
    | text => exact absurd htype (hnot .text)

end PacketImpl

namespace Packet

variable {p q : Packet}

def Coherent (p : Packet) : Prop := p.pImpl.Coherent

/-- Every packet is coherent. -/
theorem keeps_coherent : objects.Keeps Coherent where
  make := by
    intro _ p hmake
    obtain rfl := Except.ok.inj hmake
    exact PacketImpl.coherent_empty
  call := by
    intro p call h
    rw [call_eq_attempt]
    refine attempt_keeps (I := Coherent) h fun p' hset => ?_
    cases call with
    | setStreamIdentifier identifier =>
      obtain ⟨_, rfl⟩ := setStreamIdentifier_eq_ok.mp hset
      exact ⟨h.buffers, h.endTime⟩
    | setSamplingRate samplingRate =>
      obtain ⟨_, rfl⟩ := setSamplingRate_eq_ok.mp hset
      exact PacketImpl.coherent_updateEndTime h.buffers
    | setStartTime startTime | setStartTimeSeconds startTime =>
      obtain rfl := Except.ok.inj hset
      exact PacketImpl.coherent_updateEndTime h.buffers
    | setData u x =>
      obtain rfl := Except.ok.inj hset
      exact PacketImpl.Coherent.setData h u x
    | setDataArray u nSamples x =>
      obtain ⟨_, values, _, rfl⟩ := setDataArray_eq_ok.mp hset
      exact PacketImpl.Coherent.setData h u _
    | clear =>
      obtain rfl := Except.ok.inj hset
      exact ⟨PacketImpl.coherent_empty.buffers, rfl⟩

end Packet

/-! ### A packet as four registers -/

structure PacketRegisters where
  identifier : Option StreamIdentifier
  samplingRate : ℚ
  startTime : Int64
  samples : Samples

namespace PacketCall

/-- An identifier that lacks a part is not accepted. -/
def setsIdentifier : PacketCall → Option (Option StreamIdentifier)
  | .setStreamIdentifier identifier => if identifier.HasParts then some (some identifier) else none
  | .clear => some none
  | _ => none

def setsSamplingRate : PacketCall → Option ℚ
  | .setSamplingRate samplingRate => if 0 < samplingRate then some samplingRate else none
  | .clear => some 0
  | _ => none

def setsStartTime : PacketCall → Option Int64
  | .setStartTime startTime => some startTime
  | .setStartTimeSeconds startTime => some (castToInt64 (stdRound (startTime * 1000000000)))
  | .clear => some 0
  | _ => none

/-- No samples do not take the place of those that are there. -/
def setsSamples : PacketCall → Option Samples
  | .setData u x => if x.isEmpty then none else some (.of u x)
  | .setDataArray u nSamples x =>
    if nSamples < 0 then none
    else
      x.bind fun values =>
        if (values.take nSamples.toNat).isEmpty then none
        else some (.of u (values.take nSamples.toNat))
  | .clear => some .null
  | _ => none

end PacketCall

namespace Packet

variable {p q : Packet}

/-- The samples with their type. -/
def heldSamples (p : Packet) : Samples :=
  match p.pImpl.mDataType with
  | .integer32 => .of .integer32 p.pImpl.mInteger32Data
  | .float => .of .float p.pImpl.mFloatData
  | .double => .of .double p.pImpl.mDoubleData
  | .text => .of .text p.pImpl.mTextData
  | .unknown => .null

def registers (p : Packet) : PacketRegisters where
  identifier := if p.pImpl.mHasIdentifier then some p.pImpl.mIdentifier else none
  samplingRate := p.pImpl.mSamplingRate
  startTime := p.pImpl.mStartTimeMicroSeconds
  samples := p.heldSamples

/-- The samples set replace those that were held, unless there are none. -/
theorem heldSamples_setData (p : Packet) (u : SampleType) (x : List u.Value) :
    (p.setData u x).heldSamples = if x.isEmpty then p.heldSamples else .of u x := by
  unfold setData PacketImpl.setData
  split
  · rfl
  · cases u <;> rfl

/-- A call sets the registers that it is said to set and leaves the others. -/
theorem registers_call (p : Packet) (c : PacketCall) :
    (objects.call p c).1.registers =
      { identifier := c.setsIdentifier.getD p.registers.identifier
        samplingRate := c.setsSamplingRate.getD p.registers.samplingRate
        startTime := c.setsStartTime.getD p.registers.startTime
        samples := c.setsSamples.getD p.registers.samples } := by
  have hdata : ∀ (u : SampleType) (x : List u.Value), (p.setData u x).registers =
      { p.registers with samples := if x.isEmpty then p.registers.samples else .of u x } := by
    intro u x
    obtain ⟨hid, hhas, hrate, hstart⟩ := PacketImpl.setData_frame p.pImpl u x
    show PacketRegisters.mk (if (p.pImpl.setData u x).mHasIdentifier then
        some (p.pImpl.setData u x).mIdentifier else none) (p.pImpl.setData u x).mSamplingRate
        (p.pImpl.setData u x).mStartTimeMicroSeconds (p.setData u x).heldSamples = _
    rw [hid, hhas, hrate, hstart, heldSamples_setData]
    rfl
  rw [call_eq_attempt]
  cases c with
  | setStreamIdentifier identifier =>
    rw [outcome]
    by_cases hparts : identifier.HasParts
    · rw [setStreamIdentifier_eq_ok.mpr ⟨hparts, rfl⟩]
      simp only [PacketCall.setsIdentifier, if_pos hparts]
      rfl
    · rw [attempt_of_ne_ok fun p' hset => hparts (setStreamIdentifier_eq_ok.mp hset).1]
      simp only [PacketCall.setsIdentifier, if_neg hparts]
      rfl
  | setSamplingRate samplingRate =>
    rw [outcome]
    by_cases hpos : 0 < samplingRate
    · rw [setSamplingRate_eq_ok.mpr ⟨hpos, rfl⟩]
      simp only [PacketCall.setsSamplingRate, if_pos hpos]
      rfl
    · rw [attempt_of_ne_ok fun p' hset => hpos (setSamplingRate_eq_ok.mp hset).1]
      simp only [PacketCall.setsSamplingRate, if_neg hpos]
      rfl
  | setStartTime startTime => rfl
  | setStartTimeSeconds startTime => rfl
  | setData u x =>
    show (p.setData u x).registers = _
    rw [hdata]
    simp only [PacketCall.setsSamples]
    split <;> rfl
  | setDataArray u nSamples x =>
    rw [outcome]
    simp only [PacketCall.setsSamples]
    split
    · next hneg =>
      rw [attempt_of_ne_ok fun p' hset => absurd (setDataArray_eq_ok.mp hset).1 (not_le.mpr hneg)]
      rfl
    · next hnonneg =>
      cases x with
      | none =>
        rw [attempt_of_ne_ok fun p' hset => ?_]
        · rfl
        · obtain ⟨_, values, hvalues, _⟩ := setDataArray_eq_ok.mp hset
          cases hvalues
      | some values =>
        rw [setDataArray_eq_ok.mpr ⟨not_lt.mp hnonneg, values, rfl, rfl⟩]
        show (p.setData u (values.take nSamples.toNat)).registers = _
        rw [hdata, Option.bind_some]
        split <;> rfl
  | clear => rfl

end Packet

/-! ### What can be asked of a packet -/

structure PacketView where
  hasStreamIdentifier : Bool
  streamIdentifier : Except Exception StreamIdentifier
  streamIdentifierReference : Except Exception StreamIdentifier
  hasSamplingRate : Bool
  samplingRate : Except Exception ℚ
  numberOfSamples : Int
  startTime : Int64
  endTime : Except Exception Int64
  dataType : DataType
  data : (v : SampleType) → List v.Value
  dataPointer : Samples

namespace Packet

def view (p : Packet) : PacketView where
  hasStreamIdentifier := p.hasStreamIdentifier
  streamIdentifier := p.getStreamIdentifier
  streamIdentifierReference := p.getStreamIdentifierReference
  hasSamplingRate := p.hasSamplingRate
  samplingRate := p.getSamplingRate
  numberOfSamples := p.getNumberOfSamples
  startTime := p.getStartTime
  endTime := p.getEndTime
  dataType := p.getDataType
  data := p.getData
  dataPointer := p.getDataPointer

variable {p q : Packet}

theorem getStreamIdentifierReference_eq (p : Packet) :
    p.getStreamIdentifierReference =
      match p.registers.identifier with
      | some identifier => .ok identifier
      | none => .error (.runtimeError "Identifier not set") := by
  unfold getStreamIdentifierReference hasStreamIdentifier registers
  cases p.pImpl.mHasIdentifier <;> rfl

theorem hasStreamIdentifier_eq (p : Packet) : p.hasStreamIdentifier = p.registers.identifier.isSome := by
  unfold hasStreamIdentifier registers
  cases p.pImpl.mHasIdentifier <;> rfl

/-- The tag of the buffer that holds the samples. -/
def tagOf : Samples → DataType
  | .null => .unknown
  | .of u _ => u.dataType

def countOf : Samples → Int
  | .null => 0
  | .of _ data => castToInt data.length

/-- A copy of the first samples. -/
def copyOf (v : SampleType) (n : Nat) : Samples → List v.Value
  | .null => List.replicate n (v.ofNumber 0)
  | .of u data => (data.take n).map (u.convert v)

theorem getters_eq (p : Packet) :
    p.getDataType = tagOf p.heldSamples ∧ p.getNumberOfSamples = countOf p.heldSamples ∧
      (∀ v, p.getData v =
        if p.getNumberOfSamples < 1 then [] else copyOf v p.getNumberOfSamples.toNat p.heldSamples) ∧
      p.getDataPointer = if p.getNumberOfSamples < 1 then .null else p.heldSamples := by
  unfold getData getDataPointer heldSamples getNumberOfSamples PacketImpl.size getDataType
  cases p.pImpl.mDataType <;> exact ⟨rfl, rfl, fun _ => rfl, rfl⟩

/-- The samples determine the tag, their number and what a copy of them holds. -/
theorem samples_getters (h : p.heldSamples = q.heldSamples) :
    p.getDataType = q.getDataType ∧ p.getNumberOfSamples = q.getNumberOfSamples ∧
      p.getData = q.getData ∧ p.getDataPointer = q.getDataPointer := by
  obtain ⟨htype, hnumber, hdata, hpointer⟩ := getters_eq p
  obtain ⟨htype', hnumber', hdata', hpointer'⟩ := getters_eq q
  have hsame : p.getNumberOfSamples = q.getNumberOfSamples := by rw [hnumber, hnumber', h]
  refine ⟨?_, hsame, ?_, ?_⟩
  · rw [htype, htype', h]
  · funext v
    rw [hdata, hdata', hsame, h]
  · rw [hpointer, hpointer', hsame, h]

/-- The registers are all that can be seen of a packet. -/
theorem view_eq (hp : p.Coherent) (hq : q.Coherent) (h : p.registers = q.registers) : p.view = q.view := by
  have hrate : p.pImpl.mSamplingRate = q.pImpl.mSamplingRate := congrArg PacketRegisters.samplingRate h
  have hstart : p.pImpl.mStartTimeMicroSeconds = q.pImpl.mStartTimeMicroSeconds :=
    congrArg PacketRegisters.startTime h
  have hhas : p.hasSamplingRate = q.hasSamplingRate := by rw [hasSamplingRate, hrate, hasSamplingRate]
  obtain ⟨htype, hnumber, hdata, hpointer⟩ := samples_getters (congrArg PacketRegisters.samples h)
  have hreference : p.getStreamIdentifierReference = q.getStreamIdentifierReference := by
    rw [getStreamIdentifierReference_eq, getStreamIdentifierReference_eq, h]
  have hend : p.getEndTime = q.getEndTime := by
    have hsize : p.pImpl.size = q.pImpl.size := hnumber
    have hcached : p.pImpl.mEndTimeMicroSeconds = q.pImpl.mEndTimeMicroSeconds := by
      rw [hp.endTime, hq.endTime, PacketImpl.endTime, PacketImpl.endTime, hsize, hrate, hstart]
    rw [getEndTime, getEndTime, hhas, hnumber, hcached]
  simp only [view, getStreamIdentifier, hasStreamIdentifier_eq, h, hreference, hhas, getSamplingRate,
    getStartTime, hrate, hstart, hend, htype, hnumber, hdata, hpointer]

/-! ### Packets in the hands of a client -/

/-- Whether a call throws, and what, depends on its arguments alone. -/
theorem call_result (p q : Packet) (c : PacketCall) : (objects.call p c).2 = (objects.call q c).2 := by
  rw [call_eq_attempt, call_eq_attempt, attempt_snd, attempt_snd]
  cases c with
  | setStreamIdentifier identifier =>
    rw [outcome, outcome, setStreamIdentifier, setStreamIdentifier]
    cases identifier.hasNetwork <;> cases identifier.hasStation <;> cases identifier.hasChannel <;>
      cases identifier.hasLocationCode <;> rfl
  | setSamplingRate samplingRate =>
    rw [outcome, outcome, setSamplingRate, setSamplingRate]
    split <;> rfl
  | setDataArray u nSamples x =>
    simp only [outcome, setDataArray]
    split
    · rfl
    · cases x <;> rfl
  | setStartTime startTime => rfl
  | setStartTimeSeconds startTime => rfl
  | setData u x => rfl
  | clear => rfl

/-- A call that throws has changed nothing. -/
theorem call_error {p : Packet} {c : PacketCall} {e : Exception} (h : (objects.call p c).2 = .error e) :
    (objects.call p c).1 = p := by
  rw [call_eq_attempt] at h ⊢
  exact attempt_error h

/-- The registers after calls hold what was set last. -/
theorem registers_after (p : Packet) (calls : List PacketCall) :
    (objects.after p calls).registers =
      { identifier := (Class.lastSet PacketCall.setsIdentifier calls).getD p.registers.identifier
        samplingRate := (Class.lastSet PacketCall.setsSamplingRate calls).getD p.registers.samplingRate
        startTime := (Class.lastSet PacketCall.setsStartTime calls).getD p.registers.startTime
        samples := (Class.lastSet PacketCall.setsSamples calls).getD p.registers.samples } := by
  have hidentifier := Class.register_after (C := objects) (fun p => p.registers.identifier)
    (fun p c => congrArg PacketRegisters.identifier (registers_call p c)) p calls
  have hrate := Class.register_after (C := objects) (fun p => p.registers.samplingRate)
    (fun p c => congrArg PacketRegisters.samplingRate (registers_call p c)) p calls
  have hstart := Class.register_after (C := objects) (fun p => p.registers.startTime)
    (fun p c => congrArg PacketRegisters.startTime (registers_call p c)) p calls
  have hsamples := Class.register_after (C := objects) (fun p => p.registers.samples)
    (fun p c => congrArg PacketRegisters.samples (registers_call p c)) p calls
  rw [← hidentifier, ← hrate, ← hstart, ← hsamples]

/-- Packets with the same registers stay so, and cannot be told apart. -/
theorem indistinguishable (hp : p.Coherent) (hq : q.Coherent) (h : p.registers = q.registers) :
    objects.Indistinguishable view p q := by
  apply Class.indistinguishable_of_related
    (R := fun p q => p.Coherent ∧ q.Coherent ∧ p.registers = q.registers) _ _ ⟨hp, hq, h⟩
  · rintro p q ⟨hp, hq, h⟩
    exact view_eq hp hq h
  · rintro p q c ⟨hp, hq, h⟩
    refine ⟨call_result p q c, keeps_coherent.call p c hp, keeps_coherent.call q c hq, ?_⟩
    rw [registers_call, registers_call, h]

/-- **A packet is its four registers**: whatever a client has called, copied, moved and assigned, every packet
it holds has at most one buffer with samples, which is the one that the tag names, the tag is `unknown`
exactly when there are no samples, and the end time follows from the start time, the rate and the number of
samples. After more calls the registers hold the last values that were set and all getters depend only on them,
a call that throws changes nothing, and nothing tells a cleared packet from a new one. -/
theorem packets_are_registers {Var : Type} [DecidableEq Var] (s : Var → Option Packet)
    (hreached : Machine.Reaches objects.next (fun _ => none) s) (x : Var) (p : Packet)
    (hx : s x = some p) :
    ((∀ u v, p.pImpl.buffer u ≠ [] → p.pImpl.buffer v ≠ [] → u = v) ∧
      (∀ u, p.pImpl.buffer u ≠ [] ↔ p.getDataType = u.dataType) ∧
      (p.getDataType = .unknown ↔ ∀ u, p.pImpl.buffer u = []) ∧
      p.pImpl.mEndTimeMicroSeconds =
        if p.getNumberOfSamples > 0 ∧ p.pImpl.mSamplingRate > 0 then
          p.getStartTime +
            castToInt64 (PacketImpl.traceDuration p.getNumberOfSamples p.pImpl.mSamplingRate)
        else p.getStartTime) ∧
    (∀ calls, (objects.after p calls).registers =
      { identifier := (Class.lastSet PacketCall.setsIdentifier calls).getD p.registers.identifier
        samplingRate := (Class.lastSet PacketCall.setsSamplingRate calls).getD p.registers.samplingRate
        startTime := (Class.lastSet PacketCall.setsStartTime calls).getD p.registers.startTime
        samples := (Class.lastSet PacketCall.setsSamples calls).getD p.registers.samples }) ∧
    (∀ calls calls',
      Class.lastSet PacketCall.setsIdentifier calls = Class.lastSet PacketCall.setsIdentifier calls' →
      Class.lastSet PacketCall.setsSamplingRate calls = Class.lastSet PacketCall.setsSamplingRate calls' →
      Class.lastSet PacketCall.setsStartTime calls = Class.lastSet PacketCall.setsStartTime calls' →
      Class.lastSet PacketCall.setsSamples calls = Class.lastSet PacketCall.setsSamples calls' →
      (objects.after p calls).view = (objects.after p calls').view) ∧
    (∀ c e, (objects.call p c).2 = .error e → (objects.call p c).1 = p) ∧
    objects.Indistinguishable view p.clear {} := by
  have hcoherent : p.Coherent := keeps_coherent.live hreached hx
  refine ⟨⟨fun u v hu hv => ?_, hcoherent.buffers, hcoherent.dataType_eq_unknown_iff, hcoherent.endTime⟩,
    registers_after p, fun calls calls' hidentifier hrate hstart hsamples => ?_, fun c e => call_error, ?_⟩
  · have htypes := ((hcoherent.buffers u).mp hu).symm.trans ((hcoherent.buffers v).mp hv)
    cases u <;> cases v <;> first | rfl | cases htypes
  · apply view_eq (keeps_coherent.after hcoherent calls) (keeps_coherent.after hcoherent calls')
    rw [registers_after, registers_after, hidentifier, hrate, hstart, hsamples]
  · exact indistinguishable (keeps_coherent.call p .clear hcoherent) PacketImpl.coherent_empty rfl

/-- A packet with samples from half past one on the first day, a copy of it that is cleared, and one it is
moved to. -/
def knownCommands : List (Command Bool Unit PacketCall) :=
  [.make true (), .call true (.setSamplingRate 100), .call true (.setStartTimeSeconds 5400),
    .call true (.setData .integer32 [1, 2]), .copy false true, .call false .clear, .move false true]

/-- The second sample is a hundredth of a second after the first, and a rate set later is kept. -/
theorem packets_are_registers_known :
    ∃ s p, Machine.exec objects.next (fun _ => none) knownCommands = some s ∧ s false = some p ∧
      s true = none ∧ p.getDataType = .integer32 ∧ p.getStartTime = 5400000000000 ∧
      p.getEndTime = .ok 5400010000000 ∧
      (objects.after p [.setSamplingRate 50, .setSamplingRate 0]).registers.samplingRate = 50 ∧
      objects.Indistinguishable view p.clear {} := by
  have hruns : (Machine.exec objects.next (fun _ => none) knownCommands).map
      (fun s => ((s false).map fun p => (p.getDataType, p.getStartTime, p.getEndTime.toOption), (s true).isNone)) =
        some (some (.integer32, 5400000000000, some 5400010000000), true) := by
    decide +kernel
  obtain ⟨s, hrun, hheld⟩ := Option.map_eq_some_iff.mp hruns
  obtain ⟨hfalse, htrue⟩ := Prod.mk.inj hheld
  obtain ⟨p, hp, hgetters⟩ := Option.map_eq_some_iff.mp hfalse
  obtain ⟨htype, hgetters⟩ := Prod.mk.inj hgetters
  obtain ⟨hstart, hend⟩ := Prod.mk.inj hgetters
  obtain ⟨_, hregisters, _, _, hclear⟩ := packets_are_registers s ⟨_, hrun⟩ false p hp
  refine ⟨s, p, hrun, hp, Option.isNone_iff_eq_none.mp htrue, htype, hstart, ?_, ?_, hclear⟩
  · cases hget : p.getEndTime with
    | ok time =>
      rw [hget] at hend
      exact congrArg Except.ok (Option.some.inj hend)
    | error e =>
      rw [hget] at hend
      cases hend
  · have hlast : Class.lastSet PacketCall.setsSamplingRate [.setSamplingRate 50, .setSamplingRate 0] = some 50 := by
      decide +kernel
    rw [hregisters]
    dsimp only
    rw [hlast, Option.getD_some]

end Packet

end USEEDLinkToRingServer
