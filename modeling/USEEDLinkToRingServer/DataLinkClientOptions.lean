import USEEDLinkToRingServer.Boost
import USEEDLinkToRingServer.DataLinkClient
import USEEDLinkToRingServer.Library.Fallible
import USEEDLinkToRingServer.Library.Objects

/-!
# The options of a DataLink writer

The setters of the class check and normalise what they are given. To its clients an options object is seven
registers, and what it holds can always be given to libdali and to the packer.
-/

namespace USEEDLinkToRingServer

open Fallible Objects

structure DataLinkClientOptions where
  mHost : Str := "localhost".toList
  mName : Str := "seedLinkToRingServerDALIClient".toList
  mMaximumInternalQueueSize : Int32 := 8192
  mMiniSEEDRecordSize : Int32 := 512
  mPort : UInt16 := 16000
  mWriteMiniSEED3 : Bool := false
  mFlushPackets : Bool := true
deriving DecidableEq, Repr

namespace DataLinkClientOptions

section

variable (options : DataLinkClientOptions)

/-- The text without its blanks and in lower case. -/
def normalizeHost (hostIn : Str) : Str := (hostIn.filter (· != ' ')).map tolower

def setHost (hostIn : Str) : Except Exception DataLinkClientOptions :=
  let host := normalizeHost hostIn
  if host.isEmpty then .error (.invalidArgument "Host is empty")
  else if host.length ≥ 100 then .error (.invalidArgument "Host name is too long")
  else .ok { options with mHost := host }

def getHost : Str := options.mHost

def enableWriteMiniSEED3 : DataLinkClientOptions := { options with mWriteMiniSEED3 := true }

def disableWriteMiniSEED3 : DataLinkClientOptions := { options with mWriteMiniSEED3 := false }

def writeMiniSEED3 : Bool := options.mWriteMiniSEED3

def setPort (port : UInt16) : DataLinkClientOptions := { options with mPort := port }

def getPort : UInt16 := options.mPort

/-- What is kept of a name. -/
def shortenName (name : Str) : Str := if name.length ≥ 200 then name.take 199 else name

def setName (name : Str) : Except Exception DataLinkClientOptions :=
  if name.isEmpty then .error (.invalidArgument "Name is empty")
  else .ok { options with mName := shortenName name }

def getName : Str := options.mName

def setMiniSEEDRecordSize (size : Int32) : Except Exception DataLinkClientOptions :=
  if size < 1 ∨ size > 512 then
    .error (.invalidArgument ("Output MiniSEED record size " ++ Int.repr size.toInt ++
      " must be in range [1,512]"))
  else .ok { options with mMiniSEEDRecordSize := size }

def getMiniSEEDRecordSize : Int32 := options.mMiniSEEDRecordSize

def setMaximumInternalQueueSize (queueSize : Int32) : Except Exception DataLinkClientOptions :=
  if queueSize ≤ 0 then .error (.invalidArgument "Queue size must be positive")
  else .ok { options with mMaximumInternalQueueSize := queueSize }

def getMaximumInternalQueueSize : Int32 := options.mMaximumInternalQueueSize

def enablePacketFlushing : DataLinkClientOptions := { options with mFlushPackets := true }

def disablePacketFlushing : DataLinkClientOptions := { options with mFlushPackets := false }

def flushPackets : Bool := options.mFlushPackets

/-- What the constructor of the writer takes over. -/
def forWriter : WriterOptions where
  packing :=
    { maxRecordLength := options.getMiniSEEDRecordSize.toInt
      useMiniSEED3 := options.writeMiniSEED3
      compression := .none
      flushPackets := options.flushPackets }
  mMaximumInternalQueueSize := options.getMaximumInternalQueueSize.toInt.toNat

/-- The address that the writer connects to. -/
def address : Str := options.getHost ++ ':' :: (Nat.repr options.getPort.toNat).toList

end

/-! ### When the setters return -/

variable {options options' : DataLinkClientOptions}

theorem setHost_eq_ok_iff {hostIn : Str} :
    options.setHost hostIn = .ok options' ↔
      (normalizeHost hostIn ≠ [] ∧ (normalizeHost hostIn).length < 100) ∧
        { options with mHost := normalizeHost hostIn } = options' := by
  rw [setHost]
  show (if _ then _ else if _ then _ else _) = _ ↔ _
  rw [ite_error_eq_ok_iff, ite_error_eq_ok_iff, Except.ok.injEq, List.isEmpty_iff, not_le, and_assoc]

theorem setName_eq_ok_iff {name : Str} :
    options.setName name = .ok options' ↔
      name ≠ [] ∧ { options with mName := shortenName name } = options' := by
  rw [setName, ite_error_eq_ok_iff, Except.ok.injEq, List.isEmpty_iff]

/-- The sizes that a record can have. -/
def RecordSize (size : Int32) : Prop := 1 ≤ size.toInt ∧ size.toInt ≤ 512

theorem recordSize_iff {size : Int32} : ¬ (size < 1 ∨ size > 512) ↔ RecordSize size := by
  rw [not_or, Int32.not_lt, gt_iff_lt, Int32.not_lt, Int32.le_iff_toInt_le, Int32.le_iff_toInt_le]
  exact Iff.rfl

theorem setMiniSEEDRecordSize_eq_ok_iff {size : Int32} :
    options.setMiniSEEDRecordSize size = .ok options' ↔
      RecordSize size ∧ { options with mMiniSEEDRecordSize := size } = options' := by
  rw [setMiniSEEDRecordSize, ite_error_eq_ok_iff, Except.ok.injEq, recordSize_iff]

theorem setMaximumInternalQueueSize_eq_ok_iff {queueSize : Int32} :
    options.setMaximumInternalQueueSize queueSize = .ok options' ↔
      0 < queueSize.toInt ∧ { options with mMaximumInternalQueueSize := queueSize } = options' := by
  rw [setMaximumInternalQueueSize, ite_error_eq_ok_iff, Except.ok.injEq, Int32.not_le, Int32.lt_iff_toInt_lt]
  exact Iff.rfl

/-! ### What an options object holds -/

/-- A name of a host as libdali takes it. -/
structure HostName (host : Str) : Prop where
  nonempty : host ≠ []
  length_lt : host.length < 100
  characters : ∀ c ∈ host, c ≠ ' ' ∧ c.isUpper = false

structure Valid (options : DataLinkClientOptions) : Prop where
  host : HostName options.getHost
  name : options.getName ≠ [] ∧ options.getName.length < 200
  recordSize : RecordSize options.getMiniSEEDRecordSize
  queueSize : 0 < options.getMaximumInternalQueueSize.toInt

theorem isUpper_iff (c : Char) : c.isUpper = true ↔ 65 ≤ c.toNat ∧ c.toNat ≤ 90 := by
  show decide (c.val ≥ 'A'.val ∧ c.val ≤ 'Z'.val) = true ↔ _
  rw [decide_eq_true_iff, ge_iff_le, UInt32.le_iff_toNat_le, UInt32.le_iff_toNat_le]
  rfl

/-- `tolower` makes no blanks and leaves no capital letters. -/
theorem tolower_character {c : Char} (h : c ≠ ' ') : tolower c ≠ ' ' ∧ (tolower c).isUpper = false := by
  have hcode : ' '.toNat = 32 := rfl
  rw [← Bool.not_eq_true, isUpper_iff]
  rcases tolower_eq c with ⟨heq, hnot⟩ | ⟨hrange, hshift⟩
  · rw [heq]
    exact ⟨h, hnot⟩
  · refine ⟨fun hblank => ?_, by omega⟩
    rw [hblank, hcode] at hshift
    omega

theorem hostName_normalizeHost {hostIn : Str} (hnonempty : normalizeHost hostIn ≠ [])
    (hlength : (normalizeHost hostIn).length < 100) : HostName (normalizeHost hostIn) where
  nonempty := hnonempty
  length_lt := hlength
  characters c hc := by
    obtain ⟨c', hc', rfl⟩ := List.mem_map.mp hc
    exact tolower_character (by simpa using (List.mem_filter.mp hc').2)

theorem shortenName_valid {name : Str} (h : name ≠ []) :
    shortenName name ≠ [] ∧ (shortenName name).length < 200 := by
  rw [shortenName]
  split
  · refine ⟨fun hnil => ?_, by rw [List.length_take]; omega⟩
    rcases List.take_eq_nil_iff.mp hnil with hzero | hnil
    · cases hzero
    · exact h hnil
  · next hshort => exact ⟨h, not_le.mp hshort⟩

theorem valid_default : Valid {} where
  host := by
    have hplain : ("localhost".toList.all fun c => decide (c ≠ ' ' ∧ c.isUpper = false)) = true := by decide
    exact ⟨by decide, by decide, fun c hc => of_decide_eq_true (List.all_eq_true.mp hplain c hc)⟩
  name := by decide
  recordSize := ⟨by decide, by decide⟩
  queueSize := by decide

/-! ### Options as objects -/

/-- What a client can call. -/
inductive Call
  | setHost (host : Str)
  | setPort (port : UInt16)
  | setName (name : Str)
  | setMiniSEEDRecordSize (size : Int32)
  | setMaximumInternalQueueSize (queueSize : Int32)
  | writeMiniSEED3 (enable : Bool)
  | flushPackets (enable : Bool)

/-! The statements of the setters that throw, on the object they change. -/

def setHostTo (hostIn : Str) : EStateM Exception DataLinkClientOptions Unit := do
  let host := normalizeHost hostIn
  if host.isEmpty then throw (.invalidArgument "Host is empty")
  if host.length ≥ 100 then throw (.invalidArgument "Host name is too long")
  modify fun options => { options with mHost := host }

def setNameTo (name : Str) : EStateM Exception DataLinkClientOptions Unit := do
  if name.isEmpty then throw (.invalidArgument "Name is empty")
  modify fun options => { options with mName := shortenName name }

def setMiniSEEDRecordSizeTo (size : Int32) : EStateM Exception DataLinkClientOptions Unit := do
  if size < 1 ∨ size > 512 then
    throw (.invalidArgument ("Output MiniSEED record size " ++ Int.repr size.toInt ++
      " must be in range [1,512]"))
  modify fun options => { options with mMiniSEEDRecordSize := size }

def setMaximumInternalQueueSizeTo (queueSize : Int32) : EStateM Exception DataLinkClientOptions Unit := do
  if queueSize ≤ 0 then throw (.invalidArgument "Queue size must be positive")
  modify fun options => { options with mMaximumInternalQueueSize := queueSize }

def call (options : DataLinkClientOptions) : Call → DataLinkClientOptions × Except Exception Unit
  | .setHost host => perform options (setHostTo host)
  | .setPort port => (options.setPort port, .ok ())
  | .setName name => perform options (setNameTo name)
  | .setMiniSEEDRecordSize size => perform options (setMiniSEEDRecordSizeTo size)
  | .setMaximumInternalQueueSize queueSize => perform options (setMaximumInternalQueueSizeTo queueSize)
  | .writeMiniSEED3 enable =>
    (if enable then options.enableWriteMiniSEED3 else options.disableWriteMiniSEED3, .ok ())
  | .flushPackets enable =>
    (if enable then options.enablePacketFlushing else options.disablePacketFlushing, .ok ())

/-- The class of options, with its one constructor. -/
def objects : Class DataLinkClientOptions Unit Call Exception := ⟨fun _ => .ok {}, call⟩

/-- The options that a call makes of others if it returns. -/
def outcome (options : DataLinkClientOptions) : Call → Except Exception DataLinkClientOptions
  | .setHost host => options.setHost host
  | .setPort port => .ok (options.setPort port)
  | .setName name => options.setName name
  | .setMiniSEEDRecordSize size => options.setMiniSEEDRecordSize size
  | .setMaximumInternalQueueSize queueSize => options.setMaximumInternalQueueSize queueSize
  | .writeMiniSEED3 enable =>
    .ok (if enable then options.enableWriteMiniSEED3 else options.disableWriteMiniSEED3)
  | .flushPackets enable => .ok (if enable then options.enablePacketFlushing else options.disablePacketFlushing)

/-- The setters check what they are given before they change the options. -/
theorem call_eq_attempt (options : DataLinkClientOptions) (c : Call) :
    objects.call options c = attempt options (options.outcome c) := by
  cases c with
  | setHost host =>
    show perform options (setHostTo host) = attempt options (options.setHost host)
    rw [setHostTo, setHost]
    exact perform_check fun _ => perform_check fun _ => rfl
  | setName name =>
    show perform options (setNameTo name) = attempt options (options.setName name)
    rw [setNameTo, setName]
    exact perform_check fun _ => rfl
  | setMiniSEEDRecordSize size =>
    show perform options (setMiniSEEDRecordSizeTo size) = attempt options (options.setMiniSEEDRecordSize size)
    rw [setMiniSEEDRecordSizeTo, setMiniSEEDRecordSize]
    exact perform_check fun _ => rfl
  | setMaximumInternalQueueSize queueSize =>
    show perform options (setMaximumInternalQueueSizeTo queueSize) =
      attempt options (options.setMaximumInternalQueueSize queueSize)
    rw [setMaximumInternalQueueSizeTo, setMaximumInternalQueueSize]
    exact perform_check fun _ => rfl
  | setPort port => rfl
  | writeMiniSEED3 enable | flushPackets enable => rfl

theorem keeps_valid : objects.Keeps Valid where
  make := by
    intro _ options hmake
    obtain rfl := Except.ok.inj hmake
    exact valid_default
  call := by
    intro options call h
    rw [call_eq_attempt]
    refine attempt_keeps (I := Valid) h fun options' hset => ?_
    cases call with
    | setHost host =>
      obtain ⟨⟨hnonempty, hlength⟩, rfl⟩ := setHost_eq_ok_iff.mp hset
      exact ⟨hostName_normalizeHost hnonempty hlength, h.name, h.recordSize, h.queueSize⟩
    | setPort port =>
      obtain rfl := Except.ok.inj hset
      exact ⟨h.host, h.name, h.recordSize, h.queueSize⟩
    | setName name =>
      obtain ⟨hnonempty, rfl⟩ := setName_eq_ok_iff.mp hset
      exact ⟨h.host, shortenName_valid hnonempty, h.recordSize, h.queueSize⟩
    | setMiniSEEDRecordSize size =>
      obtain ⟨hsize, rfl⟩ := setMiniSEEDRecordSize_eq_ok_iff.mp hset
      exact ⟨h.host, h.name, hsize, h.queueSize⟩
    | setMaximumInternalQueueSize queueSize =>
      obtain ⟨hsize, rfl⟩ := setMaximumInternalQueueSize_eq_ok_iff.mp hset
      exact ⟨h.host, h.name, h.recordSize, hsize⟩
    | writeMiniSEED3 enable | flushPackets enable =>
      obtain rfl := Except.ok.inj hset
      cases enable <;> exact ⟨h.host, h.name, h.recordSize, h.queueSize⟩

/-! What each call sets, if it sets anything. -/

def Call.setsHost : Call → Option Str
  | .setHost host =>
    if normalizeHost host ≠ [] ∧ (normalizeHost host).length < 100 then some (normalizeHost host) else none
  | _ => none

def Call.setsPort : Call → Option UInt16
  | .setPort port => some port
  | _ => none

def Call.setsName : Call → Option Str
  | .setName name => if name ≠ [] then some (shortenName name) else none
  | _ => none

def Call.setsRecordSize : Call → Option Int32
  | .setMiniSEEDRecordSize size => if size < 1 ∨ size > 512 then none else some size
  | _ => none

def Call.setsQueueSize : Call → Option Int32
  | .setMaximumInternalQueueSize queueSize => if queueSize ≤ 0 then none else some queueSize
  | _ => none

def Call.setsWriteMiniSEED3 : Call → Option Bool
  | .writeMiniSEED3 enable => some enable
  | _ => none

def Call.setsFlushPackets : Call → Option Bool
  | .flushPackets enable => some enable
  | _ => none

/-- A call is refused by setting nothing at all. -/
def Call.sets (call : Call) (options : DataLinkClientOptions) : DataLinkClientOptions where
  mHost := call.setsHost.getD options.mHost
  mName := call.setsName.getD options.mName
  mMaximumInternalQueueSize := call.setsQueueSize.getD options.mMaximumInternalQueueSize
  mMiniSEEDRecordSize := call.setsRecordSize.getD options.mMiniSEEDRecordSize
  mPort := call.setsPort.getD options.mPort
  mWriteMiniSEED3 := call.setsWriteMiniSEED3.getD options.mWriteMiniSEED3
  mFlushPackets := call.setsFlushPackets.getD options.mFlushPackets

theorem call_fst (options : DataLinkClientOptions) (call : Call) :
    (objects.call options call).1 = call.sets options := by
  rw [call_eq_attempt]
  cases call with
  | setHost host =>
    rw [outcome]
    cases hset : options.setHost host with
    | ok options' =>
      obtain ⟨haccepted, rfl⟩ := setHost_eq_ok_iff.mp hset
      rw [Call.sets, Call.setsHost, if_pos haccepted]
      rfl
    | error e =>
      have hrefused : ¬ (normalizeHost host ≠ [] ∧ (normalizeHost host).length < 100) := by
        intro haccepted
        rw [setHost_eq_ok_iff.mpr ⟨haccepted, rfl⟩] at hset
        cases hset
      rw [Call.sets, Call.setsHost, if_neg hrefused]
      rfl
  | setName name => cases name <;> rfl
  | setMiniSEEDRecordSize size =>
    rw [outcome, setMiniSEEDRecordSize, Call.sets, Call.setsRecordSize]
    split <;> rfl
  | setMaximumInternalQueueSize queueSize =>
    rw [outcome, setMaximumInternalQueueSize, Call.sets, Call.setsQueueSize]
    split <;> rfl
  | setPort port => rfl
  | writeMiniSEED3 enable | flushPackets enable => cases enable <;> rfl

/-- The options with the last values that the calls have set. -/
def lastValues (options : DataLinkClientOptions) (calls : List Call) : DataLinkClientOptions where
  mHost := (Class.lastSet Call.setsHost calls).getD options.mHost
  mName := (Class.lastSet Call.setsName calls).getD options.mName
  mMaximumInternalQueueSize :=
    (Class.lastSet Call.setsQueueSize calls).getD options.mMaximumInternalQueueSize
  mMiniSEEDRecordSize := (Class.lastSet Call.setsRecordSize calls).getD options.mMiniSEEDRecordSize
  mPort := (Class.lastSet Call.setsPort calls).getD options.mPort
  mWriteMiniSEED3 := (Class.lastSet Call.setsWriteMiniSEED3 calls).getD options.mWriteMiniSEED3
  mFlushPackets := (Class.lastSet Call.setsFlushPackets calls).getD options.mFlushPackets

theorem after_eq_lastValues (options : DataLinkClientOptions) (calls : List Call) :
    objects.after options calls = options.lastValues calls := by
  have hregister {β : Type} {register : DataLinkClientOptions → β} {set : Call → Option β}
      (hsets : ∀ options call, register (call.sets options) = (set call).getD (register options)) :
      register (objects.after options calls) = (Class.lastSet set calls).getD (register options) := by
    refine Class.register_after register (fun options call => ?_) options calls
    rw [call_fst, hsets]
  have hhost := @hregister _ mHost Call.setsHost fun _ _ => rfl
  have hname := @hregister _ mName Call.setsName fun _ _ => rfl
  have hqueueSize := @hregister _ mMaximumInternalQueueSize Call.setsQueueSize fun _ _ => rfl
  have hrecordSize := @hregister _ mMiniSEEDRecordSize Call.setsRecordSize fun _ _ => rfl
  have hport := @hregister _ mPort Call.setsPort fun _ _ => rfl
  have hwrite := @hregister _ mWriteMiniSEED3 Call.setsWriteMiniSEED3 fun _ _ => rfl
  have hflush := @hregister _ mFlushPackets Call.setsFlushPackets fun _ _ => rfl
  rw [lastValues, ← hhost, ← hname, ← hqueueSize, ← hrecordSize, ← hport, ← hwrite, ← hflush]

theorem call_error {options : DataLinkClientOptions} {c : Call} {e : Exception}
    (h : (objects.call options c).2 = .error e) : (objects.call options c).1 = options := by
  rw [call_eq_attempt] at h ⊢
  exact attempt_error h

/-- **Options are valid registers**: whatever a client has called, copied, moved and assigned, the options it
holds have a host and a name that libdali takes, a record size of the packer and room for a packet. After more
calls they have the last values that were set, and a call that throws changes nothing. -/
theorem options_are_registers {Var : Type} [DecidableEq Var] (s : Var → Option DataLinkClientOptions)
    (hreached : Machine.Reaches objects.next (fun _ => none) s) (x : Var) (options : DataLinkClientOptions)
    (hx : s x = some options) :
    options.Valid ∧ 1 ≤ options.forWriter.mMaximumInternalQueueSize ∧
      (∀ calls, objects.after options calls = options.lastValues calls) ∧
      ∀ c e, (objects.call options c).2 = .error e → (objects.call options c).1 = options := by
  have hvalid : options.Valid := keeps_valid.live hreached hx
  refine ⟨hvalid, ?_, after_eq_lastValues options, fun c e => call_error⟩
  have hqueueSize := hvalid.queueSize
  show 1 ≤ options.getMaximumInternalQueueSize.toInt.toNat
  omega

/-- A host in capital letters, a copy that refuses a record size, and one it is moved to. -/
def knownCommands : List (Command Bool Unit Call) :=
  [.make true (), .call true (.setHost "Ring Server".toList), .copy false true,
    .call false (.setMiniSEEDRecordSize 513), .move true false]

theorem options_are_registers_known :
    ∃ s options, Machine.exec objects.next (fun _ => none) knownCommands = some s ∧ s true = some options ∧
      s false = none ∧ options.getHost = "ringserver".toList ∧ options.Valid := by
  have hruns : (Machine.exec objects.next (fun _ => none) knownCommands).map
      (fun s => ((s true).map (·.getHost), (s false).isNone)) = some (some "ringserver".toList, true) := by
    decide +kernel
  obtain ⟨s, hrun, hheld⟩ := Option.map_eq_some_iff.mp hruns
  obtain ⟨htrue, hfalse⟩ := Prod.mk.inj hheld
  obtain ⟨options, hoptions, hhost⟩ := Option.map_eq_some_iff.mp htrue
  exact ⟨s, options, hrun, hoptions, Option.isNone_iff_eq_none.mp hfalse, hhost,
    (options_are_registers s ⟨_, hrun⟩ true options hoptions).1⟩

end DataLinkClientOptions

end USEEDLinkToRingServer
