import USEEDLinkToRingServer.Standard

/-!
# libmseed

The miniSEED library is not part of the repository. Its functions are parameters, and what its
documentation promises about them is stated here once, as named properties that results assume when
they need them.
-/

namespace USEEDLinkToRingServer

abbrev Bytes := List UInt8

/-! ### Samples -/

/-- The element types a packet or a record can hold. -/
inductive SampleType
  | integer32
  | float
  | double
  | text
deriving DecidableEq, Repr

/-- The values of an element type. Floats and doubles are their exact values. -/
abbrev SampleType.Value : SampleType → Type
  | .integer32 => Int32
  | .float => ℚ
  | .double => ℚ
  | .text => Char

instance : (u : SampleType) → DecidableEq u.Value
  | .integer32 => inferInstanceAs (DecidableEq Int32)
  | .float => inferInstanceAs (DecidableEq ℚ)
  | .double => inferInstanceAs (DecidableEq ℚ)
  | .text => inferInstanceAs (DecidableEq Char)

/-- libmseed's letter for an element type. -/
def SampleType.code : SampleType → Char
  | .integer32 => 'i'
  | .float => 'f'
  | .double => 'd'
  | .text => 't'

/-- A `void *` to an array of samples, with the array. -/
inductive Samples
  | null
  | of (u : SampleType) (values : List u.Value)
deriving DecidableEq

/-- `reinterpret_cast<const U *>` of the pointer. Reading the samples as another type than the one
they have is outside what libmseed's sample types allow, and gives no samples here. -/
def Samples.as (u : SampleType) : Samples → Option (List u.Value)
  | .null => none
  | .of v values => if h : v = u then some (h ▸ values) else some []

@[simp] theorem Samples.as_of (u : SampleType) (values : List u.Value) :
    (Samples.of u values).as u = some values := by
  simp [Samples.as]

/-! ### Records -/

inductive Encoding
  | text
  | int32
  | float32
  | float64
  | steim1
  | steim2
deriving DecidableEq, Repr

/-- The fields of `MS3Record` the program reads or sets, with the values of its initializer. -/
structure MS3Record where
  sid : Str := []
  reclen : Int := -1
  starttime : Int64 := Int64.minValue
  samprate : ℚ := 0
  encoding : Option Encoding := none
  pubversion : Nat := 0
  samplecnt : Int := -1
  datasamples : Samples := .null
  numsamples : Int := 0
  sampletype : Char := '\x00'
deriving DecidableEq

/-- The record holds these samples. -/
def MS3Record.HasSamples (record : MS3Record) (u : SampleType) (values : List u.Value) : Prop :=
  values ≠ [] ∧ record.sampletype = u.code ∧ record.datasamples = .of u values ∧
    record.numsamples = values.length

/-- The four codes a source identifier is made of. -/
structure Nslc where
  network : Str
  station : Str
  location : Str
  channel : Str
deriving DecidableEq, Repr

structure ParseResult where
  returnCode : Int
  record : Option MS3Record

def MS_NOERROR : Int := 0

/-- The flags of a packing call that vary. -/
structure PackFlags where
  flushData : Bool
  packVer2 : Bool
deriving DecidableEq, Repr

/-- What a packing call does: the records it gives to its callback, in order, the value it returns
and the number of samples it reports. -/
structure PackResult where
  records : List Bytes
  returnValue : Int
  packedSamples : Int

structure Libmseed where
  MINRECLEN : Nat
  /-- Parses the record at the start of the bytes offered, with or without its samples. -/
  msr3Parse : Bytes → (unpackData : Bool) → ParseResult
  msr3Endtime : MS3Record → Int64
  /-- The codes in a source identifier, or nothing for an error. -/
  msSid2nslc : Str → Option Nslc
  /-- The source identifier of four codes, or nothing for a length below one. -/
  msNslc2sid : Nslc → Option Str
  msr3Pack : MS3Record → PackFlags → PackResult

namespace Libmseed

variable (lib : Libmseed)

/-- A parsed record is at least as long as the shortest record and lies in the bytes offered. -/
structure ReportsLength : Prop where
  minRecLen_pos : 0 < lib.MINRECLEN
  bounds : ∀ bytes unpackData record,
    lib.msr3Parse bytes unpackData = ⟨MS_NOERROR, some record⟩ →
      (lib.MINRECLEN : Int) ≤ record.reclen ∧ record.reclen ≤ bytes.length

/-- Making and splitting source identifiers are inverse to each other. -/
def NamesInvert : Prop :=
  ∀ nslc sid, lib.msNslc2sid nslc = some sid ↔ lib.msSid2nslc sid = some nslc

/-- The sampling rate a record comes back with. MiniSEED 3 stores a rate below one sample per second
as a period, which is reported with a negative sign. -/
def storedRate (packVer2 : Bool) (rate : ℚ) : ℚ :=
  if packVer2 = false ∧ rate < 1 then -1 / rate else rate

/-- The record that `bytes` parse to describes `values` of the packed record. -/
structure Holds (packed : MS3Record) (flags : PackFlags) {u : SampleType} (bytes : Bytes)
    (values : List u.Value) : Prop where
  nonempty : values ≠ []
  minRecLen_lt : lib.MINRECLEN < bytes.length
  length_lt : bytes.length < 2 ^ 31
  parses : ∃ record, lib.msr3Parse bytes true = ⟨MS_NOERROR, some record⟩ ∧
    record.reclen = bytes.length ∧ record.sid = packed.sid ∧
    record.samprate = storedRate flags.packVer2 packed.samprate ∧
    record.sampletype = u.code ∧ record.datasamples = .of u values ∧
    record.numsamples = values.length

end Libmseed

end USEEDLinkToRingServer
