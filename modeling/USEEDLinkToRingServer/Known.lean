import USEEDLinkToRingServer.Libslink
import USEEDLinkToRingServer.Packet

/-!
# A libmseed that knows one record

What is assumed of libmseed is true of a library that behaves as the real one does on a single record
and on a table of stream names, and reports an error for everything else.
-/

namespace USEEDLinkToRingServer

structure KnownRecord where
  bytes : Bytes
  record : MS3Record

/-- Whether a packer given this description would make the record. -/
def KnownRecord.describedBy (known : KnownRecord) (packed : MS3Record) : Bool :=
  packed.sid == known.record.sid && packed.samprate == known.record.samprate &&
    packed.starttime == known.record.starttime && packed.numsamples == known.record.numsamples &&
    packed.sampletype == known.record.sampletype && packed.datasamples == known.record.datasamples

/-- The record is one that libmseed could have made of these samples. -/
structure KnownRecord.WellFormed (known : KnownRecord) (u : SampleType) (values : List u.Value) :
    Prop where
  minRecLen_lt : 40 < known.bytes.length
  length_lt : known.bytes.length < 2 ^ 31
  reclen : known.record.reclen = known.bytes.length
  rate : 1 ≤ known.record.samprate
  samples : known.record.HasSamples u values

namespace Libmseed

def knowing (known : KnownRecord) (names : List (Nslc × Str)) : Libmseed where
  MINRECLEN := 40
  msr3Parse bytes unpackData :=
    if known.bytes.isPrefixOf bytes then
      ⟨MS_NOERROR, some (if unpackData then known.record
        else { known.record with datasamples := .null, numsamples := 0 })⟩
    else ⟨-1, none⟩
  msr3Endtime record := record.starttime
  msSid2nslc sid := (names.find? (·.2 == sid)).map (·.1)
  msNslc2sid nslc := (names.find? (·.1 == nslc)).map (·.2)
  msr3Pack packed flags :=
    if flags.packVer2 = false ∧ known.describedBy packed = true then
      ⟨[known.bytes], 1, packed.numsamples⟩
    else ⟨[], -1, 0⟩

variable {known : KnownRecord} {names : List (Nslc × Str)} {u : SampleType} {values : List u.Value}

theorem knowing_parse (rest : Bytes) :
    (knowing known names).msr3Parse (known.bytes ++ rest) true = ⟨MS_NOERROR, some known.record⟩ := by
  have hstarts : known.bytes.isPrefixOf (known.bytes ++ rest) = true :=
    List.isPrefixOf_iff_prefix.mpr (List.prefix_append _ _)
  simp only [knowing, hstarts, if_true]

theorem knowing_reportsLength (h : known.WellFormed u values) :
    (knowing known names).ReportsLength where
  minRecLen_pos := Nat.succ_pos 39
  bounds := by
    intro bytes unpackData record hparse
    simp only [knowing] at hparse ⊢
    split at hparse
    · next hstarts =>
      have hle := (List.isPrefixOf_iff_prefix.mp hstarts).length_le
      have hreclen : record.reclen = known.bytes.length := by
        rw [← h.reclen, ← Option.some.inj (ParseResult.mk.inj hparse).2]
        split <;> rfl
      have := h.minRecLen_lt
      omega
    · cases hparse

theorem find?_eq_some_iff_of_nodup {α β : Type*} [BEq α] [LawfulBEq α] (f : β → α) {entries : List β}
    (hnodup : (entries.map f).Nodup) (key : α) (entry : β) :
    entries.find? (f · == key) = some entry ↔ entry ∈ entries ∧ f entry = key := by
  induction entries with
  | nil => simp
  | cons first rest ih =>
    obtain ⟨hfirst, hrest⟩ := List.nodup_cons.mp hnodup
    by_cases hkey : f first = key
    · have hnot : ∀ e ∈ rest, f e ≠ key :=
        fun e he heq => hfirst (List.mem_map.mpr ⟨e, he, heq.trans hkey.symm⟩)
      simp only [List.find?_cons, hkey, beq_self_eq_true, Option.some.injEq, List.mem_cons]
      constructor
      · rintro rfl
        exact ⟨Or.inl rfl, hkey⟩
      · rintro ⟨rfl | hmem, heq⟩
        · rfl
        · exact absurd heq (hnot entry hmem)
    · rw [List.find?_cons_of_neg (by simpa using hkey), ih hrest, List.mem_cons]
      constructor
      · rintro ⟨hmem, heq⟩
        exact ⟨Or.inr hmem, heq⟩
      · rintro ⟨rfl | hmem, heq⟩
        · exact absurd heq hkey
        · exact ⟨hmem, heq⟩

theorem knowing_namesInvert (hfst : (names.map (·.1)).Nodup) (hsnd : (names.map (·.2)).Nodup) :
    (knowing known names).NamesInvert := by
  intro nslc sid
  simp only [knowing, Option.map_eq_some_iff, find?_eq_some_iff_of_nodup _ hfst,
    find?_eq_some_iff_of_nodup _ hsnd]
  constructor
  · rintro ⟨entry, ⟨hmem, rfl⟩, rfl⟩
    exact ⟨entry, ⟨hmem, rfl⟩, rfl⟩
  · rintro ⟨entry, ⟨hmem, rfl⟩, rfl⟩
    exact ⟨entry, ⟨hmem, rfl⟩, rfl⟩

theorem describedBy_eq {packed : MS3Record} (h : known.describedBy packed = true) :
    packed.sid = known.record.sid ∧ packed.samprate = known.record.samprate ∧
      packed.numsamples = known.record.numsamples ∧
      packed.sampletype = known.record.sampletype ∧
      packed.datasamples = known.record.datasamples := by
  simp only [KnownRecord.describedBy, Bool.and_eq_true, beq_iff_eq] at h
  obtain ⟨⟨⟨⟨⟨hsid, hrate⟩, _⟩, hnum⟩, htype⟩, hdata⟩ := h
  exact ⟨hsid, hrate, hnum, htype, hdata⟩

end Libmseed

namespace Libraries

/-- A libslink whose saves succeed. -/
def knowing (known : KnownRecord) (names : List (Nslc × Str)) : Libraries where
  toLibmseed := .knowing known names
  slSavestate collected _ := some collected

theorem knowing_savesState {known : KnownRecord} {names : List (Nslc × Str)} :
    (knowing known names).SavesState :=
  fun _ _ => rfl

end Libraries

/-! ### One record

A miniSEED 3 record of station FTU with one sample, one nanosecond after a full second. -/

def knownNames : List (Nslc × Str) :=
  [(⟨['U', 'U'], ['F', 'T', 'U'], ['0', '1'], ['H', 'H', 'N']⟩,
      ['F', 'D', 'S', 'N', ':', 'U', 'U', '_', 'F', 'T', 'U', '_', '0', '1', '_', 'H', '_', 'H', '_', 'N']),
    (⟨['U', 'U'], ['F', 'T', 'U'], [], ['H', 'H', 'N']⟩,
      ['F', 'D', 'S', 'N', ':', 'U', 'U', '_', 'F', 'T', 'U', '_', '_', 'H', '_', 'H', '_', 'N']),
    (⟨['U', 'U'], ['F', 'T', 'U'], ['-', '-'], ['H', 'H', 'N']⟩,
      ['F', 'D', 'S', 'N', ':', 'U', 'U', '_', 'F', 'T', 'U', '_', '-', '-', '_', 'H', '_', 'H', '_', 'N'])]

def knownRecord : KnownRecord where
  bytes :=
    [77, 83, 3, 0, 1, 0, 0, 0, 233, 7, 25, 1, 19, 48, 7, 3, 0, 0, 0, 0, 0, 0, 89, 64, 1, 0, 0, 0,
      126, 214, 204, 166, 1, 20, 0, 0, 4, 0, 0, 0, 70, 68, 83, 78, 58, 85, 85, 95, 70, 84, 85, 95,
      48, 49, 95, 72, 95, 72, 95, 78, 5, 0, 0, 0]
  record :=
    { sid := ['F', 'D', 'S', 'N', ':', 'U', 'U', '_', 'F', 'T', 'U', '_', '0', '1', '_', 'H', '_', 'H', '_', 'N']
      reclen := 64
      starttime := 1759952887000000001
      samprate := 100
      encoding := some .int32
      pubversion := 1
      samplecnt := 1
      datasamples := .of .integer32 [5]
      numsamples := 1
      sampletype := 'i' }

/-- The same record on the full second. -/
def knownRecordOnSecond : KnownRecord where
  bytes :=
    [77, 83, 3, 0, 0, 0, 0, 0, 233, 7, 25, 1, 19, 48, 7, 3, 0, 0, 0, 0, 0, 0, 89, 64, 1, 0, 0, 0,
      37, 114, 119, 211, 1, 20, 0, 0, 4, 0, 0, 0, 70, 68, 83, 78, 58, 85, 85, 95, 70, 84, 85, 95,
      48, 49, 95, 72, 95, 72, 95, 78, 5, 0, 0, 0]
  record := { knownRecord.record with starttime := 1759952887000000000 }

/-- The same record without a location code. -/
def knownRecordNoLocation : KnownRecord where
  bytes :=
    [77, 83, 3, 0, 1, 0, 0, 0, 233, 7, 25, 1, 19, 48, 7, 3, 0, 0, 0, 0, 0, 0, 89, 64, 1, 0, 0, 0,
      128, 220, 77, 105, 1, 18, 0, 0, 4, 0, 0, 0, 70, 68, 83, 78, 58, 85, 85, 95, 70, 84, 85, 95, 95,
      72, 95, 72, 95, 78, 5, 0, 0, 0]
  record :=
    { knownRecord.record with
      sid := ['F', 'D', 'S', 'N', ':', 'U', 'U', '_', 'F', 'T', 'U', '_', '_', 'H', '_', 'H', '_', 'N']
      reclen := 62 }

theorem knownRecord_wellFormed : knownRecord.WellFormed .integer32 [5] where
  minRecLen_lt := by decide
  length_lt := by decide
  reclen := by decide
  rate := by norm_num [knownRecord]
  samples := ⟨by decide, rfl, rfl, rfl⟩

/-- A packet of the known station with the start time of the known record. -/
def knownPacket (u : SampleType) (values : List u.Value) : Packet where
  pImpl :=
    ({ mIdentifier :=
         ({ mNetwork := ['U', 'U']
            mStation := ['F', 'T', 'U']
            mChannel := ['H', 'H', 'N'] } : StreamIdentifier).setLocationCode ['0', '1']
       mStartTimeMicroSeconds := 1759952887000000001
       mSamplingRate := 100
       mHasIdentifier := true } : PacketImpl).setData u values

/-- The name of the known station's stream. -/
def knownName : Str := ['U', 'U', '.', 'F', 'T', 'U', '.', 'H', 'H', 'N', '.', '0', '1']

end USEEDLinkToRingServer
