import USEEDLinkToRingServer.ProgramOptions
import USEEDLinkToRingServer.ThreadTurns

/-!
# The configured writers

There is a writer for the section `DataLink` or, without one, for each of the numbered sections up to the first
that is missing. A configuration that is loaded has writers, and what the process is given lets it run.
-/

namespace USEEDLinkToRingServer

open Fallible

/-! ### One section -/

namespace DataLinkClientOptions

variable {options : DataLinkClientOptions}

theorem readWriteMiniSEED3 (b : Bool) :
    (if b then options.enableWriteMiniSEED3 else options.disableWriteMiniSEED3) =
      { options with mWriteMiniSEED3 := b } := by
  cases b <;> rfl

theorem readFlushPackets (b : Bool) :
    (if b then options.enablePacketFlushing else options.disablePacketFlushing) =
      { options with mFlushPackets := b } := by
  cases b <;> rfl

theorem shortenName_eq_take (name : Str) : shortenName name = name.take 199 := by
  rw [shortenName]
  split
  · rfl
  · rw [List.take_of_length_le (by omega)]

end DataLinkClientOptions

namespace Section

variable {s : Section} {name : Str} {options : DataLinkClientOptions}

theorem getDataLinkOptions_eq_ok_iff :
    s.getDataLinkOptions name = .ok options ↔ s.WriterAccepted name ∧ s.loadedWriter name = options := by
  simp only [getDataLinkOptions, bind_eq_ok_iff, DataLinkClientOptions.setHost_eq_ok_iff,
    DataLinkClientOptions.setName_eq_ok_iff, DataLinkClientOptions.readWriteMiniSEED3,
    DataLinkClientOptions.readFlushPackets, ite_error_eq_ok_iff, DataLinkClientOptions.recordSize_iff,
    DataLinkClientOptions.setMiniSEEDRecordSize_eq_ok_iff]
  constructor
  · rintro ⟨_, ⟨hhost, rfl⟩, _, ⟨hname, rfl⟩, hsize, _, rfl⟩
    exact ⟨⟨hhost, hname, hsize⟩, rfl⟩
  · rintro ⟨⟨hhost, hname, hsize⟩, rfl⟩
    exact ⟨_, ⟨hhost, rfl⟩, _, ⟨hname, rfl⟩, hsize, hsize, rfl⟩

/-- What is loaded is what an options object can hold. -/
theorem WriterAccepted.valid (h : s.WriterAccepted name) : (s.loadedWriter name).Valid where
  host := DataLinkClientOptions.hostName_normalizeHost h.host.1 h.host.2
  name := DataLinkClientOptions.shortenName_valid h.name
  recordSize := h.recordSize
  queueSize := by
    show (0 : Int) < (8192 : Int32).toInt
    decide

end Section

/-! ### All sections -/

namespace IniFile

variable {ini : IniFile} {propertyTree : PropertyTree}

/-- The numbered sections with a host, up to the first without one. -/
def numbers (propertyTree : PropertyTree) (i rounds : Nat) : List Nat :=
  (List.range' i rounds).takeWhile fun i => (propertyTree.data (numberedSection i ++ ".host".toList)).isSome

/-- The name of a numbered writer that has none of its own. -/
def numberedName (applicationName : Str) (i : Nat) : Str :=
  applicationName ++ "-DALIWriter-".toList ++ (Nat.repr i).toList

/-- The sections that are read as writers, each with the name that it has by default. -/
def writerSections (propertyTree : PropertyTree) (applicationName : Str) : List (Str × Str) :=
  if (propertyTree.data "DataLink.host".toList).isSome then
    [("DataLink".toList, applicationName ++ "-DALIWriter".toList)]
  else
    (numbers propertyTree 1 (MAX_CLIENTS - 1)).map fun i => (numberedSection i, numberedName applicationName i)

/-- What a section says of a writer. -/
def loadedWriter (ini : IniFile) (propertyTree : PropertyTree) (entry : Str × Str) : DataLinkClientOptions :=
  (ini.sectionOf propertyTree entry.1).loadedWriter entry.2

def WriterAccepted (ini : IniFile) (propertyTree : PropertyTree) (entry : Str × Str) : Prop :=
  (ini.sectionOf propertyTree entry.1).WriterAccepted entry.2

/-- The loop reads the sections up to the first that is missing. -/
theorem parseNumbered_eq_ok_iff {applicationName : Str} {rounds i : Nat} {before all : List DataLinkClientOptions} :
    ini.parseNumbered propertyTree applicationName rounds i before = .ok all ↔
      ∃ new, (numbers propertyTree i rounds).mapM (fun i =>
          (ini.sectionOf propertyTree (numberedSection i)).getDataLinkOptions (numberedName applicationName i)) =
            .ok new ∧
        before ++ new = all := by
  induction rounds generalizing i before with
  | zero =>
    rw [parseNumbered, Except.ok.injEq]
    simp [numbers, pure_eq_ok_iff]
  | succ rounds ih =>
    have hkey : (ini.sectionOf propertyTree (numberedSection i)).key "host" =
        numberedSection i ++ ".host".toList := rfl
    rw [parseNumbered, numbers, List.range'_succ, List.takeWhile_cons]
    dsimp only
    rw [hkey]
    cases hpresent : (propertyTree.data (numberedSection i ++ ".host".toList)).isSome with
    | false =>
      simp [pure_eq_ok_iff]
    | true =>
      simp only [if_true, bind_eq_ok_iff, mapM_cons_eq_ok_iff, ih]
      constructor
      · rintro ⟨options, hread, new, hreads, rfl⟩
        exact ⟨options :: new, ⟨options, new, hread, hreads, rfl⟩, by simp⟩
      · rintro ⟨_, ⟨options, new, hread, hreads, rfl⟩, rfl⟩
        exact ⟨options, hread, new, hreads, by simp⟩

theorem getDataLinkOptions_eq_ok_iff {entry : Str × Str} {options : DataLinkClientOptions} :
    (ini.sectionOf propertyTree entry.1).getDataLinkOptions entry.2 = .ok options ↔
      ini.WriterAccepted propertyTree entry ∧ ini.loadedWriter propertyTree entry = options :=
  Section.getDataLinkOptions_eq_ok_iff

theorem parseWriters_eq_ok_iff {applicationName : Str} {writers : List DataLinkClientOptions} :
    ini.parseWriters propertyTree applicationName = .ok writers ↔
      (∀ entry ∈ writerSections propertyTree applicationName, ini.WriterAccepted propertyTree entry) ∧
        (writerSections propertyTree applicationName).map (ini.loadedWriter propertyTree) = writers := by
  have hkey : (ini.sectionOf propertyTree "DataLink".toList).key "host" = "DataLink.host".toList := rfl
  rw [← mapM_eq_ok_iff_of fun entry _ writer => getDataLinkOptions_eq_ok_iff, parseWriters, writerSections]
  dsimp only
  rw [hkey]
  split
  · simp only [map_eq_ok_iff, mapM_cons_eq_ok_iff, mapM_nil_eq_ok_iff]
    constructor
    · rintro ⟨options, hread, rfl⟩
      exact ⟨options, [], hread, rfl, rfl⟩
    · rintro ⟨options, _, hread, rfl, rfl⟩
      exact ⟨options, hread, rfl⟩
  · rw [parseNumbered_eq_ok_iff]
    simp only [List.nil_append, exists_eq_right, List.mapM_map]
    exact Iff.rfl

/-- The writers are those of the sections that are read, and there is at least one. -/
theorem parseDataLink_eq_ok_iff {options options' : ProgramOptions} :
    ini.parseDataLink propertyTree options = .ok options' ↔
      writerSections propertyTree options.applicationName ≠ [] ∧
        (∀ entry ∈ writerSections propertyTree options.applicationName, ini.WriterAccepted propertyTree entry) ∧
        { options with
          dataLinkClientOptions :=
            (writerSections propertyTree options.applicationName).map (ini.loadedWriter propertyTree) } =
          options' := by
  simp only [parseDataLink, bind_eq_ok_iff, parseWriters_eq_ok_iff, ite_error_eq_ok_iff, pure_eq_ok_iff]
  constructor
  · rintro ⟨_, ⟨haccepted, rfl⟩, hsome, rfl⟩
    exact ⟨by simpa using hsome, haccepted, rfl⟩
  · rintro ⟨hsome, haccepted, rfl⟩
    exact ⟨_, ⟨haccepted, rfl⟩, by simpa using hsome, rfl⟩

end IniFile

end USEEDLinkToRingServer
