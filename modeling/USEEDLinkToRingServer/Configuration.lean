import USEEDLinkToRingServer.ConfiguredExporters
import USEEDLinkToRingServer.ConfiguredWriters

/-!
# Loading the configuration

When an initialization file is loaded, and what the exporters, the writers and the process are then given.
-/

namespace USEEDLinkToRingServer

open Fallible

/-- What the process is constructed with. -/
def ProgramOptions.forProcess (options : ProgramOptions) :
    ProcessOptions options.dataLinkClientOptions.length where
  seedLink := options.seedLinkClientOptions.forClient
  dataLink client := (options.dataLinkClientOptions.get client).forWriter
  importQueueSize := options.importQueueSize.toInt.toNat

namespace IniFile

variable {ini : IniFile} {propertyTree : PropertyTree} {options options' : ProgramOptions}

/-! ### The whole file -/

/-- The name of the application. -/
def applicationName (ini : IniFile) (propertyTree : PropertyTree) : Str :=
  (ini.parseGeneral propertyTree {}).applicationName

/-- The section of the reader, if it has a host, can be loaded. -/
def ReaderAccepted (ini : IniFile) (propertyTree : PropertyTree) : Prop :=
  (propertyTree.data "SEEDLinkReader.host".toList).isSome = true →
    (ini.sectionOf propertyTree "SEEDLinkReader".toList).Loadable

/-- There are sections of writers, and all of them can be read. -/
def WritersAccepted (ini : IniFile) (propertyTree : PropertyTree) : Prop :=
  writerSections propertyTree (ini.applicationName propertyTree) ≠ [] ∧
    ∀ entry ∈ writerSections propertyTree (ini.applicationName propertyTree), ini.WriterAccepted propertyTree entry

/-- What the sections of a file that is there say. -/
structure Configures (ini : IniFile) (propertyTree : PropertyTree) (options : ProgramOptions) : Prop where
  applicationName : options.applicationName = ini.applicationName propertyTree
  writers : options.dataLinkClientOptions =
    (writerSections propertyTree options.applicationName).map (ini.loadedWriter propertyTree)
  importQueueSize : options.importQueueSize = 8192
  exportsMetrics : ini.ExportsMetrics options
  exportsLogs : ini.ExportsLogs options

theorem parseSEEDLink_eq_ok (h : ini.parseSEEDLink propertyTree options = .ok options') :
    ini.ReaderAccepted propertyTree ∧ ∃ seedLinkClientOptions, options' = { options with seedLinkClientOptions } := by
  have hkey : (ini.sectionOf propertyTree "SEEDLinkReader".toList).key "host" = "SEEDLinkReader.host".toList := rfl
  rw [parseSEEDLink, hkey] at h
  split at h
  · obtain ⟨seedLinkClientOptions, hload, rfl⟩ := map_eq_ok_iff.mp h
    exact ⟨fun _ => Section.loadable_iff.mpr ⟨_, hload⟩, _, rfl⟩
  · next hnone =>
    obtain rfl := Except.ok.inj h
    exact ⟨fun hsome => absurd hsome hnone, _, rfl⟩

theorem exists_parseSEEDLink (h : ini.ReaderAccepted propertyTree) (options : ProgramOptions) :
    ∃ options', ini.parseSEEDLink propertyTree options = .ok options' := by
  have hkey : (ini.sectionOf propertyTree "SEEDLinkReader".toList).key "host" = "SEEDLinkReader.host".toList := rfl
  rw [parseSEEDLink, hkey]
  split
  · next hsome =>
    obtain ⟨seedLinkClientOptions, hload⟩ := Section.loadable_iff.mp (h hsome)
    exact ⟨_, by rw [hload]; rfl⟩
  · exact ⟨_, rfl⟩

/-- A file that is not there leaves the defaults; one that is there is read section by section. -/
theorem parseIniFile_eq_ok_iff :
    ini.parseIniFile = .ok options ↔
      ini.files.pathExists ini.iniFile = .ok false ∧ {} = options ∨
        ini.files.pathExists ini.iniFile = .ok true ∧ ∃ propertyTree, ini.readIni = .ok propertyTree ∧
          ∃ metrics, ini.parseMetrics propertyTree (ini.parseGeneral propertyTree {}) = .ok metrics ∧
            ∃ logging, ini.parseLogging propertyTree metrics = .ok logging ∧
              ∃ writers, ini.parseDataLink propertyTree logging = .ok writers ∧
                ini.parseSEEDLink propertyTree writers = .ok options := by
  rw [parseIniFile]
  dsimp only
  rw [bind_eq_ok_iff]
  constructor
  · rintro ⟨present, hpresent, h⟩
    cases present with
    | false => exact .inl ⟨hpresent, pure_eq_ok_iff.mp h⟩
    | true =>
      simp only [Bool.not_true, Bool.false_eq_true, if_false, bind_eq_ok_iff] at h
      exact .inr ⟨hpresent, h⟩
  · rintro (⟨hpresent, rfl⟩ | ⟨hpresent, h⟩)
    · exact ⟨false, hpresent, rfl⟩
    · refine ⟨true, hpresent, ?_⟩
      simp only [Bool.not_true, Bool.false_eq_true, if_false, bind_eq_ok_iff]
      exact h

/-- What a file that is loaded configures. -/
theorem configures_of_parseIniFile (hpresent : ini.files.pathExists ini.iniFile = .ok true)
    (h : ini.parseIniFile = .ok options) :
    ∃ propertyTree, ini.readIni = .ok propertyTree ∧
      (ini.MetricsAccepted propertyTree ∧ ini.LoggingAccepted propertyTree ∧ ini.WritersAccepted propertyTree ∧
        ini.ReaderAccepted propertyTree) ∧ ini.Configures propertyTree options := by
  rcases parseIniFile_eq_ok_iff.mp h with ⟨habsent, _⟩ | ⟨_, propertyTree, hread, metrics, hmetrics, logging, hlogging,
    writers, hwriters, hseedLink⟩
  · cases hpresent.symm.trans habsent
  · obtain ⟨hmetricsAccepted, hexportsMetrics, http, grpc, exportMetrics, withHTTP, rfl⟩ :=
      parseMetrics_spec rfl hmetrics
    obtain ⟨hloggingAccepted, hexportsLogs, logHttp, logGrpc, exportLogs, logWithHTTP, rfl⟩ :=
      parseLogging_spec rfl hlogging
    obtain ⟨hsome, haccepted, rfl⟩ := parseDataLink_eq_ok_iff.mp hwriters
    obtain ⟨hreader, seedLinkClientOptions, rfl⟩ := parseSEEDLink_eq_ok hseedLink
    exact ⟨propertyTree, hread, ⟨hmetricsAccepted, hloggingAccepted, ⟨hsome, haccepted⟩, hreader⟩,
      ⟨rfl, rfl, rfl, hexportsMetrics, hexportsLogs⟩⟩

/-- **When a configuration is loaded**: if the file is not there, or if it can be read, each exporter that has a
section has positive times and is one that the program was built with, there are writers and each can be made
of its section, and the section of the reader can be loaded. -/
theorem loads_iff (ini : IniFile) :
    (∃ options, ini.parseIniFile = .ok options) ↔
      ini.files.pathExists ini.iniFile = .ok false ∨
        ini.files.pathExists ini.iniFile = .ok true ∧ ∃ propertyTree, ini.readIni = .ok propertyTree ∧
          ini.MetricsAccepted propertyTree ∧ ini.LoggingAccepted propertyTree ∧
          ini.WritersAccepted propertyTree ∧ ini.ReaderAccepted propertyTree := by
  constructor
  · rintro ⟨options, h⟩
    rcases parseIniFile_eq_ok_iff.mp h with ⟨habsent, _⟩ | ⟨hpresent, _⟩
    · exact .inl habsent
    · obtain ⟨propertyTree, hread, haccepted, _⟩ := configures_of_parseIniFile hpresent h
      exact .inr ⟨hpresent, propertyTree, hread, haccepted⟩
  · rintro (habsent | ⟨hpresent, propertyTree, hread, hmetrics, hlogging, ⟨hsome, hwriters⟩, hreader⟩)
    · exact ⟨{}, parseIniFile_eq_ok_iff.mpr (.inl ⟨habsent, rfl⟩)⟩
    · obtain ⟨metrics, hparseMetrics⟩ := exists_parseMetrics hmetrics (ini.parseGeneral propertyTree {})
      obtain ⟨logging, hparseLogging⟩ := exists_parseLogging hlogging metrics
      obtain ⟨_, _, http, grpc, exportMetrics, withHTTP, rfl⟩ := parseMetrics_spec rfl hparseMetrics
      obtain ⟨_, _, logHttp, logGrpc, exportLogs, logWithHTTP, rfl⟩ := parseLogging_spec rfl hparseLogging
      obtain ⟨options, hparseSEEDLink⟩ := exists_parseSEEDLink hreader _
      exact ⟨options, parseIniFile_eq_ok_iff.mpr (.inr ⟨hpresent, propertyTree, hread, _, hparseMetrics, _,
        hparseLogging, _, parseDataLink_eq_ok_iff.mpr ⟨hsome, hwriters, rfl⟩, hparseSEEDLink⟩)⟩

/-- Two writers, of which one has a port, an exporter of the metrics, and a gap before another section. -/
def knownEntries : List (Str × Str) :=
  [("OTelHTTPMetricsOptions".toList, []), ("OTelHTTPMetricsOptions.host".toList, "localhost".toList),
    ("OTelHTTPMetricsOptions.suffix".toList, "v1/metrics".toList),
    ("DataLink_1.host".toList, "ringserver".toList), ("DataLink_2.host".toList, "localhost".toList),
    ("DataLink_2.port".toList, "16001".toList), ("DataLink_4.host".toList, "backup".toList)]

def known : IniFile where
  boost := .known
  toInt64 s := (Boost.readInt s).map .ofInt
  files := ⟨fun _ => .ok true, fun _ => .ok false⟩
  iniFile := "slinkToRing.ini".toList
  readIni := .ok { data := fun path => knownEntries.lookup path }

/-- Sections are read without a gap. -/
theorem numbers_eq_range' (propertyTree : PropertyTree) (i rounds : Nat) :
    ∃ k ≤ rounds, numbers propertyTree i rounds = List.range' i k ∧
      (∀ j, i ≤ j → j < i + k → (propertyTree.data (numberedSection j ++ ".host".toList)).isSome = true) ∧
      (k = rounds ∨ propertyTree.data (numberedSection (i + k) ++ ".host".toList) = none) := by
  induction rounds generalizing i with
  | zero => exact ⟨0, le_refl 0, rfl, fun j hle hlt => absurd hle (not_le.mpr hlt), .inl rfl⟩
  | succ rounds ih =>
    rw [numbers, List.range'_succ, List.takeWhile_cons]
    cases hpresent : propertyTree.data (numberedSection i ++ ".host".toList) with
    | none => exact ⟨0, Nat.zero_le _, rfl, fun j hle hlt => absurd hle (not_le.mpr hlt), .inr hpresent⟩
    | some host =>
      obtain ⟨k, hk, heq, hpresents, hlast⟩ := ih (i + 1)
      refine ⟨k + 1, Nat.succ_le_succ hk, ?_, fun j hle hlt => ?_, ?_⟩
      · rw [List.range'_succ, ← heq]
        rfl
      · rcases Nat.eq_or_lt_of_le hle with rfl | hgt
        · rw [hpresent]
          rfl
        · exact hpresents j hgt (by omega)
      · refine hlast.imp (congrArg (· + 1)) fun hnone => ?_
        rwa [show i + (k + 1) = i + 1 + k by omega]

/-- The process has room for a packet in each of its queues. -/
theorem Configures.haveRoom (h : ini.Configures propertyTree options) (haccepted : ini.WritersAccepted propertyTree) :
    (∀ writer ∈ options.dataLinkClientOptions, writer.Valid) ∧ options.forProcess.HaveRoom := by
  have hvalid : ∀ writer ∈ options.dataLinkClientOptions, writer.Valid := by
    intro writer hwriter
    rw [h.writers, h.applicationName] at hwriter
    obtain ⟨entry, hentry, rfl⟩ := List.mem_map.mp hwriter
    exact (haccepted.2 entry hentry).valid
  refine ⟨hvalid, ?_, fun client => ?_⟩
  · show 1 ≤ options.importQueueSize.toInt.toNat
    rw [h.importQueueSize]
    decide
  · have hqueueSize := (hvalid _ (List.get_mem options.dataLinkClientOptions client)).queueSize
    show 1 ≤ (options.dataLinkClientOptions.get client).getMaximumInternalQueueSize.toInt.toNat
    omega

/-- Without a section `DataLink` there is a writer for each section `DataLink_1` to `DataLink_k`. -/
theorem Configures.numbered (h : ini.Configures propertyTree options) (haccepted : ini.WritersAccepted propertyTree)
    (hnone : propertyTree.data "DataLink.host".toList = none) :
    ∃ k, 0 < k ∧ k < MAX_CLIENTS ∧
      (∀ i, 1 ≤ i → i ≤ k → (propertyTree.data (numberedSection i ++ ".host".toList)).isSome = true) ∧
      (k + 1 = MAX_CLIENTS ∨ propertyTree.data (numberedSection (k + 1) ++ ".host".toList) = none) ∧
      options.dataLinkClientOptions = (List.range' 1 k).map fun i =>
        ini.loadedWriter propertyTree (numberedSection i, numberedName options.applicationName i) := by
  have hsome := haccepted.1
  have hsections (applicationName : Str) : writerSections propertyTree applicationName =
      (numbers propertyTree 1 (MAX_CLIENTS - 1)).map fun i =>
        (numberedSection i, numberedName applicationName i) := by
    rw [writerSections, hnone]
    rfl
  obtain ⟨k, hk, heq, hpresents, hlast⟩ := numbers_eq_range' propertyTree 1 (MAX_CLIENTS - 1)
  rw [hsections, heq] at hsome
  have hpos : 0 < k := by
    refine Nat.pos_of_ne_zero fun hzero => hsome ?_
    rw [hzero]
    rfl
  have hmax : MAX_CLIENTS = 32768 := rfl
  refine ⟨k, hpos, by omega, fun i hone hle => hpresents i hone (by omega), ?_, ?_⟩
  · rcases hlast with hlast | hlast
    · exact .inl (by omega)
    · rw [Nat.add_comm] at hlast
      exact .inr hlast
  · rw [h.writers, hsections, heq, List.map_map]
    rfl

/-- **The writers of a configuration.** A file that is there and is loaded gives one writer for the section
`DataLink` or, without it, one for each of the sections `DataLink_1`, `DataLink_2` and so on up to the first that
is missing, in this order and at least one. Each is what its section says, and the process has room for a packet
in each of its queues. -/
theorem writers_configured (ini : IniFile) (options : ProgramOptions)
    (hpresent : ini.files.pathExists ini.iniFile = .ok true) (h : ini.parseIniFile = .ok options) :
    ∃ propertyTree, ini.readIni = .ok propertyTree ∧
      ((propertyTree.data "DataLink.host".toList).isSome = true ∧
          options.dataLinkClientOptions = [ini.loadedWriter propertyTree
            ("DataLink".toList, options.applicationName ++ "-DALIWriter".toList)] ∨
        propertyTree.data "DataLink.host".toList = none ∧ ∃ k, 0 < k ∧ k < MAX_CLIENTS ∧
          (∀ i, 1 ≤ i → i ≤ k → (propertyTree.data (numberedSection i ++ ".host".toList)).isSome = true) ∧
          (k + 1 = MAX_CLIENTS ∨ propertyTree.data (numberedSection (k + 1) ++ ".host".toList) = none) ∧
          options.dataLinkClientOptions = (List.range' 1 k).map fun i =>
            ini.loadedWriter propertyTree (numberedSection i, numberedName options.applicationName i)) ∧
      (∀ writer ∈ options.dataLinkClientOptions, writer.Valid) ∧ options.forProcess.HaveRoom := by
  obtain ⟨propertyTree, hread, ⟨_, _, haccepted, _⟩, hconfigures⟩ := configures_of_parseIniFile hpresent h
  refine ⟨propertyTree, hread, ?_, hconfigures.haveRoom haccepted⟩
  cases hhost : propertyTree.data "DataLink.host".toList with
  | none => exact .inr ⟨rfl, hconfigures.numbered haccepted hhost⟩
  | some host =>
    refine .inl ⟨rfl, ?_⟩
    rw [hconfigures.writers, writerSections, hhost]
    rfl

/-- The section after the gap is not read. -/
theorem writers_configured_known :
    ∃ options, known.parseIniFile = .ok options ∧ options.dataLinkClientOptions.length = 2 ∧
      (∀ writer ∈ options.dataLinkClientOptions, writer.Valid) ∧ options.forProcess.HaveRoom := by
  have hload : known.parseIniFile.map (·.dataLinkClientOptions.length) = .ok 2 := by decide +kernel
  obtain ⟨options, hparse, hlength⟩ := map_eq_ok_iff.mp hload
  obtain ⟨_, _, _, hvalid, hroom⟩ := writers_configured known options rfl hparse
  exact ⟨options, hparse, hlength, hvalid, hroom⟩

/-! ### Their names -/

theorem digits_mono {i k : Nat} (h : i ≤ k) : (Nat.repr i).toList.length ≤ (Nat.repr k).toList.length := by
  rw [Nat.toList_repr, Nat.toList_repr, Nat.length_toDigits_le_iff (by decide) Nat.length_toDigits_pos]
  exact lt_of_le_of_lt h ((Nat.length_toDigits_le_iff (by decide) Nat.length_toDigits_pos).mp (le_refl _))

/-- The first digits of all numbers up to `k` differ just when all digits are looked at. -/
theorem digits_injOn_iff {k length : Nat} :
    (∀ i, 1 ≤ i → i ≤ k → ∀ j, 1 ≤ j → j ≤ k →
        (Nat.repr i).toList.take length = (Nat.repr j).toList.take length → i = j) ↔
      k ≤ 1 ∨ (Nat.repr k).toList.length ≤ length := by
  constructor
  · intro hinj
    by_contra hnot
    obtain ⟨hmany, hshort⟩ := not_or.mp hnot
    rw [not_le] at hmany hshort
    by_cases hdigit : k < 10
    · have hone : (Nat.repr k).toList.length ≤ 1 := by
        rw [Nat.toList_repr, Nat.length_toDigits_le_iff (by decide) (by decide)]
        exact hdigit
      obtain rfl : length = 0 := by omega
      exact absurd (hinj 1 (le_refl 1) (by omega) 2 (by decide) hmany rfl) (by decide)
    · -- the number without its last digit
      have hlast : (Nat.repr k).toList = (Nat.repr (k / 10)).toList ++ [Nat.digitChar (k % 10)] := by
        rw [Nat.toList_repr, Nat.toList_repr, Nat.toDigits_of_base_le (by decide) (not_lt.mp hdigit)]
      have hlength : length ≤ (Nat.repr (k / 10)).toList.length := by
        rw [hlast, List.length_append, List.length_singleton] at hshort
        omega
      have htake : (Nat.repr k).toList.take length = (Nat.repr (k / 10)).toList.take length := by
        rw [hlast, List.take_append_of_le_length hlength]
      have hsame := hinj k (by omega) (le_refl k) (k / 10) (by omega) (by omega) htake
      omega
  · intro hcondition i hi hik j hj hjk htake
    rcases hcondition with hone | hlong
    · omega
    · rw [List.take_of_length_le ((digits_mono hik).trans hlong),
        List.take_of_length_le ((digits_mono hjk).trans hlong)] at htake
      exact eq_of_digits htake

/-- The name of a writer whose section has none. -/
theorem getName_loadedWriter {i : Nat} {applicationName : Str}
    (hunnamed : propertyTree.data (numberedSection i ++ ".name".toList) = none) :
    (ini.loadedWriter propertyTree (numberedSection i, numberedName applicationName i)).getName =
      (applicationName ++ "-DALIWriter-".toList).take 199 ++
        (Nat.repr i).toList.take (199 - (applicationName.length + 12)) := by
  have hname : propertyTree.getOr ((ini.sectionOf propertyTree (numberedSection i)).key "name") some
      (numberedName applicationName i) = numberedName applicationName i := by
    have hkey : (ini.sectionOf propertyTree (numberedSection i)).key "name" =
        numberedSection i ++ ".name".toList := rfl
    rw [PropertyTree.getOr, PropertyTree.getOptional, hkey, hunnamed]
    rfl
  have hprefix : (applicationName ++ "-DALIWriter-".toList).length = applicationName.length + 12 := by
    rw [List.length_append]
    rfl
  show DataLinkClientOptions.shortenName _ = _
  rw [show (ini.sectionOf propertyTree (numberedSection i)).propertyTree = propertyTree from rfl, hname,
    DataLinkClientOptions.shortenName_eq_take, numberedName, List.take_append, hprefix]

/-- **When the default names differ.** The writers of a configuration whose sections have no names are all called
differently just when there is only one, or when the name of the application leaves room for the digits of their
number: with it and the text in between that is 199 characters. -/
theorem names_distinct_iff (ini : IniFile) (options : ProgramOptions) (propertyTree : PropertyTree)
    (hpresent : ini.files.pathExists ini.iniFile = .ok true) (hread : ini.readIni = .ok propertyTree)
    (h : ini.parseIniFile = .ok options) (hnone : propertyTree.data "DataLink.host".toList = none)
    (hunnamed : ∀ i, propertyTree.data (numberedSection i ++ ".name".toList) = none) :
    (options.dataLinkClientOptions.map (·.getName)).Nodup ↔
      options.dataLinkClientOptions.length = 1 ∨
        options.applicationName.length + 12 + (Nat.repr options.dataLinkClientOptions.length).length ≤ 199 := by
  obtain ⟨propertyTree', hread', ⟨_, _, haccepted, _⟩, hconfigures⟩ := configures_of_parseIniFile hpresent h
  obtain rfl := Except.ok.inj (hread.symm.trans hread')
  obtain ⟨k, hpos, _, _, _, hwriters⟩ := hconfigures.numbered haccepted hnone
  rw [hwriters, List.map_map, List.length_map, List.length_range', ← String.length_toList]
  rw [List.nodup_map_iff_inj_on (List.nodup_range' ..)]
  simp only [Function.comp, getName_loadedWriter (hunnamed _), List.append_cancel_left_eq, List.mem_range'_1]
  have hdigits := @digits_injOn_iff k (199 - (options.applicationName.length + 12))
  have hone : 0 < (Nat.repr k).toList.length := by
    rw [Nat.toList_repr]
    exact Nat.length_toDigits_pos
  constructor
  · intro hinj
    rcases hdigits.mp fun i hi hik j hj hjk htake =>
      hinj i ⟨hi, by omega⟩ j ⟨hj, by omega⟩ htake with hle | hle
    · exact .inl (by omega)
    · exact .inr (by omega)
  · intro hcondition i hi j hj htake
    exact hdigits.mpr (hcondition.imp (by omega) (by omega)) i hi.1 (by omega) j hj.1 (by omega) htake

theorem names_distinct_iff_known :
    ∃ options, known.parseIniFile = .ok options ∧ (options.dataLinkClientOptions.map (·.getName)).Nodup := by
  have hload : known.parseIniFile.map (fun options =>
      (options.dataLinkClientOptions.length, options.applicationName.length)) = .ok (2, 20) := by
    decide +kernel
  obtain ⟨options, hparse, heq⟩ := map_eq_ok_iff.mp hload
  obtain ⟨hlength, happlication⟩ := Prod.mk.inj heq
  have hnone : knownEntries.lookup "DataLink.host".toList = none := by decide +kernel
  have hends : ∀ entry ∈ knownEntries, entry.1.getLast? ≠ some 'e' := by decide +kernel
  have hunnamed (i : Nat) : knownEntries.lookup (numberedSection i ++ ".name".toList) = none := by
    refine List.lookup_eq_none_iff.mpr fun entry hentry => ?_
    refine bne_iff_ne.mpr fun heq => ?_
    refine hends entry hentry ?_
    rw [← heq, List.getLast?_append_of_ne_nil _ (by decide)]
    decide
  refine ⟨options, hparse, (names_distinct_iff known options _ rfl rfl hparse hnone hunnamed).mpr (.inr ?_)⟩
  rw [hlength, happlication]
  decide

end IniFile

end USEEDLinkToRingServer
