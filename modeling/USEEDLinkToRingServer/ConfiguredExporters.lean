import USEEDLinkToRingServer.ProgramOptions

/-!
# The configured exporters

The exporters of the metrics and of the log are set up from options that were checked when they were loaded. So
setting them up does not throw, and what they are given is an address with a path and positive times.
-/

namespace USEEDLinkToRingServer

open Fallible

/-! ### Setting the exporters up -/

/-- What a periodic exporter of the metrics is created with. -/
structure MetricsExporter where
  endpoint : Str
  exportInterval : Int64
  exportTimeOut : Int64
  certificatePath : Str := []
deriving DecidableEq, Repr

/-- What an exporter of the log is created with. -/
structure LogExporter where
  endpoint : Str
  certificatePath : Str := []
deriving DecidableEq, Repr

namespace ProgramOptions

section

variable (programOptions : ProgramOptions)

def initializeHTTPMetrics : Option MetricsExporter :=
  if !programOptions.exportMetrics then none
  else
    some
      { endpoint := programOptions.otelHTTPMetricsOptions.url ++ programOptions.otelHTTPMetricsOptions.suffix
        exportInterval := programOptions.otelHTTPMetricsOptions.exportInterval
        exportTimeOut := programOptions.otelHTTPMetricsOptions.exportTimeOut }

def initializeGRPCMetrics : Option MetricsExporter :=
  if !programOptions.exportMetrics then none
  else
    some
      { endpoint := programOptions.otelGRPCMetricsOptions.url
        exportInterval := programOptions.otelGRPCMetricsOptions.exportInterval
        exportTimeOut := programOptions.otelGRPCMetricsOptions.exportTimeOut
        certificatePath := programOptions.otelGRPCMetricsOptions.certificatePath }

/-- The exporter that is set up, if one is. -/
def initializeMetrics (WITH_OTLP_GRPC : Bool) : Except Exception (Option MetricsExporter) :=
  if programOptions.exportMetricsWithHTTP then .ok programOptions.initializeHTTPMetrics
  else if WITH_OTLP_GRPC then .ok programOptions.initializeGRPCMetrics
  else .error (.runtimeError "Recompile WITH_OTLP_GRPC and conan")

def initializeHTTPLogger : Option LogExporter :=
  if programOptions.exportLogs then
    some { endpoint := programOptions.otelHTTPLogOptions.url ++ programOptions.otelHTTPLogOptions.suffix }
  else none

/-- The certificate is looked for once more. -/
def initializeGRPCLogger (files : FileSystem) : Except Exception (Option LogExporter) :=
  if programOptions.exportLogs then do
    let certificatePath := programOptions.otelGRPCLogOptions.certificatePath
    let present ← if certificatePath.isEmpty then .ok false else files.pathExists certificatePath
    return some
      { endpoint := programOptions.otelGRPCLogOptions.url
        certificatePath := if present then certificatePath else [] }
  else .ok none

def initializeLogger (files : FileSystem) (WITH_OTLP_GRPC : Bool) : Except Exception (Option LogExporter) :=
  if programOptions.exportLogsWithHTTP then .ok programOptions.initializeHTTPLogger
  else if WITH_OTLP_GRPC then programOptions.initializeGRPCLogger files
  else .error (.runtimeError "Recompile WITH_OTLP_GRPC and conan")

end

end ProgramOptions

/-! ### Addresses -/

/-- A host, a colon and a port, and then nothing or a path. -/
def IsEndpoint (endpoint : Str) : Prop :=
  ∃ (host : Str) (port : UInt16) (suffix : Str), host ≠ [] ∧ (suffix = [] ∨ suffix.head? = some '/') ∧
    endpoint = host ++ ':' :: (Nat.repr port.toNat).toList ++ suffix

namespace IniFile

variable {ini : IniFile} {propertyTree : PropertyTree} {sectionName url suffix : Str}

theorem getOTelCollectorURL_cases :
    ini.getOTelCollectorURL propertyTree sectionName = [] ∨
      ∃ (host : Str) (port : UInt16), host ≠ [] ∧
        ini.getOTelCollectorURL propertyTree sectionName = host ++ ':' :: (Nat.repr port.toNat).toList := by
  rw [getOTelCollectorURL]
  split
  · next hhost => exact .inr ⟨_, _, by simpa using hhost, rfl⟩
  · exact .inl rfl

theorem joinSuffix_cases (hurl : url ≠ []) (hlast : url.getLast? ≠ some '/') :
    joinSuffix url suffix = [] ∨ (joinSuffix url suffix).head? = some '/' := by
  rw [joinSuffix]
  split
  · exact .inr rfl
  · next hnot =>
    cases suffix with
    | nil => exact .inl rfl
    | cons c cs =>
      right
      by_contra hhead
      apply hnot
      simpa [hurl, hlast] using hhead

/-- A port ends with a digit. -/
theorem getLast?_port (host : Str) (port : Nat) :
    (host ++ ':' :: (Nat.repr port).toList).getLast? ≠ some '/' := by
  intro hlast
  have hdigits : (Nat.repr port).toList = Nat.toDigits 10 port := Nat.toList_repr
  have hmem : '/' ∈ Nat.toDigits 10 port := by
    obtain ⟨front, hfront⟩ := List.getLast?_eq_some_iff.mp hlast
    rw [hdigits] at hfront
    have hne : Nat.toDigits 10 port ≠ [] := Nat.toDigits_ne_nil
    have hend : (Nat.toDigits 10 port).getLast hne = '/' := by
      have heq := congrArg List.getLast? hfront
      rw [List.getLast?_append_of_ne_nil _ (by simp), List.getLast?_cons_of_ne_nil hne,
        List.getLast?_concat, List.getLast?_eq_some_getLast hne] at heq
      exact Option.some.inj heq
    rw [← hend]
    exact List.getLast_mem hne
  have hdigit := Nat.isDigit_of_mem_toDigits (by decide) (by decide) hmem
  cases hdigit

/-- The address of a collector with a suffix. -/
theorem isEndpoint_joinSuffix (hurl : ini.getOTelCollectorURL propertyTree sectionName ≠ []) :
    IsEndpoint (ini.getOTelCollectorURL propertyTree sectionName ++
      joinSuffix (ini.getOTelCollectorURL propertyTree sectionName) suffix) := by
  rcases getOTelCollectorURL_cases with hnone | ⟨host, port, hhost, heq⟩
  · exact absurd hnone hurl
  · refine ⟨host, port, _, hhost, joinSuffix_cases hurl ?_, by rw [← heq]⟩
    rw [heq]
    exact getLast?_port host port.toNat

theorem isEndpoint_url (hurl : ini.getOTelCollectorURL propertyTree sectionName ≠ []) :
    IsEndpoint (ini.getOTelCollectorURL propertyTree sectionName) := by
  rcases getOTelCollectorURL_cases with hnone | ⟨host, port, hhost, heq⟩
  · exact absurd hnone hurl
  · exact ⟨host, port, [], hhost, .inl rfl, by rw [heq, List.append_nil]⟩

/-! ### What is loaded -/

/-- The times of a section's exporter are positive. -/
def TimesAccepted (ini : IniFile) (propertyTree : PropertyTree) (sectionName : Str) : Prop :=
  let s := ini.sectionOf propertyTree sectionName
  0 < propertyTree.getOr (s.key "exportIntervalInMilliSeconds") ini.toInt64 30000 ∧
    0 < propertyTree.getOr (s.key "exportTimeOutInMilliSeconds") ini.toInt64 500

theorem getOTelMetricsIntervalAndTimeOut_eq_ok_iff {times : Int64 × Int64} :
    ini.getOTelMetricsIntervalAndTimeOut propertyTree sectionName 30000 500 = .ok times ↔
      ini.TimesAccepted propertyTree sectionName ∧
        (let s := ini.sectionOf propertyTree sectionName
        (propertyTree.getOr (s.key "exportIntervalInMilliSeconds") ini.toInt64 30000,
          propertyTree.getOr (s.key "exportTimeOutInMilliSeconds") ini.toInt64 500)) = times := by
  rw [getOTelMetricsIntervalAndTimeOut, TimesAccepted]
  dsimp only
  rw [ite_error_eq_ok_iff, ite_error_eq_ok_iff, Except.ok.injEq, Int64.not_le, Int64.not_le, and_assoc]

/-- The certificate of a section can be looked for. -/
def CertificateAccepted (ini : IniFile) (propertyTree : PropertyTree) (sectionName : Str) : Prop :=
  ∃ certificatePath, ini.getCertificate propertyTree sectionName = .ok certificatePath

/-- A certificate that is kept is there. -/
theorem pathExists_getCertificate {certificatePath : Str}
    (h : ini.getCertificate propertyTree sectionName = .ok certificatePath) (hsome : certificatePath ≠ []) :
    ini.files.pathExists certificatePath = .ok true := by
  rw [getCertificate] at h
  split at h
  · exact absurd (Except.ok.inj h).symm hsome
  · obtain ⟨present, hpresent, h⟩ := bind_eq_ok_iff.mp h
    cases present with
    | false => exact absurd (pure_eq_ok_iff.mp h).symm hsome
    | true => rwa [← pure_eq_ok_iff.mp h]

/-- The section for the exporter of the metrics, if there is one, can be read. -/
def MetricsAccepted (ini : IniFile) (propertyTree : PropertyTree) : Prop :=
  if (propertyTree.data "OTelHTTPMetricsOptions".toList).isSome then
    ini.getOTelCollectorURL propertyTree "OTelHTTPMetricsOptions".toList ≠ [] →
      ini.TimesAccepted propertyTree "OTelHTTPMetricsOptions".toList
  else
    (propertyTree.data "OTelGRPCMetricsOptions".toList).isSome = true →
      ini.WITH_OTLP_GRPC = true ∧ ini.TimesAccepted propertyTree "OTelGRPCMetricsOptions".toList ∧
        ini.CertificateAccepted propertyTree "OTelGRPCMetricsOptions".toList

/-- The section for the exporter of the log, if there is one, can be read. -/
def LoggingAccepted (ini : IniFile) (propertyTree : PropertyTree) : Prop :=
  (propertyTree.data "OTelHTTPLogOptions".toList).isSome = false →
    (propertyTree.data "OTelGRPCLogOptions".toList).isSome = true →
      ini.WITH_OTLP_GRPC = true ∧ ini.CertificateAccepted propertyTree "OTelGRPCLogOptions".toList

/-- An exporter of the metrics is set up just when metrics are exported, with an address and positive times. -/
def ExportsMetrics (ini : IniFile) (options : ProgramOptions) : Prop :=
  ∃ exporter, options.initializeMetrics ini.WITH_OTLP_GRPC = .ok exporter ∧
    exporter.isSome = options.exportMetrics ∧
      ∀ e, exporter = some e → IsEndpoint e.endpoint ∧ 0 < e.exportInterval ∧ 0 < e.exportTimeOut

/-- An exporter of the log is set up just when the log is exported, with an address. -/
def ExportsLogs (ini : IniFile) (options : ProgramOptions) : Prop :=
  ∃ exporter, options.initializeLogger ini.files ini.WITH_OTLP_GRPC = .ok exporter ∧
    exporter.isSome = options.exportLogs ∧ ∀ e, exporter = some e → IsEndpoint e.endpoint

variable {options options' : ProgramOptions}

/-- Without metrics there is nothing to set up. -/
theorem exportsMetrics_of_not (hhttp : options.exportMetricsWithHTTP = true) (hnot : options.exportMetrics = false) :
    ini.ExportsMetrics options := by
  refine ⟨none, ?_, hnot.symm, nofun⟩
  rw [ProgramOptions.initializeMetrics, if_pos hhttp, ProgramOptions.initializeHTTPMetrics, hnot]
  rfl

theorem exportsLogs_of_not (hhttp : options.exportLogsWithHTTP = true) (hnot : options.exportLogs = false) :
    ini.ExportsLogs options := by
  refine ⟨none, ?_, hnot.symm, nofun⟩
  rw [ProgramOptions.initializeLogger, if_pos hhttp, ProgramOptions.initializeHTTPLogger, hnot]
  rfl

theorem exportsLogs_grpc (hgrpc : ini.WITH_OTLP_GRPC = true) (hhttp : options.exportLogsWithHTTP = false)
    (hexport : options.exportLogs = true) (hurl : IsEndpoint options.otelGRPCLogOptions.url)
    (hcertificate : options.otelGRPCLogOptions.certificatePath ≠ [] →
      ini.files.pathExists options.otelGRPCLogOptions.certificatePath = .ok true) : ini.ExportsLogs options := by
  have hlogger : options.initializeLogger ini.files ini.WITH_OTLP_GRPC =
      options.initializeGRPCLogger ini.files := by
    rw [ProgramOptions.initializeLogger, if_neg (by simp [hhttp]), if_pos hgrpc]
  rw [ExportsLogs, hlogger, ProgramOptions.initializeGRPCLogger, if_pos hexport]
  dsimp only
  by_cases hnone : options.otelGRPCLogOptions.certificatePath = []
  · rw [if_pos (by simp [hnone])]
    refine ⟨_, rfl, hexport.symm, ?_⟩
    rintro e ⟨⟩
    exact hurl
  · rw [if_neg (by simpa using hnone), hcertificate hnone]
    refine ⟨_, rfl, hexport.symm, ?_⟩
    rintro e ⟨⟩
    exact hurl

/-- What reading the exporter's section of the metrics leaves alone. -/
def SameButMetrics (options options' : ProgramOptions) : Prop :=
  ∃ http grpc exportMetrics withHTTP,
    options' =
      { options with
        otelHTTPMetricsOptions := http
        otelGRPCMetricsOptions := grpc
        exportMetrics
        exportMetricsWithHTTP := withHTTP }

theorem parseMetrics_spec (hhttp : options.exportMetricsWithHTTP = true)
    (h : ini.parseMetrics propertyTree options = .ok options') :
    ini.MetricsAccepted propertyTree ∧ ini.ExportsMetrics options' ∧ SameButMetrics options options' := by
  rw [parseMetrics] at h
  rw [MetricsAccepted]
  split at h
  · next hsection =>
    rw [if_pos hsection]
    dsimp only at h
    split at h
    · next hurl =>
      have hurl' : ini.getOTelCollectorURL propertyTree "OTelHTTPMetricsOptions".toList ≠ [] := by simpa using hurl
      obtain ⟨times, htimes, h⟩ := bind_eq_ok_iff.mp h
      obtain ⟨haccepted, rfl⟩ := getOTelMetricsIntervalAndTimeOut_eq_ok_iff.mp htimes
      obtain rfl := pure_eq_ok_iff.mp h
      refine ⟨fun _ => haccepted, ⟨_, rfl, rfl, ?_⟩, _, _, _, _, rfl⟩
      rintro e ⟨⟩
      exact ⟨isEndpoint_joinSuffix hurl', haccepted⟩
    · next hnone =>
      obtain rfl := pure_eq_ok_iff.mp h
      exact ⟨fun hurl => absurd (by simpa using hurl) hnone, exportsMetrics_of_not hhttp rfl, _, _, _, _, rfl⟩
  · next hno =>
    rw [if_neg hno]
    split at h
    · split at h
      · cases h
      · next hgrpc =>
        have hgrpc' : ini.WITH_OTLP_GRPC = true := by simpa using hgrpc
        dsimp only at h
        obtain ⟨times, htimes, h⟩ := bind_eq_ok_iff.mp h
        obtain ⟨haccepted, rfl⟩ := getOTelMetricsIntervalAndTimeOut_eq_ok_iff.mp htimes
        obtain ⟨certificatePath, hcertificate, h⟩ := bind_eq_ok_iff.mp h
        refine ⟨fun _ => ⟨hgrpc', haccepted, certificatePath, hcertificate⟩, ?_⟩
        split at h
        · next hurl =>
          have hurl' : ini.getOTelCollectorURL propertyTree "OTelGRPCMetricsOptions".toList ≠ [] := by
            simpa using hurl
          obtain rfl := pure_eq_ok_iff.mp h
          refine ⟨⟨_, by rw [ProgramOptions.initializeMetrics, hgrpc']; rfl, rfl, ?_⟩, _, _, _, _, rfl⟩
          rintro e ⟨⟩
          exact ⟨isEndpoint_url hurl', haccepted⟩
        · obtain rfl := pure_eq_ok_iff.mp h
          exact ⟨exportsMetrics_of_not hhttp rfl, _, _, _, _, rfl⟩
    · next hnone =>
      obtain rfl := pure_eq_ok_iff.mp h
      exact ⟨fun hsection => absurd hsection hnone, exportsMetrics_of_not hhttp rfl, _, _, _, _, rfl⟩

theorem exists_parseMetrics (h : ini.MetricsAccepted propertyTree) (options : ProgramOptions) :
    ∃ options', ini.parseMetrics propertyTree options = .ok options' := by
  rw [MetricsAccepted] at h
  rw [parseMetrics]
  split
  · next hsection =>
    rw [if_pos hsection] at h
    dsimp only
    split
    · next hurl =>
      have htimes := getOTelMetricsIntervalAndTimeOut_eq_ok_iff.mpr ⟨h (by simpa using hurl), rfl⟩
      exact ⟨_, by rw [htimes]; rfl⟩
    · exact ⟨_, rfl⟩
  · next hno =>
    rw [if_neg hno] at h
    split
    · next hsection =>
      obtain ⟨hgrpc, haccepted, certificatePath, hcertificate⟩ := h hsection
      have htimes := getOTelMetricsIntervalAndTimeOut_eq_ok_iff.mpr ⟨haccepted, rfl⟩
      rw [if_neg (by simp [hgrpc])]
      dsimp only
      rw [htimes, ok_bind, hcertificate, ok_bind]
      split
      · exact ⟨_, rfl⟩
      · exact ⟨_, rfl⟩
    · exact ⟨_, rfl⟩

/-- What reading the exporter's section of the log leaves alone. -/
def SameButLogging (options options' : ProgramOptions) : Prop :=
  ∃ http grpc exportLogs withHTTP,
    options' =
      { options with
        otelHTTPLogOptions := http
        otelGRPCLogOptions := grpc
        exportLogs
        exportLogsWithHTTP := withHTTP }

theorem parseLogging_spec (hhttp : options.exportLogsWithHTTP = true)
    (h : ini.parseLogging propertyTree options = .ok options') :
    ini.LoggingAccepted propertyTree ∧ ini.ExportsLogs options' ∧ SameButLogging options options' := by
  rw [parseLogging] at h
  split at h
  · next hsection =>
    refine ⟨fun hno => (by cases hsection.symm.trans hno), ?_⟩
    dsimp only at h
    split at h
    · next hurl =>
      have hurl' : ini.getOTelCollectorURL propertyTree "OTelHTTPLogOptions".toList ≠ [] := by simpa using hurl
      obtain rfl := pure_eq_ok_iff.mp h
      refine ⟨⟨_, rfl, rfl, ?_⟩, _, _, _, _, rfl⟩
      rintro e ⟨⟩
      exact isEndpoint_joinSuffix hurl'
    · obtain rfl := pure_eq_ok_iff.mp h
      exact ⟨exportsLogs_of_not hhttp rfl, _, _, _, _, rfl⟩
  · split at h
    · split at h
      · cases h
      · next hgrpc =>
        have hgrpc' : ini.WITH_OTLP_GRPC = true := by simpa using hgrpc
        dsimp only at h
        obtain ⟨certificatePath, hcertificate, h⟩ := bind_eq_ok_iff.mp h
        refine ⟨fun _ _ => ⟨hgrpc', certificatePath, hcertificate⟩, ?_⟩
        split at h
        · next hurl =>
          have hurl' : ini.getOTelCollectorURL propertyTree "OTelGRPCLogOptions".toList ≠ [] := by simpa using hurl
          obtain rfl := pure_eq_ok_iff.mp h
          refine ⟨exportsLogs_grpc hgrpc' rfl rfl (isEndpoint_url hurl') ?_, _, _, _, _, rfl⟩
          exact pathExists_getCertificate hcertificate
        · obtain rfl := pure_eq_ok_iff.mp h
          exact ⟨exportsLogs_of_not hhttp rfl, _, _, _, _, rfl⟩
    · next hnone =>
      obtain rfl := pure_eq_ok_iff.mp h
      exact ⟨fun _ hsection => absurd hsection hnone, exportsLogs_of_not hhttp rfl, _, _, _, _, rfl⟩

theorem exists_parseLogging (h : ini.LoggingAccepted propertyTree) (options : ProgramOptions) :
    ∃ options', ini.parseLogging propertyTree options = .ok options' := by
  rw [parseLogging]
  split
  · dsimp only
    split
    · exact ⟨_, rfl⟩
    · exact ⟨_, rfl⟩
  · next hno =>
    split
    · next hsection =>
      obtain ⟨hgrpc, certificatePath, hcertificate⟩ := h (by simpa using hno) hsection
      rw [if_neg (by simp [hgrpc])]
      dsimp only
      rw [hcertificate, ok_bind]
      split
      · exact ⟨_, rfl⟩
      · exact ⟨_, rfl⟩
    · exact ⟨_, rfl⟩

end IniFile

end USEEDLinkToRingServer
