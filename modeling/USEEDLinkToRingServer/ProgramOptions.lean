import USEEDLinkToRingServer.DataLinkClientOptions
import USEEDLinkToRingServer.SEEDLinkSection

/-!
# The configuration

The initialization file is read key by key into the options of the exporters, the writers and the reader. What
has no key has the default of its class.
-/

namespace USEEDLinkToRingServer

open Fallible

/-! ### A writer's section -/

namespace Section

variable (s : Section)

def getDataLinkOptions (defaultDataLinkWriterName : Str) : Except Exception DataLinkClientOptions := do
  let dataLinkClientOptions : DataLinkClientOptions := {}
  let dataLinkHost := s.propertyTree.getOr (s.key "host") some dataLinkClientOptions.getHost
  let dataLinkClientOptions ← dataLinkClientOptions.setHost dataLinkHost
  let dataLinkPort := s.propertyTree.getOr (s.key "port") s.boost.toUInt16 dataLinkClientOptions.getPort
  let dataLinkClientOptions := dataLinkClientOptions.setPort dataLinkPort
  let writeMiniSEED3 := s.propertyTree.getOr (s.key "writeMiniSEED3") s.boost.toBool
    dataLinkClientOptions.writeMiniSEED3
  let dataLinkClientOptions :=
    if writeMiniSEED3 then dataLinkClientOptions.enableWriteMiniSEED3
    else dataLinkClientOptions.disableWriteMiniSEED3
  let dataLinkWriterName := s.propertyTree.getOr (s.key "name") some defaultDataLinkWriterName
  let dataLinkClientOptions ← dataLinkClientOptions.setName dataLinkWriterName
  let flushPackets := s.propertyTree.getOr (s.key "flushPackets") s.boost.toBool
    dataLinkClientOptions.flushPackets
  let dataLinkClientOptions :=
    if flushPackets then dataLinkClientOptions.enablePacketFlushing
    else dataLinkClientOptions.disablePacketFlushing
  let miniSEEDRecordSize := s.propertyTree.getOr (s.key "miniSEEDRecordSize") s.boost.toInt
    dataLinkClientOptions.getMiniSEEDRecordSize
  if miniSEEDRecordSize < 1 ∨ miniSEEDRecordSize > 512 then
    .error (.invalidArgument ("miniSEEDRecordSize " ++ Int.repr miniSEEDRecordSize.toInt ++
      " must be between 1 and 512"))
  else dataLinkClientOptions.setMiniSEEDRecordSize miniSEEDRecordSize

/-- What the section says of a writer, with the defaults of the class for keys that are absent. -/
def loadedWriter (defaultDataLinkWriterName : Str) : DataLinkClientOptions where
  mHost := DataLinkClientOptions.normalizeHost (s.propertyTree.getOr (s.key "host") some "localhost".toList)
  mName := DataLinkClientOptions.shortenName
    (s.propertyTree.getOr (s.key "name") some defaultDataLinkWriterName)
  mMiniSEEDRecordSize := s.propertyTree.getOr (s.key "miniSEEDRecordSize") s.boost.toInt 512
  mPort := s.propertyTree.getOr (s.key "port") s.boost.toUInt16 16000
  mWriteMiniSEED3 := s.propertyTree.getOr (s.key "writeMiniSEED3") s.boost.toBool false
  mFlushPackets := s.propertyTree.getOr (s.key "flushPackets") s.boost.toBool true

/-- A writer can be made of the section. -/
structure WriterAccepted (defaultDataLinkWriterName : Str) : Prop where
  host : (s.loadedWriter defaultDataLinkWriterName).mHost ≠ [] ∧
    (s.loadedWriter defaultDataLinkWriterName).mHost.length < 100
  name : s.propertyTree.getOr (s.key "name") some defaultDataLinkWriterName ≠ []
  recordSize : DataLinkClientOptions.RecordSize (s.loadedWriter defaultDataLinkWriterName).mMiniSEEDRecordSize

end Section

/-! ### The options of the program -/

structure OTelHTTPMetricsOptions where
  url : Str := "localhost:4318".toList
  /-- In milliseconds, as the time-out. -/
  exportInterval : Int64 := 30000
  exportTimeOut : Int64 := 500
  suffix : Str := "/v1/metrics".toList
deriving DecidableEq, Repr

structure OTelGRPCMetricsOptions where
  url : Str := "localhost".toList
  exportInterval : Int64 := 30000
  exportTimeOut : Int64 := 500
  certificatePath : Str := []
deriving DecidableEq, Repr

structure OTelHTTPLogOptions where
  url : Str := "localhost:4318".toList
  suffix : Str := "/v1/logs".toList
deriving DecidableEq, Repr

structure OTelGRPCLogOptions where
  url : Str := "localhost".toList
  certificatePath : Str := []
deriving DecidableEq, Repr

def APPLICATION_NAME : Str := "seedLinkToRingServer".toList

structure ProgramOptions where
  applicationName : Str := APPLICATION_NAME
  otelHTTPMetricsOptions : OTelHTTPMetricsOptions := {}
  otelGRPCMetricsOptions : OTelGRPCMetricsOptions := {}
  otelHTTPLogOptions : OTelHTTPLogOptions := {}
  otelGRPCLogOptions : OTelGRPCLogOptions := {}
  dataLinkClientOptions : List DataLinkClientOptions := []
  seedLinkClientOptions : SEEDLinkClientOptions := {}
  /-- In minutes. -/
  printSummaryInterval : Int := 15
  importQueueSize : Int32 := 8192
  verbosity : Int32 := 3
  exportLogs : Bool := false
  exportMetrics : Bool := false
  exportMetricsWithHTTP : Bool := true
  exportLogsWithHTTP : Bool := true
deriving DecidableEq, Repr

/-! ### Reading the file -/

/-- The initialization file, with what the program was built with. -/
structure IniFile where
  boost : Boost
  /-- The conversion of a text of a property tree. -/
  toInt64 : Str → Option Int64
  files : FileSystem
  iniFile : Str
  /-- `read_ini` of the file. -/
  readIni : Except Exception PropertyTree
  WITH_OTLP_GRPC : Bool := false

namespace IniFile

section

variable (ini : IniFile) (propertyTree : PropertyTree)

def sectionOf (clientName : Str) : Section := ⟨ini.boost, propertyTree, ini.files, clientName⟩

def getOTelCollectorURL (clientName : Str) : Str :=
  let s := ini.sectionOf propertyTree clientName
  let otelCollectorHost := propertyTree.getOr (s.key "host") some []
  let otelCollectorPort := propertyTree.getOr (s.key "port") ini.boost.toUInt16 4218
  if !otelCollectorHost.isEmpty then otelCollectorHost ++ ':' :: (Nat.repr otelCollectorPort.toNat).toList else []

def getOTelMetricsIntervalAndTimeOut (clientName : Str) (defaultExportInterval defaultExportTimeOut : Int64) :
    Except Exception (Int64 × Int64) :=
  let s := ini.sectionOf propertyTree clientName
  let exportInterval := propertyTree.getOr (s.key "exportIntervalInMilliSeconds") ini.toInt64 defaultExportInterval
  if exportInterval ≤ 0 then .error (.runtimeError "Export interval must be positive")
  else
    let exportTimeOut := propertyTree.getOr (s.key "exportTimeOutInMilliSeconds") ini.toInt64 defaultExportTimeOut
    if exportTimeOut ≤ 0 then .error (.invalidArgument "Export time out must be positive")
    else .ok (exportInterval, exportTimeOut)

/-- The suffix of a URL, with a slash in between. -/
def joinSuffix (url suffix : Str) : Str :=
  if !url.isEmpty && !suffix.isEmpty && url.getLast? != some '/' && suffix.head? != some '/' then '/' :: suffix
  else suffix

/-- The certificate of a section, if the file is there. -/
def getCertificate (clientName : Str) : Except Exception Str :=
  match propertyTree.data ((ini.sectionOf propertyTree clientName).key "certificate") with
  | none => .ok []
  | some certificatePath => do
    let present ← ini.files.pathExists certificatePath
    return if present then certificatePath else []

/-- The part of `parseIniFile` for the section `General`. -/
def parseGeneral (options : ProgramOptions) : ProgramOptions :=
  let s := ini.sectionOf propertyTree "General".toList
  let applicationName := propertyTree.getOr (s.key "applicationName") some options.applicationName
  let summaryIntervalInMinutes := propertyTree.getOr (s.key "printSummaryIntervalInMinutes") ini.boost.toInt
    (.ofInt options.printSummaryInterval)
  { options with
    applicationName := if applicationName.isEmpty then APPLICATION_NAME else applicationName
    verbosity := propertyTree.getOr (s.key "verbosity") ini.boost.toInt options.verbosity
    printSummaryInterval := summaryIntervalInMinutes.toInt }

/-- The part of `parseIniFile` for the exporter of the metrics. -/
def parseMetrics (options : ProgramOptions) : Except Exception ProgramOptions := do
  let options := { options with exportMetrics := false }
  if (propertyTree.data "OTelHTTPMetricsOptions".toList).isSome then
    let sectionName := "OTelHTTPMetricsOptions".toList
    let url := ini.getOTelCollectorURL propertyTree sectionName
    let suffix := propertyTree.getOr ((ini.sectionOf propertyTree sectionName).key "suffix") some "/v1/metrics".toList
    let metricsOptions : OTelHTTPMetricsOptions := { url, suffix := joinSuffix url suffix }
    if !metricsOptions.url.isEmpty then
      let (exportInterval, exportTimeOut) ← ini.getOTelMetricsIntervalAndTimeOut propertyTree sectionName
        metricsOptions.exportInterval metricsOptions.exportTimeOut
      return { options with
        otelHTTPMetricsOptions := { metricsOptions with exportInterval, exportTimeOut }
        exportMetrics := true
        exportMetricsWithHTTP := true }
    else return options
  else if (propertyTree.data "OTelGRPCMetricsOptions".toList).isSome then
    if !ini.WITH_OTLP_GRPC then
      .error (.runtimeError "Recompile with Conan to use gRPC metrics exporter option")
    else
      let sectionName := "OTelGRPCMetricsOptions".toList
      let url := ini.getOTelCollectorURL propertyTree sectionName
      let metricsOptions : OTelGRPCMetricsOptions := { url }
      let (exportInterval, exportTimeOut) ← ini.getOTelMetricsIntervalAndTimeOut propertyTree sectionName
        metricsOptions.exportInterval metricsOptions.exportTimeOut
      let certificatePath ← ini.getCertificate propertyTree sectionName
      if !url.isEmpty then
        return { options with
          otelGRPCMetricsOptions := { metricsOptions with exportInterval, exportTimeOut, certificatePath }
          exportMetrics := true
          exportMetricsWithHTTP := false }
      else return options
  else return options

/-- The part of `parseIniFile` for the exporter of the log. -/
def parseLogging (options : ProgramOptions) : Except Exception ProgramOptions := do
  let options := { options with exportLogs := false }
  if (propertyTree.data "OTelHTTPLogOptions".toList).isSome then
    let sectionName := "OTelHTTPLogOptions".toList
    let url := ini.getOTelCollectorURL propertyTree sectionName
    let suffix := propertyTree.getOr ((ini.sectionOf propertyTree sectionName).key "suffix") some "/v1/logs".toList
    if !url.isEmpty then
      return { options with
        exportLogs := true
        exportLogsWithHTTP := true
        otelHTTPLogOptions := { url, suffix := joinSuffix url suffix } }
    else return options
  else if (propertyTree.data "OTelGRPCLogOptions".toList).isSome then
    if !ini.WITH_OTLP_GRPC then
      .error (.runtimeError "Recompile with Conan to use gRPC logs exporter option")
    else
      let sectionName := "OTelGRPCLogOptions".toList
      let url := ini.getOTelCollectorURL propertyTree sectionName
      let certificatePath ← ini.getCertificate propertyTree sectionName
      if !url.isEmpty then
        return { options with
          exportLogs := true
          exportLogsWithHTTP := false
          otelGRPCLogOptions := { url, certificatePath } }
      else return options
  else return options

def MAX_CLIENTS : Nat := 32768

def numberedSection (i : Nat) : Str := "DataLink_".toList ++ (Nat.repr i).toList

/-- The rounds of the loop over the numbered sections from a number on. -/
def parseNumbered (applicationName : Str) :
    (rounds i : Nat) → List DataLinkClientOptions → Except Exception (List DataLinkClientOptions)
  | 0, _, dataLinkClientOptions => .ok dataLinkClientOptions
  | rounds + 1, i, dataLinkClientOptions =>
    let s := ini.sectionOf propertyTree (numberedSection i)
    if (propertyTree.data (s.key "host")).isSome then do
      let dataLinkWriterName := applicationName ++ "-DALIWriter-".toList ++ (Nat.repr i).toList
      let options ← s.getDataLinkOptions dataLinkWriterName
      parseNumbered applicationName rounds (i + 1) (dataLinkClientOptions ++ [options])
    else .ok dataLinkClientOptions

/-- The vector of the writers' options. -/
def parseWriters (applicationName : Str) : Except Exception (List DataLinkClientOptions) :=
  let s := ini.sectionOf propertyTree "DataLink".toList
  if (propertyTree.data (s.key "host")).isSome then
    let dataLinkWriterName := applicationName ++ "-DALIWriter".toList
    (s.getDataLinkOptions dataLinkWriterName).map fun options => [options]
  else ini.parseNumbered propertyTree applicationName (MAX_CLIENTS - 1) 1 []

/-- The part of `parseIniFile` for the writers. -/
def parseDataLink (options : ProgramOptions) : Except Exception ProgramOptions := do
  let dataLinkClientOptions ← ini.parseWriters propertyTree options.applicationName
  if dataLinkClientOptions.isEmpty then .error (.runtimeError "No data writer options specified")
  else return { options with dataLinkClientOptions }

/-- The part of `parseIniFile` for the reader. -/
def parseSEEDLink (options : ProgramOptions) : Except Exception ProgramOptions :=
  let s := ini.sectionOf propertyTree "SEEDLinkReader".toList
  if (propertyTree.data (s.key "host")).isSome then
    s.getSEEDLinkOptions.map fun seedLinkClientOptions => { options with seedLinkClientOptions }
  else .ok options

def parseIniFile : Except Exception ProgramOptions := do
  let options : ProgramOptions := {}
  let present ← ini.files.pathExists ini.iniFile
  if !present then return options
  else
    let propertyTree ← ini.readIni
    let options := ini.parseGeneral propertyTree options
    let options ← ini.parseMetrics propertyTree options
    let options ← ini.parseLogging propertyTree options
    let options ← ini.parseDataLink propertyTree options
    ini.parseSEEDLink propertyTree options

end

end IniFile

end USEEDLinkToRingServer
