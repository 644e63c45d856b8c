import USEEDLinkToRingServer.ConnectionUse

/-!
# The program

`main`, from the command line to the exit status: the options are read, the exporters are set up, the process is
constructed and runs until it has stopped, and the exporters are taken down.
-/

namespace USEEDLinkToRingServer

open Fallible Machine

/-- What Boost finds on the command line. -/
structure CommandLine where
  help : Bool := false
  ini : Option Str := none
deriving DecidableEq, Repr

/-- What the program is started with, and what is answered while the process is made. -/
structure Launch where
  /-- `store` of `parse_command_line`. -/
  commandLine : Except Exception CommandLine
  /-- The initialization file, but for its name. -/
  ini : IniFile
  returnCode : (options : ProgramOptions) → Fin options.dataLinkClientOptions.length → Int
  answers : InitializeAnswers
  lib : Libraries
  savedState : Option Nat := none

/-- The providers that are set for the whole program. -/
structure Telemetry where
  metricsInitialized : Bool := false
  meterProvider : Option MetricsExporter := none
  loggerProvider : Option LogExporter := none
deriving DecidableEq, Repr

namespace Telemetry

def cleanupMetrics (telemetry : Telemetry) : Telemetry :=
  { telemetry with
    metricsInitialized := false
    meterProvider := if telemetry.metricsInitialized then none else telemetry.meterProvider }

def cleanupLogger (telemetry : Telemetry) : Telemetry := { telemetry with loggerProvider := none }

end Telemetry

inductive Ending
  | exitSuccess
  | exitFailure
  /-- An exception leaves `main`. -/
  | terminated (exception : Exception)
deriving DecidableEq, Repr

/-- How the program ended, and the providers that it left. -/
structure Exit where
  ending : Ending
  telemetry : Telemetry := {}
deriving DecidableEq, Repr

namespace Launch

section

variable (launch : Launch)

/-- The name of the initialization file, and whether help was asked for. -/
def parseCommandLineOptions : Except Exception (Str × Bool) := do
  let vm ← launch.commandLine
  match vm.help, vm.ini with
  | true, _ => return ([], true)
  | false, none => return ([], false)
  | false, some iniFile =>
    if ← launch.ini.files.pathExists iniFile then return (iniFile, false)
    else .error (.runtimeError ("Initialization file: " ++ String.ofList iniFile ++ " does not exist"))

/-- The exporters are set up. An exception of the logger is not caught. -/
def initializeTelemetry (ini : IniFile) (programOptions : ProgramOptions) :
    Except Exit (ProgramOptions × Telemetry) :=
  match programOptions.initializeLogger ini.files ini.WITH_OTLP_GRPC with
  | .error exception => .error { ending := .terminated exception }
  | .ok loggerProvider =>
    let telemetry : Telemetry := { loggerProvider }
    match programOptions.initializeMetrics ini.WITH_OTLP_GRPC with
    | .error _ => .error { ending := .exitFailure, telemetry := telemetry.cleanupLogger }
    | .ok meterProvider =>
      .ok (programOptions, { telemetry with metricsInitialized := meterProvider.isSome, meterProvider })

/-- `main` up to the construction of the process, if it gets there. -/
def readOptions : Except Exit (ProgramOptions × Telemetry) :=
  match launch.parseCommandLineOptions with
  | .error _ => .error { ending := .exitFailure }
  | .ok (_, true) => .error { ending := .exitSuccess }
  | .ok (iniFile, false) =>
    let ini := { launch.ini with iniFile }
    match ini.parseIniFile with
    | .error _ => .error { ending := .exitFailure }
    | .ok programOptions => initializeTelemetry ini programOptions

/-- `main` from there on, if the process stops in a run. -/
def runProcess (programOptions : ProgramOptions) (telemetry : Telemetry)
    (events : List (Process.Event programOptions.dataLinkClientOptions.length)) : Option Exit :=
  let cleaned := telemetry.cleanupMetrics.cleanupLogger
  match Connections.constructProcess programOptions (launch.returnCode programOptions) launch.answers with
  | none => none
  | some (.error _, _) => some { ending := .exitFailure, telemetry := cleaned }
  | some (.ok (), m) =>
    match Connected.run launch.lib programOptions m launch.savedState events with
    | none => none
    | some x => if x.process.main = .stopped then some { ending := .exitSuccess, telemetry := cleaned } else none

def main (events : (n : Nat) → List (Process.Event n)) : Option Exit :=
  match launch.readOptions with
  | .error exit => some exit
  | .ok (programOptions, telemetry) => launch.runProcess programOptions telemetry (events _)

end

/-! ### How the program ends -/

/-- The options that are loaded from the file that the command line names. -/
def Configures (launch : Launch) (options : ProgramOptions) : Prop :=
  ∃ iniFile, launch.parseCommandLineOptions = .ok (iniFile, false) ∧
    { launch.ini with iniFile }.parseIniFile = .ok options

variable {launch : Launch} {options : ProgramOptions}

end Launch

end USEEDLinkToRingServer
