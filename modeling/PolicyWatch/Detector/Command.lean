import PolicyWatch.Detector.Reprocessing
import PolicyWatch.PolicyDirectory
import PolicyWatch.Regex.Size

/-!
# The command

A run of the program: the settings, with what the command line says instead, the
policies, and one command.
-/

namespace PolicyWatch.Detector

def logTarget : String := "detector"

/-- The settings of a file.  Without the file they are all left at their defaults. -/
def loadSettings (files : FileTree) (path : String) : Except Failure Settings :=
  match files.entry? path with
  | none => .ok .default
  | some (.directory _) =>
      .error (.ofMessage ("failed to read config file " ++ path ++ ": " ++ directoryFault))
  | some (.spoiled _) =>
      .error (.ofMessage ("failed to read config file " ++ path ++ ": " ++ FileEntry.spoiledFault))
  | some (.file text) =>
      match Settings.ofText? text with
      | some settings => .ok settings
      | none => .error (.ofMessage ("failed to parse config file " ++ path))

def settle (files : FileTree) (request : CommandLine.Request) : Except Failure Settings := do
  let settings := (← loadSettings files request.config).override request
  settings.reprocessing.validate
  return settings

def carryOut (detector : Detector) (files : FileTree) (input : String) (failed : Nat)
    (settings : Settings) : CommandLine.Command → RunReport
  | .check => detector.check failed
  | .evaluate events => detector.evaluate files input events
  | .reprocess deployments cluster _ _ _ =>
      detector.reprocess files settings.reprocessing deployments cluster

def runWith [SizeLimit] (files : FileTree) (input : String) (now : Instant)
    (request : CommandLine.Request) (settings : Settings) : RunReport :=
  let starting := LogRecord.info "detector starting"
    [("config_file", .string request.config), ("policies", .string settings.policies)]
  match loadPolicies files settings.policies with
  | .error failure => (RunReport.failed (failure.within "failed to load policies")).after [starting]
  | .ok policies =>
      let (detector, failed) := ofPolicies settings.labels now policies
      let loaded := LogRecord.info "policies loaded"
        [("path", .string settings.policies),
          ("total", Json.ofNat policies.length),
          ("compiled", Json.ofNat detector.registry.size),
          ("failed", Json.ofNat failed)]
      ((detector.carryOut files input failed settings request.command).closingWith
        (.info "detector shutting down" [])).after [starting, loaded]

/-- Run the program.  Records that the filter of the settings does not let through
are left out. -/
def run [SizeLimit] (files : FileTree) (input : String) (now : Instant) (words : List String) :
    RunReport :=
  match CommandLine.parse words with
  | .error error => ⟨[], [], .usage error⟩
  | .ok request =>
      match settle files request with
      | .error failure => .failed failure
      | .ok settings =>
          let report := runWith files input now request settings
          let filter := LogFilter.ofText settings.level
          { report with records := report.records.filter (filter.passes logTarget) }

end PolicyWatch.Detector
