import PolicyWatch.Json.Encoder
import PolicyWatch.Log
import PolicyWatch.Registry.Matching
import PolicyWatch.Settings

/-!
# The detector

The detector holds the policies that compile, with the labels of the settings,
and reports what it finds and does.
-/

namespace PolicyWatch

inductive OutputLine where
  | alert (alert : Alert)
  /-- A deployment whose risk was reprocessed, with its alerts. -/
  | reprocessed (deployment : Deployment) (alerts : List Alert)
  deriving DecidableEq

/-- How a run of the program ends. -/
inductive RunEnd where
  | success
  | failure (failure : Failure)
  /-- The program broke off. -/
  | crash
  /-- The command line made no sense. -/
  | usage (error : CommandLine.UsageError)
  deriving DecidableEq

/-- The status that the program leaves.  To ask for help is no failure. -/
def RunEnd.status : RunEnd → Nat
  | success => 0
  | failure _ => 1
  | usage .helpAsked => 0
  | usage .versionAsked => 0
  | usage _ => 2
  | crash => 101

/-- What a run of the program puts out: lines, records and its end. -/
structure RunReport where
  lines : List OutputLine
  records : List LogRecord
  ending : RunEnd

namespace RunReport

def failed (failure : Failure) : RunReport := ⟨[], [], .failure failure⟩

def after (records : List LogRecord) (report : RunReport) : RunReport :=
  { report with records := records ++ report.records }

/-- A run that leaves a record if it ends well. -/
def closingWith (record : LogRecord) (report : RunReport) : RunReport :=
  if report.ending = .success then { report with records := report.records ++ [record] }
  else report

end RunReport

def LogRecord.info (message : String) (fields : List (String × Json)) : LogRecord :=
  ⟨.info, message, fields⟩

def LogRecord.warn (message : String) (fields : List (String × Json)) : LogRecord :=
  ⟨.warn, message, fields⟩

/-- The detector: the compiled policies, the labels, and the time. -/
structure Detector where
  registry : Registry
  answers : LabelAnswers
  now : Instant

namespace Detector

/-- Put policies into a registry, and count those that do not compile. -/
def register [SizeLimit] : List Policy → Registry → Registry × Nat
  | [], registry => (registry, 0)
  | policy :: rest, registry =>
      match registry.upsert policy with
      | .ok grown => register rest grown
      | .error _ =>
          let (final, failed) := register rest registry
          (final, failed + 1)

/-- The detector of policies, with the number of those that do not compile. -/
def ofPolicies [SizeLimit] (labels : LabelSettings) (now : Instant) (policies : List Policy) :
    Detector × Nat :=
  let (registry, failed) := register policies (Registry.empty LabelSupply.full)
  (⟨registry, labels.answers, now⟩, failed)

def matchAll (detector : Detector) (event : Event) : MatchOutcome :=
  (detector.registry.matchAll detector.answers detector.now event).1

def check (detector : Detector) (failed : Nat) : RunReport :=
  if failed = 0 then
    ⟨[], [.info "all policies compiled" [("compiled", Json.ofNat detector.registry.size)]],
      .success⟩
  else
    ⟨[], [⟨.error, "policy check failed", [("failed", Json.ofNat failed)]⟩],
      .failure (.ofMessage (toString failed ++ " policies failed to compile"))⟩

end Detector

end PolicyWatch
