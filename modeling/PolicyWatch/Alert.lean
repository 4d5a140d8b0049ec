import PolicyWatch.Event

/-!
# Violations and alerts

A violation is one reason why a policy matched an event; an alert is a matched
policy with its violations.
-/

namespace PolicyWatch

inductive ViolationKind where
  | generic
  | process
  | fileAccess
  deriving DecidableEq, Repr

namespace ViolationKind

def name : ViolationKind → String
  | generic => "GENERIC"
  | process => "PROCESS"
  | fileAccess => "FILE_ACCESS"

end ViolationKind

/-- One reason why a policy matched an event.  A process or a file access is
carried along as the event reported it. -/
inductive Violation where
  | generic (message : String)
  | process (indicator : ProcessIndicator)
  | fileAccess (access : FileAccess)
  deriving DecidableEq

namespace Violation

def kind : Violation → ViolationKind
  | generic _ => .generic
  | process _ => .process
  | fileAccess _ => .fileAccess

def fileAccess? : Violation → Option FileAccess
  | fileAccess access => some access
  | _ => none

def process? : Violation → Option ProcessIndicator
  | process indicator => some indicator
  | _ => none

/-- What is said of a process: its path, or its name where no path is known. -/
def processMessage (indicator : ProcessIndicator) : String :=
  let signal := indicator.signal
  let binary := if signal.executablePath = "" then signal.name else signal.executablePath
  if signal.arguments = "" then
    "Binary '" ++ binary ++ "' executed without arguments under user ID " ++ toString signal.userId
  else
    "Binary '" ++ binary ++ "' executed with arguments '" ++ signal.arguments ++
      "' under user ID " ++ toString signal.userId

/-- What is said of a file access: the path as opened, or as seen from the node
where that is all that is known. -/
def fileAccessMessage (access : FileAccess) : String :=
  let path := if access.file.actualPath = "" then access.file.effectivePath
    else access.file.actualPath
  "'" ++ path ++ "' accessed (" ++ access.operation.name ++ ")"

def message : Violation → String
  | generic message => message
  | process indicator => processMessage indicator
  | fileAccess access => fileAccessMessage access

end Violation

/-- What an alert was raised against. -/
inductive AlertEntity where
  | deployment (id name clusterId namespaceName : String)
  | node (id name clusterId : String)
  deriving DecidableEq

namespace AlertEntity

def ofDeployment (subject : Deployment) : AlertEntity :=
  .deployment subject.id subject.name subject.clusterId subject.namespaceName

def ofEvent : Event → AlertEntity
  | .nodeFileAccess host _ => .node host.id host.name host.clusterId
  | .deployment subject => ofDeployment subject
  | .process subject _ => ofDeployment subject
  | .deploymentFileAccess subject _ => ofDeployment subject

end AlertEntity

/-- A matched policy with its violations. -/
structure Alert where
  policyId : String
  policyName : String
  severity : Severity
  stage : LifecycleStage
  entity : AlertEntity
  violations : List Violation
  deriving DecidableEq

namespace Alert

def raise (policy : Policy) (event : Event) (violations : List Violation) : Alert :=
  ⟨policy.id, policy.name, policy.severity, event.stage, AlertEntity.ofEvent event, violations⟩

end Alert

end PolicyWatch
