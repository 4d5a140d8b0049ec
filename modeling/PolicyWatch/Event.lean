import PolicyWatch.Label.Map
import PolicyWatch.Policy
import PolicyWatch.Text.Basic

/-!
# Events

What sensors and reprocessing report: a deployment, a process in one of its
containers, or file activity in a container or on a node.
-/

namespace PolicyWatch

structure ImageName where
  registry : String
  remote : String
  tag : String
  deriving DecidableEq

structure Container where
  name : String
  image : ImageName
  privileged : Bool
  deriving DecidableEq

structure Deployment where
  id : String
  name : String
  clusterId : String
  namespaceName : String
  namespaceId : String
  replicas : Int
  labels : LabelMap
  containers : List Container
  deriving DecidableEq

/-- What is known of a process that was started. -/
structure ProcessSignal where
  name : String
  arguments : String
  executablePath : String
  userId : Nat
  deriving DecidableEq

/-- A process that was started in a container. -/
structure ProcessIndicator where
  id : String
  deploymentId : String
  containerName : String
  signal : ProcessSignal
  deriving DecidableEq

structure Node where
  id : String
  name : String
  clusterId : String
  deriving DecidableEq

/-- The paths of a file: as opened and as seen from the node. -/
structure FileInfo where
  actualPath : String
  effectivePath : String
  deriving DecidableEq

structure FileAccess where
  file : FileInfo
  operation : FileOperation
  deriving DecidableEq

inductive Event where
  | deployment (deployment : Deployment)
  | process (deployment : Deployment) (indicator : ProcessIndicator)
  | deploymentFileAccess (deployment : Deployment) (access : FileAccess)
  | nodeFileAccess (node : Node) (access : FileAccess)
  deriving DecidableEq

inductive EventKind where
  | deployment
  | process
  | deploymentFileAccess
  | nodeFileAccess
  deriving DecidableEq, Repr

namespace EventKind

def all : List EventKind := [deployment, process, deploymentFileAccess, nodeFileAccess]

end EventKind

/-- Where an event happened. -/
structure Place where
  clusterId : String
  namespaceName : Option String
  namespaceId : Option String
  deriving DecidableEq

namespace Event

def kind : Event → EventKind
  | deployment .. => .deployment
  | process .. => .process
  | deploymentFileAccess .. => .deploymentFileAccess
  | nodeFileAccess .. => .nodeFileAccess

def source : Event → EventSource
  | nodeFileAccess .. => .nodeEvent
  | _ => .deploymentEvent

def stage : Event → LifecycleStage
  | deployment _ => .deploy
  | _ => .runtime

def deployment? : Event → Option Deployment
  | deployment subject => some subject
  | process subject _ => some subject
  | deploymentFileAccess subject _ => some subject
  | nodeFileAccess .. => none

def process? : Event → Option ProcessIndicator
  | process _ indicator => some indicator
  | _ => none

def fileAccess? : Event → Option FileAccess
  | deploymentFileAccess _ access => some access
  | nodeFileAccess _ access => some access
  | _ => none

def placeOf (subject : Deployment) : Place :=
  ⟨subject.clusterId, some subject.namespaceName, some subject.namespaceId⟩

/-- Where an event happened; an event of a node lies in no namespace. -/
def place : Event → Place
  | nodeFileAccess node _ => ⟨node.clusterId, none, none⟩
  | deployment subject => placeOf subject
  | process subject _ => placeOf subject
  | deploymentFileAccess subject _ => placeOf subject

end Event

end PolicyWatch
