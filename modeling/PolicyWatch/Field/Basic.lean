import PolicyWatch.Event

/-!
# Fields of events

The vocabulary of policies: each field has a name, a way to read its values,
and a part of the event that it is taken from.
-/

namespace PolicyWatch

/-- A field that policies may test. -/
inductive Field where
  | imageTag
  | imageRegistry
  | imageRemote
  | containerName
  | privilegedContainer
  | replicas
  | processName
  | processArguments
  | processUserId
  | actualPath
  | effectivePath
  | fileOperation
  deriving DecidableEq, Repr

/-- How the values of a field are read. -/
inductive ValueKind where
  | regex (ignoreCase : Bool)
  | path
  | boolean
  | numeric
  | fileOperation
  deriving DecidableEq, Repr

/-- The part of an event that a field is taken from. -/
inductive FieldSource where
  | deployment
  | process
  | fileAccess
  deriving DecidableEq, Repr

namespace Field

/-- Every field, in the order of the vocabulary. -/
def all : List Field :=
  [imageTag, imageRegistry, imageRemote, containerName, privilegedContainer, replicas,
    processName, processArguments, processUserId, actualPath, effectivePath, fileOperation]

def name : Field → String
  | imageTag => "Image Tag"
  | imageRegistry => "Image Registry"
  | imageRemote => "Image Remote"
  | containerName => "Container Name"
  | privilegedContainer => "Privileged Container"
  | replicas => "Replicas"
  | processName => "Process Name"
  | processArguments => "Process Arguments"
  | processUserId => "Process UID"
  | actualPath => "Actual Path"
  | effectivePath => "Effective Path"
  | fileOperation => "File Operation"

def named? (name : String) : Option Field :=
  all.find? fun field => field.name = name

/-- How the values of a field are read.  Case does not count in the parts of
image names. -/
def kind : Field → ValueKind
  | imageTag | imageRegistry | imageRemote => .regex true
  | containerName | processName | processArguments => .regex false
  | privilegedContainer => .boolean
  | replicas | processUserId => .numeric
  | actualPath | effectivePath => .path
  | fileOperation => .fileOperation

/-- The part of an event that a field is taken from. -/
def source : Field → FieldSource
  | imageTag | imageRegistry | imageRemote | containerName | privilegedContainer | replicas =>
      .deployment
  | processName | processArguments | processUserId => .process
  | actualPath | effectivePath | fileOperation => .fileAccess

def isAvailableOn (field : Field) (kind : EventKind) : Bool :=
  match field.source with
  | .deployment => kind != .nodeFileAccess
  | .process => kind == .process
  | .fileAccess => kind == .deploymentFileAccess || kind == .nodeFileAccess

/-- Whether a policy that listens to a source may test a field.  Events of
nodes carry no deployment. -/
def isAllowedFor (field : Field) (eventSource : EventSource) : Bool :=
  match eventSource with
  | .nodeEvent => field.source == .fileAccess
  | .deploymentEvent | .notApplicable => true

def isPath (field : Field) : Bool :=
  field.kind == .path

end Field

/-- A value taken from an event. -/
inductive FieldValue where
  | text (value : String)
  | integer (value : Int)
  | flag (value : Bool)
  | operation (value : FileOperation)
  deriving DecidableEq

namespace FieldValue

def toText : FieldValue → String
  | text value => value
  | integer value => toString value
  | flag true => "true"
  | flag false => "false"
  | operation value => value.name

end FieldValue

namespace Field

/-- A path as a value; an empty path is no path. -/
def pathValue (path : String) : List FieldValue :=
  if path = "" then [] else [.text path]

def ofContainers (event : Event) (value : Container → FieldValue) : List FieldValue :=
  (event.deployment?.toList.flatMap Deployment.containers).map value

def ofProcess (event : Event) (value : ProcessSignal → FieldValue) : List FieldValue :=
  event.process?.toList.map fun indicator => value indicator.signal

def ofFileAccess (event : Event) (values : FileAccess → List FieldValue) : List FieldValue :=
  event.fileAccess?.toList.flatMap values

def carried (field : Field) (event : Event) : List FieldValue :=
  match field with
  | imageTag => ofContainers event fun container => .text container.image.tag
  | imageRegistry => ofContainers event fun container => .text container.image.registry
  | imageRemote => ofContainers event fun container => .text container.image.remote
  | containerName => ofContainers event fun container => .text container.name
  | privilegedContainer => ofContainers event fun container => .flag container.privileged
  | replicas => event.deployment?.toList.map fun subject => .integer subject.replicas
  | processName => ofProcess event fun signal => .text signal.name
  | processArguments => ofProcess event fun signal => .text signal.arguments
  | processUserId => ofProcess event fun signal => .integer signal.userId
  | actualPath => ofFileAccess event fun access => pathValue access.file.actualPath
  | effectivePath => ofFileAccess event fun access => pathValue access.file.effectivePath
  | fileOperation => ofFileAccess event fun access => [.operation access.operation]

def extract (field : Field) (event : Event) : List FieldValue :=
  if field.isAvailableOn event.kind then field.carried event else []

end Field

end PolicyWatch
