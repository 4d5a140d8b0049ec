import PolicyWatch.FileOperation
import PolicyWatch.Instant.Basic

/-!
# Policies

A policy matches an event if one of its sections does; a section matches if all
its groups do.  Scopes and exclusions restrict where the policy applies.
-/

namespace PolicyWatch

/-- How grave a violation of a policy is. -/
inductive Severity where
  | low
  | medium
  | high
  | critical
  deriving DecidableEq, Repr

namespace Severity

def all : List Severity := [low, medium, high, critical]

def name : Severity → String
  | low => "LOW"
  | medium => "MEDIUM"
  | high => "HIGH"
  | critical => "CRITICAL"

def named? (name : String) : Option Severity :=
  all.find? fun severity => severity.name = name

end Severity

inductive LifecycleStage where
  | build
  | deploy
  | runtime
  deriving DecidableEq, Repr

namespace LifecycleStage

def all : List LifecycleStage := [build, deploy, runtime]

def name : LifecycleStage → String
  | build => "BUILD"
  | deploy => "DEPLOY"
  | runtime => "RUNTIME"

def named? (name : String) : Option LifecycleStage :=
  all.find? fun stage => stage.name = name

end LifecycleStage

/-- The stream of events that a runtime policy listens to. -/
inductive EventSource where
  | notApplicable
  | deploymentEvent
  | nodeEvent
  deriving DecidableEq, Repr

namespace EventSource

def all : List EventSource := [notApplicable, deploymentEvent, nodeEvent]

def name : EventSource → String
  | notApplicable => "NOT_APPLICABLE"
  | deploymentEvent => "DEPLOYMENT_EVENT"
  | nodeEvent => "NODE_EVENT"

def named? (name : String) : Option EventSource :=
  all.find? fun source => source.name = name

end EventSource

/-- A predicate on one field.  Any listed value is enough.  With `operations`,
negation applies to the operations and not to the values. -/
structure PolicyGroup where
  fieldName : String
  values : List String
  negate : Bool
  operations : Option (List FileOperation)
  deriving DecidableEq

structure PolicySection where
  sectionName : Option String
  groups : List PolicyGroup
  deriving DecidableEq

structure ScopeLabel where
  key : String
  value : String
  deriving DecidableEq

/-- Where a policy applies, by cluster and namespace or by their labels. -/
structure Scope where
  cluster : Option String
  namespaceName : Option String
  clusterLabel : Option ScopeLabel
  namespaceLabel : Option ScopeLabel
  deriving DecidableEq

structure ExcludedDeployment where
  name : Option String
  scope : Option Scope
  deriving DecidableEq

/-- An exemption from a policy, until an instant if one is given. -/
structure Exclusion where
  name : String
  deployment : Option ExcludedDeployment
  expiration : Option Instant
  deriving DecidableEq

structure Policy where
  id : String
  name : String
  description : Option String
  severity : Severity
  disabled : Bool
  stages : List LifecycleStage
  eventSource : EventSource
  categories : List String
  sections : List PolicySection
  scopes : List Scope
  exclusions : List Exclusion
  notifiers : List String
  deriving DecidableEq

namespace Policy

/-- Whether a policy applies to events raised at a stage. -/
def hasStage (policy : Policy) (stage : LifecycleStage) : Bool :=
  policy.stages.contains stage

end Policy

end PolicyWatch
