import PolicyWatch.Alert
import PolicyWatch.CompiledPolicy.Basic

/-!
# Matching events

A policy matches an event that a section matches, whose place its scopes cover
and whose deployment no exclusion in force concerns.  Labels are looked up only
once a section matches.
-/

namespace PolicyWatch

/-- A group that matched, with the values that passed. -/
structure GroupMatch where
  field : Field
  negate : Bool
  values : List FieldValue
  deriving DecidableEq

namespace GroupMatch

def message (groupMatch : GroupMatch) : String :=
  if groupMatch.negate || groupMatch.values.isEmpty then
    "'" ++ groupMatch.field.name ++ "' does not match any allowed value"
  else
    "'" ++ groupMatch.field.name ++ "' matched: " ++
      String.intercalate ", " (groupMatch.values.map FieldValue.toText)

end GroupMatch

namespace CompiledGroup

def listsOperation (operations : List FileOperation) (event : Event) : Bool :=
  match event.fileAccess? with
  | some access => operations.contains access.operation
  | none => false

/-- Whether a group matches an event.  Negation turns the test of the field
around or, where operations are listed, the test of the operation only. -/
def isMet (group : CompiledGroup) (event : Event) : Bool :=
  match group.operations with
  | none => group.matcher.isMet event != group.negate
  | some operations =>
      group.matcher.isMet event && (listsOperation operations event != group.negate)

def groupMatch (group : CompiledGroup) (event : Event) : GroupMatch :=
  ⟨group.matcher.field, group.negate, group.matcher.passing event⟩

end CompiledGroup

namespace CompiledSection

/-- Whether a section matches an event: the event carries every field that the
section names, and every group matches. -/
def isMet (clause : CompiledSection) (event : Event) : Bool :=
  clause.groups.all (fun group => group.matcher.field.isAvailableOn event.kind) &&
    clause.groups.all fun group => group.isMet event

end CompiledSection

namespace CompiledExclusion

def isInForce (exclusion : CompiledExclusion) (now : Instant) : Bool :=
  exclusion.expiration.all fun expiration => now.isBefore expiration

def excludes (exclusion : CompiledExclusion) (answers : LabelAnswers) (now : Instant)
    (subject : Deployment) (place : Place) : LabelQuery Bool :=
  if exclusion.isInForce now && exclusion.deploymentName.all (· == subject.name) then
    match exclusion.scope with
    | some resolver => resolver.covers answers place
    | none => LabelQuery.pure true
  else LabelQuery.pure false

end CompiledExclusion

/-- The violations that an event shows, given the groups that matched: one for
the process or the file access that it reports, or one for each group. -/
def Event.violations (event : Event) (groupMatches : List GroupMatch) : List Violation :=
  match event with
  | .deployment _ => groupMatches.map fun groupMatch => .generic groupMatch.message
  | .process _ indicator => [.process indicator]
  | .deploymentFileAccess _ access => [.fileAccess access]
  | .nodeFileAccess _ access => [.fileAccess access]

/-- Why an event could not be matched. -/
inductive EvaluationError where
  | lookupFailed (kind : LabelKind) (id : String) (message : String)
  | crashed (policyId : String) (report : Option String)
  deriving DecidableEq

namespace EvaluationError

def message : EvaluationError → String
  | lookupFailed kind id message =>
      "failed to look up " ++ kind.name ++ " labels for '" ++ id ++ "': " ++ message
  | crashed policyId report =>
      "evaluation of policy '" ++ policyId ++ "' panicked: " ++ report.getD "unknown panic"

def messages : EvaluationError → List String
  | error@(lookupFailed _ _ cause) => [error.message, cause]
  | error@(crashed _ _) => [error.message]

/-- The error of a policy whose look-up went wrong. -/
def ofFault (policyId : String) : LookupFault → EvaluationError
  | .failed kind id message => lookupFailed kind id message
  | .crashed report => crashed policyId report

end EvaluationError

namespace CompiledPolicy

/-- Whether an event is matched against a policy at all: the policy is enabled,
it applies at the stage of the event, and it listens to the source of an event
at run time. -/
def isEligible (compiled : CompiledPolicy) (event : Event) : Bool :=
  !compiled.policy.disabled && compiled.policy.hasStage event.stage &&
    (event.kind == .deployment || compiled.policy.eventSource == event.source)

def groupMatches? (compiled : CompiledPolicy) (event : Event) : Option (List GroupMatch) :=
  (compiled.sections.find? fun clause => clause.isMet event).map fun clause =>
    clause.groups.map fun group => group.groupMatch event

def isExcluded (compiled : CompiledPolicy) (answers : LabelAnswers) (now : Instant)
    (event : Event) : LabelQuery Bool :=
  match event.deployment? with
  | some subject =>
      LabelQuery.any (fun exclusion => exclusion.excludes answers now subject event.place)
        compiled.exclusions
  | none => LabelQuery.pure false

/-- Whether the place of an event is in scope and its deployment not excluded. -/
def isConcerned (compiled : CompiledPolicy) (answers : LabelAnswers) (now : Instant)
    (event : Event) : LabelQuery Bool :=
  LabelQuery.and (compiled.scope.covers answers event.place)
    (LabelQuery.bind (compiled.isExcluded answers now event) fun excluded =>
      LabelQuery.pure !excluded)

/-- The violations that a policy finds in an event; none if it does not match. -/
def violations (compiled : CompiledPolicy) (answers : LabelAnswers) (now : Instant)
    (event : Event) (cache : LabelCache) : Except EvaluationError (List Violation) × LabelCache :=
  match compiled.groupMatches? event with
  | none => (.ok [], cache)
  | some groupMatches =>
      match compiled.isConcerned answers now event cache with
      | (.ok true, learned) => (.ok (event.violations groupMatches), learned)
      | (.ok false, learned) => (.ok [], learned)
      | (.error fault, learned) => (.error (.ofFault compiled.id fault), learned)

end CompiledPolicy

end PolicyWatch
