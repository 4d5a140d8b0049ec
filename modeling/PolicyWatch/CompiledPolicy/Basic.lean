import PolicyWatch.Field.Matcher
import PolicyWatch.Scope

/-!
# Compiled policies

A compiled policy is a policy together with its checked groups, scopes and
exclusions.  Compiling reports the first fault of a policy: first of the policy
itself, then of its sections, its scopes and its exclusions, each in order.
-/

namespace PolicyWatch

structure CompiledGroup where
  matcher : FieldMatcher
  negate : Bool
  operations : Option (List FileOperation)

structure CompiledSection where
  groups : List CompiledGroup

/-- A checked exclusion.  Without a deployment name every deployment is meant. -/
structure CompiledExclusion where
  name : String
  deploymentName : Option String
  scope : Option ScopeResolver
  expiration : Option Instant
  deriving DecidableEq

structure CompiledPolicy where
  policy : Policy
  sections : List CompiledSection
  scope : ScopeResolver
  exclusions : List CompiledExclusion

namespace CompiledGroup

def checkOperations (field : Field) :
    Option (List FileOperation) → Except CompileError (Option (List FileOperation))
  | none => .ok none
  | some operations =>
      if !field.isPath then .error (.operationsNotSupported field)
      else if operations.isEmpty then .error (.invalidValue field "" .noOperations)
      else .ok (some operations)

def compile [SizeLimit] (eventSource : EventSource) (group : PolicyGroup) :
    Except CompileError CompiledGroup :=
  match Field.named? group.fieldName with
  | none => .error (.unknownField group.fieldName)
  | some field =>
      if field.isAllowedFor eventSource then do
        let matcher ← FieldMatcher.compile field group.values
        let operations ← checkOperations field group.operations
        return ⟨matcher, group.negate, operations⟩
      else .error (.unsupportedField field eventSource)

end CompiledGroup

namespace CompiledSection

def compile [SizeLimit] (policy : Policy) (index : Nat) (clause : PolicySection) :
    Except CompileError CompiledSection :=
  if clause.groups.isEmpty then .error (.emptySection policy.id index)
  else do return ⟨← clause.groups.mapM (CompiledGroup.compile policy.eventSource)⟩

/-- Check sections, the first of which stands at an index. -/
def compileFrom [SizeLimit] (policy : Policy) :
    Nat → List PolicySection → Except CompileError (List CompiledSection)
  | _, [] => .ok []
  | index, clause :: rest => do
      let first ← compile policy index clause
      let others ← compileFrom policy (index + 1) rest
      return first :: others

end CompiledSection

namespace CompiledExclusion

def compileScope (supply : LabelSupply) :
    Option Scope → Except ExclusionFault (Option ScopeResolver)
  | none => .ok none
  | some scope =>
      match ScopeResolver.compile supply [scope] with
      | .ok resolver => .ok (some resolver)
      | .error error => .error (.scope error)

/-- Check an exclusion.  An empty name of a deployment is no name. -/
def compile (supply : LabelSupply) (exclusion : Exclusion) :
    Except CompileError CompiledExclusion :=
  match exclusion.deployment with
  | none => .error (.exclusion exclusion.name .noDeployment)
  | some excluded =>
      match compileScope supply excluded.scope with
      | .ok scope =>
          .ok ⟨exclusion.name, excluded.name.filter (· != ""), scope, exclusion.expiration⟩
      | .error fault => .error (.exclusion exclusion.name fault)

end CompiledExclusion

namespace CompiledPolicy

/-- Check what concerns a policy as a whole.  Events at run time belong to a
source, so a policy for them must name one. -/
def checkHead (policy : Policy) : Except CompileError Unit :=
  if policy.id = "" then .error .emptyId
  else if policy.name = "" then .error (.emptyName policy.id)
  else if policy.sections.isEmpty then .error (.noSections policy.id)
  else if policy.hasStage .runtime && policy.eventSource == .notApplicable then
    .error (.runtimeWithoutSource policy.id)
  else .ok ()

def compileScopes (supply : LabelSupply) (scopes : List Scope) :
    Except CompileError ScopeResolver :=
  match ScopeResolver.compile supply scopes with
  | .ok resolver => .ok resolver
  | .error error => .error (.scope error)

def compile [SizeLimit] (supply : LabelSupply) (policy : Policy) :
    Except CompileError CompiledPolicy := do
  checkHead policy
  let sections ← CompiledSection.compileFrom policy 0 policy.sections
  let scope ← compileScopes supply policy.scopes
  let exclusions ← policy.exclusions.mapM (CompiledExclusion.compile supply)
  return ⟨policy, sections, scope, exclusions⟩

def id (compiled : CompiledPolicy) : String :=
  compiled.policy.id

end CompiledPolicy

end PolicyWatch
