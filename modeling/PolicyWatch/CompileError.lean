import PolicyWatch.Field.Basic
import PolicyWatch.Glob.Parser
import PolicyWatch.Label.Source
import PolicyWatch.Text.Numeral

/-!
# Faults of policies

The reasons why a policy cannot be compiled, and what is said of them.
-/

namespace PolicyWatch

/-- Why a value does not fit its field. -/
inductive ValueFault where
  | notAbsolute
  | notBoolean
  | notNumeral (fault : Text.NumeralFault)
  | unknownOperation
  | noOperations
  deriving DecidableEq, Repr

/-- What is said of a value that does not fit its field. -/
def ValueFault.message (value : String) : ValueFault → String
  | notAbsolute => "path must be absolute"
  | notBoolean => "expected 'true' or 'false'"
  | notNumeral fault => fault.message
  | unknownOperation => FileOperation.unknownMessage value
  | noOperations => "operation restriction must list at least one operation"

/-- Why an entry is no scope. -/
inductive ScopeFault where
  | noFields
  | mixedFields
  | emptyPlace
  | emptyLabelKey
  deriving DecidableEq, Repr

def ScopeFault.message : ScopeFault → String
  | noFields => "scope entry sets no field"
  | mixedFields => "cluster/namespace cannot be combined with cluster_label/namespace_label"
  | emptyPlace => "cluster and namespace must not be empty"
  | emptyLabelKey => "label key must not be empty"

/-- What is wrong with an entry of a list of scopes, at an index. -/
inductive ScopeError where
  | invalid (index : Nat) (fault : ScopeFault)
  | missingProvider (index : Nat) (kind : LabelKind)
  deriving DecidableEq, Repr

/-- The wording of what is wrong with a list of scopes. -/
def ScopeError.message : ScopeError → String
  | invalid index fault => s!"scope entry {index} is invalid: " ++ fault.message
  | missingProvider index kind =>
      s!"scope entry {index} uses a " ++ kind.name ++ " label but no " ++ kind.name ++
        " label provider was supplied"

inductive ExclusionFault where
  | noDeployment
  | scope (error : ScopeError)
  deriving DecidableEq, Repr

def ExclusionFault.message : ExclusionFault → String
  | noDeployment => "scope entry 0 is invalid: exclusion names no deployment"
  | scope error => error.message

/-- Why a policy cannot be compiled. -/
inductive CompileError where
  | emptyId
  | emptyName (policyId : String)
  | noSections (policyId : String)
  | emptySection (policyId : String) (index : Nat)
  | runtimeWithoutSource (policyId : String)
  | unknownField (name : String)
  | unsupportedField (field : Field) (eventSource : EventSource)
  | invalidValue (field : Field) (value : String) (fault : ValueFault)
  | invalidRegex (field : Field) (value : String)
  | invalidGlob (field : Field) (value : String) (fault : Glob.Fault)
  | operationsNotSupported (field : Field)
  | scope (error : ScopeError)
  | exclusion (name : String) (fault : ExclusionFault)
  deriving DecidableEq, Repr

def CompileError.message : CompileError → String
  | emptyId => "policy id must not be empty"
  | emptyName policyId => "policy '" ++ policyId ++ "' has no name"
  | noSections policyId => "policy '" ++ policyId ++ "' has no policy sections"
  | emptySection policyId index =>
      s!"section {index} of policy '" ++ policyId ++ "' has no policy groups"
  | runtimeWithoutSource policyId =>
      "runtime policy '" ++ policyId ++ "' must set event_source to DEPLOYMENT_EVENT or NODE_EVENT"
  | unknownField name => "unknown field name '" ++ name ++ "'"
  | unsupportedField field eventSource =>
      "field '" ++ field.name ++ "' cannot be used in a policy with event source " ++
        eventSource.name
  | invalidValue field value fault =>
      "invalid value '" ++ value ++ "' for field '" ++ field.name ++ "': " ++ fault.message value
  | invalidRegex field value => "invalid regex '" ++ value ++ "' for field '" ++ field.name ++ "'"
  | invalidGlob field value fault =>
      "invalid path pattern '" ++ value ++ "' for field '" ++ field.name ++ "': " ++
        fault.report value
  | operationsNotSupported field =>
      "field '" ++ field.name ++ "' does not support an operation restriction"
  | scope error => error.message
  | exclusion name fault => "exclusion '" ++ name ++ "' is invalid: " ++ fault.message

end PolicyWatch
