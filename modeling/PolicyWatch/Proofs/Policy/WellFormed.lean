import PolicyWatch.CompiledPolicy.Basic
import PolicyWatch.Proofs.Field.Matcher
import PolicyWatch.Proofs.Glob.PatternSet

/-!
# Well-formed policies

What a policy must be like to be compiled, said of the policy itself; and the same
as one list of requirements in the order in which a compiler goes through them,
each with the fault that it reports.  Main statement: all requirements are met
just if the policy is well-formed and no path pattern in it nests too deep.
-/

namespace PolicyWatch

open Checks

namespace Field

def requirements [SizeLimit] (field : Field) (listed : String) : List (Requirement CompileError) :=
  match field.kind with
  | .regex _ => [⟨field.Reads listed, .invalidRegex field listed⟩]
  | .path =>
      ⟨Text.startsWith ['/'] listed.toList = true, .invalidValue field listed .notAbsolute⟩ ::
        Requirement.ofReading (Glob.ofText listed.toList) (.invalidGlob field listed)
  | .boolean => [⟨field.Reads listed, .invalidValue field listed .notBoolean⟩]
  | .numeric =>
      Requirement.ofReading (Comparison.ofText listed.toList) fun fault =>
        .invalidValue field listed (.notNumeral fault)
  | .fileOperation => [⟨field.Reads listed, .invalidValue field listed .unknownOperation⟩]

def patternRequirements (field : Field) (values : List String) : List (Requirement CompileError) :=
  if field.isPath then
    (Glob.requirements (FieldMatcher.patterns values)).map
      (.map (.invalidGlob field (String.intercalate "," values)))
  else []

def operationRequirements (field : Field) :
    Option (List FileOperation) → List (Requirement CompileError)
  | none => []
  | some operations =>
      [⟨field.kind = .path, .operationsNotSupported field⟩,
        ⟨operations ≠ [], .invalidValue field "" .noOperations⟩]

theorem met_requirements [SizeLimit] {field : Field} {listed : String} :
    Met (field.requirements listed) ↔ field.Reads listed := by
  unfold requirements Reads
  cases field.kind <;> simp

theorem met_patternRequirements {field : Field} {values : List String} :
    Met (field.patternRequirements values) ↔
      (field.kind = .path → ∀ listed ∈ values, ∀ tokens, Glob.ofText listed.toList = .ok tokens →
        Glob.height tokens ≤ Glob.greatestHeight) := by
  have path : field.isPath = true ↔ field.kind = .path := beq_iff_eq
  unfold patternRequirements
  split
  · rename_i holds
    rw [met_map, Glob.met_requirements]
    constructor
    · intro met _ listed member tokens read
      exact met tokens (FieldMatcher.mem_patterns.2 ⟨listed, member, read⟩)
    · intro met tokens member
      obtain ⟨listed, listedMember, read⟩ := FieldMatcher.mem_patterns.1 member
      exact met (path.1 holds) listed listedMember tokens read
  · rename_i other
    exact iff_of_true met_nil fun holds => absurd (path.2 holds) other

theorem met_operationRequirements {field : Field} {operations : Option (List FileOperation)} :
    Met (field.operationRequirements operations) ↔
      ∀ listed, operations = some listed → field.kind = .path ∧ listed ≠ [] := by
  cases operations <;> simp [operationRequirements]

end Field

namespace PolicyGroup

def WellFormed [SizeLimit] (eventSource : EventSource) (group : PolicyGroup) : Prop :=
  ∃ field, Field.named? group.fieldName = some field ∧
    (eventSource = .nodeEvent → field.source = .fileAccess) ∧
    (∀ listed ∈ group.values, field.Reads listed) ∧
    ∀ operations, group.operations = some operations → field.kind = .path ∧ operations ≠ []

/-- Whether no path pattern that a group lists nests too deep. -/
def NestsWithinLimit (group : PolicyGroup) : Prop :=
  ∀ field, Field.named? group.fieldName = some field → field.kind = .path →
    ∀ listed ∈ group.values, ∀ tokens, Glob.ofText listed.toList = .ok tokens →
      Glob.height tokens ≤ Glob.greatestHeight

def requirements [SizeLimit] (eventSource : EventSource) (group : PolicyGroup) :
    List (Requirement CompileError) :=
  ⟨∃ field, Field.named? group.fieldName = some field, .unknownField group.fieldName⟩ ::
    match Field.named? group.fieldName with
    | none => []
    | some field =>
        ⟨eventSource = .nodeEvent → field.source = .fileAccess,
            .unsupportedField field eventSource⟩ ::
          (group.values.flatMap field.requirements ++ (field.patternRequirements group.values ++
            field.operationRequirements group.operations))

theorem met_requirements [SizeLimit] {eventSource : EventSource} {group : PolicyGroup} :
    Met (group.requirements eventSource) ↔
      group.WellFormed eventSource ∧ group.NestsWithinLimit := by
  unfold requirements WellFormed NestsWithinLimit
  cases named : Field.named? group.fieldName with
  | none => simp
  | some field =>
      simp only [met_cons, met_append, met_flatMap, Field.met_requirements,
        Field.met_patternRequirements, Field.met_operationRequirements, Option.some_inj,
        exists_eq', exists_eq_left', forall_eq', true_and]
      constructor
      · rintro ⟨allowed, read, nested, operated⟩
        exact ⟨⟨allowed, read, operated⟩, nested⟩
      · rintro ⟨⟨allowed, read, operated⟩, nested⟩
        exact ⟨allowed, read, nested, operated⟩

end PolicyGroup

namespace PolicySection

def WellFormed [SizeLimit] (eventSource : EventSource) (clause : PolicySection) : Prop :=
  clause.groups ≠ [] ∧ ∀ group ∈ clause.groups, group.WellFormed eventSource

def requirements [SizeLimit] (policy : Policy) (index : Nat) (clause : PolicySection) :
    List (Requirement CompileError) :=
  ⟨clause.groups ≠ [], .emptySection policy.id index⟩ ::
    clause.groups.flatMap (PolicyGroup.requirements policy.eventSource)

theorem met_requirements [SizeLimit] {policy : Policy} {index : Nat} {clause : PolicySection} :
    Met (clause.requirements policy index) ↔
      clause.WellFormed policy.eventSource ∧ ∀ group ∈ clause.groups, group.NestsWithinLimit := by
  simp only [requirements, WellFormed, met_cons, met_flatMap, PolicyGroup.met_requirements,
    forall_and, and_assoc]

end PolicySection

namespace Scope

/-- Whether a scope names a cluster or a namespace. -/
def IsDirect (scope : Scope) : Prop :=
  scope.cluster ≠ none ∨ scope.namespaceName ≠ none

def IsLabelled (scope : Scope) : Prop :=
  scope.clusterLabel ≠ none ∨ scope.namespaceLabel ≠ none

/-- Whether a scope is well-formed, given the sources of labels. -/
structure WellFormed (supply : LabelSupply) (scope : Scope) : Prop where
  unmixed : ¬ (scope.IsDirect ∧ scope.IsLabelled)
  set : scope.IsDirect ∨ scope.IsLabelled
  placed : scope.cluster ≠ some "" ∧ scope.namespaceName ≠ some ""
  keyed : ∀ label, scope.clusterLabel = some label ∨ scope.namespaceLabel = some label →
    label.key ≠ ""
  clusterSupplied : scope.clusterLabel ≠ none → supply.clusterLabels = true
  namespaceSupplied : scope.namespaceLabel ≠ none → supply.namespaceLabels = true

def requirements (supply : LabelSupply) (index : Nat) (scope : Scope) :
    List (Requirement ScopeError) := [
  ⟨¬ (scope.IsDirect ∧ scope.IsLabelled), .invalid index .mixedFields⟩,
  ⟨scope.IsDirect ∨ scope.IsLabelled, .invalid index .noFields⟩,
  ⟨scope.cluster ≠ some "" ∧ scope.namespaceName ≠ some "", .invalid index .emptyPlace⟩,
  ⟨∀ label, scope.clusterLabel = some label ∨ scope.namespaceLabel = some label → label.key ≠ "",
    .invalid index .emptyLabelKey⟩,
  ⟨scope.clusterLabel ≠ none → supply.clusterLabels = true,
    .missingProvider index .clusterLabels⟩,
  ⟨scope.namespaceLabel ≠ none → supply.namespaceLabels = true,
    .missingProvider index .namespaceLabels⟩]

theorem met_requirements {supply : LabelSupply} {index : Nat} {scope : Scope} :
    Met (scope.requirements supply index) ↔ scope.WellFormed supply := by
  simp only [requirements, met_cons, met_nil, and_true]
  constructor
  · rintro ⟨unmixed, set, placed, keyed, clusterSupplied, namespaceSupplied⟩
    exact ⟨unmixed, set, placed, keyed, clusterSupplied, namespaceSupplied⟩
  · rintro ⟨unmixed, set, placed, keyed, clusterSupplied, namespaceSupplied⟩
    exact ⟨unmixed, set, placed, keyed, clusterSupplied, namespaceSupplied⟩

end Scope

namespace Exclusion

def WellFormed (supply : LabelSupply) (exclusion : Exclusion) : Prop :=
  ∃ excluded, exclusion.deployment = some excluded ∧
    ∀ scope, excluded.scope = some scope → scope.WellFormed supply

def requirements (supply : LabelSupply) (exclusion : Exclusion) :
    List (Requirement CompileError) :=
  ⟨exclusion.deployment ≠ none, .exclusion exclusion.name .noDeployment⟩ ::
    match exclusion.deployment with
    | some ⟨_, some scope⟩ =>
        (scope.requirements supply 0).map
          (.map fun fault => .exclusion exclusion.name (.scope fault))
    | _ => []

theorem met_requirements {supply : LabelSupply} {exclusion : Exclusion} :
    Met (exclusion.requirements supply) ↔ exclusion.WellFormed supply := by
  unfold requirements WellFormed
  cases exclusion.deployment with
  | none => simp
  | some excluded =>
      obtain ⟨name, scope⟩ := excluded
      cases scope with
      | none => simp
      | some scope => simp [Scope.met_requirements]

end Exclusion

namespace Policy

/-- Whether a policy is well-formed, given the sources of labels. -/
structure WellFormed [SizeLimit] (supply : LabelSupply) (policy : Policy) : Prop where
  identified : policy.id ≠ ""
  named : policy.name ≠ ""
  clauses : policy.sections ≠ []
  sourced : .runtime ∈ policy.stages → policy.eventSource ≠ .notApplicable
  sections : ∀ clause ∈ policy.sections, clause.WellFormed policy.eventSource
  scopes : ∀ scope ∈ policy.scopes, scope.WellFormed supply
  exclusions : ∀ exclusion ∈ policy.exclusions, exclusion.WellFormed supply

/-- Whether no path pattern that a policy lists nests too deep. -/
def NestsWithinLimit (policy : Policy) : Prop :=
  ∀ clause ∈ policy.sections, ∀ group ∈ clause.groups, group.NestsWithinLimit

def headRequirements (policy : Policy) : List (Requirement CompileError) := [
  ⟨policy.id ≠ "", .emptyId⟩,
  ⟨policy.name ≠ "", .emptyName policy.id⟩,
  ⟨policy.sections ≠ [], .noSections policy.id⟩,
  ⟨.runtime ∈ policy.stages → policy.eventSource ≠ .notApplicable,
    .runtimeWithoutSource policy.id⟩]

def requirements [SizeLimit] (supply : LabelSupply) (policy : Policy) :
    List (Requirement CompileError) :=
  policy.headRequirements ++
    (policy.sections.zipIdx.flatMap fun entry => entry.1.requirements policy entry.2) ++
    ((policy.scopes.zipIdx.flatMap fun entry => entry.1.requirements supply entry.2).map
      (.map .scope)) ++
    policy.exclusions.flatMap (Exclusion.requirements supply)

theorem met_headRequirements {policy : Policy} :
    Met policy.headRequirements ↔
      policy.id ≠ "" ∧ policy.name ≠ "" ∧ policy.sections ≠ [] ∧
        (.runtime ∈ policy.stages → policy.eventSource ≠ .notApplicable) := by
  simp only [headRequirements, met_cons, met_nil, and_true]

/-- All requirements on a policy are met just if it is well-formed and none of its
path patterns nests too deep. -/
theorem met_requirements [SizeLimit] {supply : LabelSupply} {policy : Policy} :
    Met (policy.requirements supply) ↔ policy.WellFormed supply ∧ policy.NestsWithinLimit := by
  have clauses : Met (policy.sections.zipIdx.flatMap fun entry =>
        entry.1.requirements policy entry.2) ↔
      ∀ clause ∈ policy.sections, clause.WellFormed policy.eventSource ∧
        ∀ group ∈ clause.groups, group.NestsWithinLimit :=
    met_flatMap_zipIdx fun _ => PolicySection.met_requirements
  have scopes : Met (policy.scopes.zipIdx.flatMap fun entry =>
        entry.1.requirements supply entry.2) ↔ ∀ scope ∈ policy.scopes, scope.WellFormed supply :=
    met_flatMap_zipIdx fun _ => Scope.met_requirements
  simp only [requirements, met_append, met_headRequirements, met_map, clauses, scopes, met_flatMap,
    Exclusion.met_requirements, NestsWithinLimit, forall_and]
  constructor
  · rintro ⟨⟨⟨⟨identified, named, clauses, sourced⟩, sections, nested⟩, scopes⟩, exclusions⟩
    exact ⟨⟨identified, named, clauses, sourced, sections, scopes, exclusions⟩, nested⟩
  · rintro ⟨⟨identified, named, clauses, sourced, sections, scopes, exclusions⟩, nested⟩
    exact ⟨⟨⟨⟨identified, named, clauses, sourced⟩, sections, nested⟩, scopes⟩, exclusions⟩

end Policy

end PolicyWatch
