import PolicyWatch.Proofs.Field.Matcher
import PolicyWatch.Proofs.Scope.Meaning
import PolicyWatch.Regex.Size

/-!
# Compiled tests fit what they test

A condition refuses a value of another type just as it refuses one that does not pass, and a label
without a source is taken not to be there, so that a test that did not fit what it tests would go
unnoticed.  Main statement: no compiled test of a field ever meets a value of another type, and no
checked scope ever asks for a label without a source.
-/

namespace PolicyWatch

/-! ## Types of values -/

inductive ValueType where
  | text
  | integer
  | flag
  | operation
  deriving DecidableEq

namespace ValueType

@[reducible] def Carrier : ValueType → Type
  | text => String
  | integer => Int
  | flag => Bool
  | operation => FileOperation

def inject : (type : ValueType) → type.Carrier → FieldValue
  | text, content => .text content
  | integer, content => .integer content
  | flag, content => .flag content
  | operation, content => .operation content

end ValueType

def FieldValue.type : FieldValue → ValueType
  | text _ => .text
  | integer _ => .integer
  | flag _ => .flag
  | operation _ => .operation

/-- The type of the values that are compared with listed ones of a kind. -/
def ValueKind.type : ValueKind → ValueType
  | regex _ | path => .text
  | boolean => .flag
  | numeric => .integer
  | fileOperation => .operation

theorem ValueType.type_inject (type : ValueType) (content : type.Carrier) :
    (type.inject content).type = type := by
  cases type <;> rfl

theorem FieldValue.exists_inject {value : FieldValue} {type : ValueType}
    (same : value.type = type) : ∃ content, value = type.inject content := by
  subst same
  cases value with
  | text content => exact ⟨content, rfl⟩
  | integer content => exact ⟨content, rfl⟩
  | flag content => exact ⟨content, rfl⟩
  | operation content => exact ⟨content, rfl⟩

/-! ## Conditions -/

namespace Condition

@[reducible] def tested : Condition → ValueType
  | regex _ | path _ => .text
  | flag _ => .flag
  | number _ => .integer
  | operation _ => .operation

/-- Whether a condition holds of what a value of its type is made from. -/
def holds : (condition : Condition) → condition.tested.Carrier → Bool
  | regex expression, content => expression.isFoundIn content.toList
  | path pattern, content => pattern.accepts content
  | flag wanted, content => content == wanted
  | number comparison, content => comparison.holds content
  | operation wanted, content => content == wanted

/-- Whether a value is of the type that a condition is about, so that the condition itself decides
whether it passes. -/
def Tests (condition : Condition) (value : FieldValue) : Prop :=
  ∃ content, value = condition.tested.inject content ∧
    condition.accepts value = condition.holds content

theorem accepts_inject (condition : Condition) (content : condition.tested.Carrier) :
    condition.accepts (condition.tested.inject content) = condition.holds content := by
  cases condition <;> rfl

theorem tests_iff (condition : Condition) (value : FieldValue) :
    condition.Tests value ↔ value.type = condition.tested := by
  constructor
  · rintro ⟨content, rfl, _⟩
    exact ValueType.type_inject condition.tested content
  · intro same
    obtain ⟨content, rfl⟩ := FieldValue.exists_inject same
    exact ⟨content, rfl, condition.accepts_inject content⟩

theorem tested_of_ofValue [SizeLimit] {field : Field} {listed : String} {condition : Condition}
    (read : ofValue field listed = .ok condition) : condition.tested = field.kind.type := by
  unfold ofValue at read
  split at read
  all_goals
    rename_i kind
    rw [kind]
    split at read
    · cases read
      rfl
    · cases read

end Condition

/-! ## Values of fields -/

namespace Event

def containers (event : Event) : List Container :=
  event.deployment?.toList.flatMap Deployment.containers

def has (event : Event) : FieldSource → Bool
  | .deployment => event.deployment?.isSome
  | .process => event.process?.isSome
  | .fileAccess => event.fileAccess?.isSome

end Event

namespace Field

def isOfContainers : Field → Bool
  | imageTag | imageRegistry | imageRemote | containerName | privilegedContainer => true
  | _ => false

variable {field : Field} {event : Event} {value : FieldValue}

theorem isAvailableOn_kind (field : Field) (event : Event) :
    field.isAvailableOn event.kind = event.has field.source := by
  unfold isAvailableOn
  cases field.source <;> cases event <;> rfl

theorem carried_eq_nil (missing : event.has field.source = false) : field.carried event = [] := by
  cases field
  all_goals
    have absent := Option.isSome_eq_false_iff.1 missing
    rw [Option.isNone_iff_eq_none] at absent
    simp [carried, ofContainers, ofProcess, ofFileAccess, absent]

/-- Nothing is lost by looking only into events whose kind carries the field. -/
theorem extract_eq_carried (field : Field) (event : Event) :
    field.extract event = field.carried event := by
  unfold extract
  rw [isAvailableOn_kind]
  split
  · rfl
  · rename_i missing
    exact (carried_eq_nil (Bool.eq_false_iff.2 missing)).symm

theorem type_of_mem_pathValue {path : String} (member : value ∈ pathValue path) :
    value.type = .text := by
  unfold pathValue at member
  split at member
  · exact absurd member List.not_mem_nil
  · rw [List.eq_of_mem_singleton member]
    rfl

theorem type_of_mem_carried (member : value ∈ field.carried event) :
    value.type = field.kind.type := by
  cases field with
  | actualPath | effectivePath =>
      obtain ⟨_, _, ofPath⟩ := List.mem_flatMap.1 member
      exact type_of_mem_pathValue ofPath
  | fileOperation =>
      obtain ⟨_, _, ofAccess⟩ := List.mem_flatMap.1 member
      rw [List.eq_of_mem_singleton ofAccess]
      rfl
  | _ =>
      obtain ⟨_, _, rfl⟩ := List.mem_map.1 member
      rfl

theorem length_pathValue_le_one (path : String) : (pathValue path).length ≤ 1 := by
  unfold pathValue
  split
  · exact Nat.zero_le 1
  · exact Nat.le_refl 1

theorem length_ofFileAccess_le_one {values : FileAccess → List FieldValue}
    (atMost : ∀ access, (values access).length ≤ 1) : (ofFileAccess event values).length ≤ 1 := by
  unfold ofFileAccess
  cases event.fileAccess? with
  | none => exact Nat.zero_le 1
  | some access =>
      rw [Option.toList_some, List.flatMap_singleton]
      exact atMost access

theorem length_carried_le_one (notOfContainers : field.isOfContainers = false) (event : Event) :
    (field.carried event).length ≤ 1 := by
  cases field with
  | imageTag | imageRegistry | imageRemote | containerName | privilegedContainer =>
      cases notOfContainers
  | replicas | processName | processArguments | processUserId =>
      exact Nat.le_trans (Nat.le_of_eq (List.length_map _)) Option.length_toList_le
  | actualPath | effectivePath =>
      exact length_ofFileAccess_le_one fun _ => length_pathValue_le_one _
  | fileOperation => exact length_ofFileAccess_le_one fun _ => Nat.le_refl 1

theorem exists_carried_eq_map (ofContainers : field.isOfContainers = true) :
    ∃ read : Container → FieldValue, ∀ event, field.carried event = event.containers.map read := by
  cases field with
  | imageTag | imageRegistry | imageRemote | containerName | privilegedContainer =>
      exact ⟨_, fun _ => rfl⟩
  | _ => cases ofContainers

end Field

/-- What it means that whatever is compiled for a field fits its values in every event. -/
structure Field.FitsEvents [SizeLimit] (field : Field) : Prop where
  /-- A compiled test looks at the field, and each of its conditions itself decides whether a value
  that an event has of it passes. -/
  typed : ∀ values matcher, FieldMatcher.compile field values = .ok matcher →
    matcher.field = field ∧ ∀ event, ∀ value ∈ field.extract event,
      ∀ condition ∈ matcher.conditions, condition.Tests value
  /-- Values are found only in events of a kind that carries the field. -/
  available : ∀ event, field.extract event ≠ [] → field.isAvailableOn event.kind = true
  /-- All that an event has of the field is found. -/
  complete : ∀ event, field.extract event = field.carried event
  /-- A field of containers has exactly one value for each container. -/
  each : field.isOfContainers = true → ∃ read : Container → FieldValue,
    ∀ event, field.extract event = event.containers.map read
  /-- Any other field has one value at most. -/
  single : field.isOfContainers = false → ∀ event, (field.extract event).length ≤ 1

theorem Field.fitsEvents [SizeLimit] (field : Field) : field.FitsEvents := by
  constructor
  case typed =>
    intro values matcher compiled
    obtain ⟨same, read⟩ := FieldMatcher.of_compile compiled
    refine ⟨same, fun event value found condition listed => ?_⟩
    have tested : condition.tested = field.kind.type :=
      Checks.forall_mem_of_forall₂ read (fun _ _ made => Condition.tested_of_ofValue made)
        condition listed
    rw [extract_eq_carried] at found
    exact (condition.tests_iff value).2 ((type_of_mem_carried found).trans tested.symm)
  case available =>
    intro event found
    by_contra missing
    exact found (if_neg missing)
  case complete => exact field.extract_eq_carried
  case each =>
    intro ofContainers
    simp only [extract_eq_carried]
    exact exists_carried_eq_map ofContainers
  case single =>
    intro notOfContainers event
    rw [extract_eq_carried]
    exact length_carried_le_one notOfContainers event

/-! ## Labels of scopes -/

def ScopeRule.label? : ScopeRule → LabelKind → Option ScopeLabel
  | direct .., _ => none
  | labels cluster _, .clusterLabels => cluster
  | labels _ namespaceLabel, .namespaceLabels => namespaceLabel

theorem ScopeRule.covers_of_compile {supply : LabelSupply} {index : Nat} {scope : Scope}
    {rule : ScopeRule} (accepted : compile supply index scope = .ok rule) (kind : LabelKind)
    (asked : (rule.label? kind).isSome) : supply.covers kind = true := by
  rcases of_compile accepted with ⟨rfl, _⟩ | ⟨rfl, _, _, clusters, namespaces⟩
  · cases asked
  · cases kind with
    | clusterLabels => exact clusters asked
    | namespaceLabels => exact namespaces asked

/-- Queries that ask alike about each member of a list ask alike about the list. -/
theorem LabelQuery.any_congr {α : Type} {first second : α → LabelQuery Bool} {values : List α}
    (alike : ∀ value ∈ values, first value = second value) :
    any first values = any second values := by
  induction values with
  | nil => rfl
  | cons value rest ih =>
      obtain ⟨same, others⟩ := List.forall_mem_cons.1 alike
      rw [any, any, same, ih others]

namespace ScopeResolver

variable {supply : LabelSupply} {scopes : List Scope} {resolver : ScopeResolver}

/-- A resolver that takes it that there is a source for every kind of labels. -/
def trusting (resolver : ScopeResolver) : ScopeResolver :=
  { resolver with supply := .full }

/-- What it means that a resolver has a source for every label that it asks for. -/
structure IsSupplied (resolver : ScopeResolver) : Prop where
  /-- There is a source for each kind of labels that a rule asks for. -/
  supplied : ∀ rule ∈ resolver.rules, ∀ kind,
    (rule.label? kind).isSome → resolver.supply.covers kind = true
  /-- It makes no difference whether it looks for the source. -/
  unguarded : ∀ answers place,
    resolver.trusting.covers answers place = resolver.covers answers place

theorem hasLabel?_trusting {kind : LabelKind} {label : Option ScopeLabel}
    (supplied : label.isSome → resolver.supply.covers kind = true) (answers : LabelAnswers)
    (id : String) :
    resolver.trusting.hasLabel? answers kind id label =
      resolver.hasLabel? answers kind id label := by
  cases label with
  | none => rfl
  | some sought =>
      have full : resolver.trusting.supply.covers kind = true := by cases kind <;> rfl
      simp only [hasLabel?, hasLabel, full, supplied rfl]

theorem ruleCovers_trusting {rule : ScopeRule}
    (supplied : ∀ kind, (rule.label? kind).isSome → resolver.supply.covers kind = true)
    (answers : LabelAnswers) (place : Place) :
    resolver.trusting.ruleCovers answers place rule = resolver.ruleCovers answers place rule := by
  cases rule with
  | direct cluster namespaceName => rfl
  | labels cluster namespaceLabel =>
      have clusters : cluster.isSome → resolver.supply.covers .clusterLabels = true :=
        supplied .clusterLabels
      have namespaces : namespaceLabel.isSome → resolver.supply.covers .namespaceLabels = true :=
        supplied .namespaceLabels
      rw [ruleCovers, ruleCovers, hasLabel?_trusting clusters, hasLabel?_trusting namespaces]

/-- A checked list of scopes has a source for every label that it asks for. -/
theorem isSupplied_of_compile (accepted : compile supply scopes = .ok resolver) :
    resolver.IsSupplied := by
  obtain ⟨rfl, related⟩ := of_compile accepted
  have supplied : ∀ rule ∈ resolver.rules, ∀ kind,
      (rule.label? kind).isSome → resolver.supply.covers kind = true :=
    Checks.forall_mem_of_forall₂ related fun _ _ ⟨_, made⟩ => ScopeRule.covers_of_compile made
  constructor
  case supplied => exact supplied
  case unguarded =>
    intro answers place
    have alike : LabelQuery.any (resolver.trusting.ruleCovers answers place) resolver.rules =
        LabelQuery.any (resolver.ruleCovers answers place) resolver.rules :=
      LabelQuery.any_congr fun rule member =>
        ruleCovers_trusting (supplied rule member) answers place
    unfold covers
    rw [← alike]
    rfl

end ScopeResolver

/-- Whatever is compiled for a field fits its values in every event, and a checked list of scopes
has a source for every label that it asks for. -/
theorem compiled_tests_fit [SizeLimit] :
    (∀ field : Field, field.FitsEvents) ∧
      ∀ supply scopes resolver, ScopeResolver.compile supply scopes = .ok resolver →
        resolver.IsSupplied :=
  ⟨Field.fitsEvents, fun _ _ _ => ScopeResolver.isSupplied_of_compile⟩

/-- The user of a process is a number, which the bounds listed for it decide, and a label of a
cluster is asked for where its labels have a source, which those of namespaces need not have. -/
theorem userBounds_and_clusterLabel_fit :
    let subject : Deployment := ⟨"d1", "web", "east", "shop", "n1", 3, .empty, []⟩
    let event : Event := .process subject ⟨"p1", "d1", "main", ⟨"bash", "", "/bin/bash", 1001⟩⟩
    let scope : Scope := ⟨none, none, some ⟨"env", "prod"⟩, none⟩
    (∃ matcher, FieldMatcher.compile .processUserId [">= 1000", "=0"] = .ok matcher ∧
      Field.processUserId.extract event = [.integer 1001] ∧ matcher.conditions.length = 2 ∧
      ∀ condition ∈ matcher.conditions, condition.Tests (.integer 1001)) ∧
    ∃ resolver, ScopeResolver.compile ⟨true, false⟩ [scope] = .ok resolver ∧
      resolver.IsSupplied ∧ resolver.supply.covers .clusterLabels = true := by
  intro subject event scope
  obtain ⟨fits, supplies⟩ := compiled_tests_fit
  have compiled : FieldMatcher.compile .processUserId [">= 1000", "=0"] =
      .ok ⟨.processUserId, [.number ⟨.atLeast, 1000⟩, .number ⟨.equal, 0⟩]⟩ := by rfl
  have accepted : ScopeResolver.compile ⟨true, false⟩ [scope] =
      .ok ⟨[.labels (some ⟨"env", "prod"⟩) none], ⟨true, false⟩⟩ := by rfl
  have isSupplied := supplies _ _ _ accepted
  refine ⟨⟨_, compiled, rfl, rfl, ?_⟩, ⟨_, accepted, isSupplied, ?_⟩⟩
  · exact ((fits .processUserId).typed _ _ compiled).2 event _ List.mem_cons_self
  · exact isSupplied.supplied _ List.mem_cons_self .clusterLabels rfl

end PolicyWatch
