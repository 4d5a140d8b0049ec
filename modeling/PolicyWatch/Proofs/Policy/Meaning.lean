import PolicyWatch.Proofs.Field.Value
import PolicyWatch.Proofs.Label.Inquiry

/-!
# What policies mean

When a policy as written matches an event, said of the policy itself: by the
values it lists, by the scopes it names and by its exclusions, with the labels
that clusters and namespaces have.
-/

namespace PolicyWatch

namespace PolicyGroup

/-- Whether a value of a field passes a value that the group lists or, where it
lists none, whether there is a value at all. -/
def FieldHolds [SizeLimit] (group : PolicyGroup) (field : Field) (event : Event) : Prop :=
  ∃ value ∈ field.extract event,
    group.values = [] ∨ ∃ listed ∈ group.values, field.Passes listed value

/-- Whether a group holds of an event.  Negation turns the test of the field
around or, where operations are listed, the test of the operation only. -/
def Holds [SizeLimit] (group : PolicyGroup) (event : Event) : Prop :=
  ∃ field, Field.named? group.fieldName = some field ∧
    match group.operations with
    | none => group.FieldHolds field event ↔ ¬ group.negate = true
    | some operations =>
        group.FieldHolds field event ∧
          ((∃ access, event.fileAccess? = some access ∧ access.operation ∈ operations) ↔
            ¬ group.negate = true)

end PolicyGroup

/-- Whether a section holds of an event: events of its kind carry every field
that the section names, and every group holds. -/
def PolicySection.Holds [SizeLimit] (clause : PolicySection) (event : Event) : Prop :=
  (∀ group ∈ clause.groups, ∃ field, Field.named? group.fieldName = some field ∧
      field.isAvailableOn event.kind = true) ∧
    ∀ group ∈ clause.groups, group.Holds event

/-- Whether a label stands with its value under an ID, which must not be empty. -/
def ScopeLabel.StandsAt (label : ScopeLabel) (labels : Option LabelMap) (id : String) : Prop :=
  id ≠ "" ∧ ∃ map, labels = some map ∧ map.get? label.key = some label.value

/-- Whether a scope covers a place: everything that it sets holds there. -/
def Scope.Covers (scope : Scope) (labelling : Labelling) (place : Place) : Prop :=
  (∀ cluster, scope.cluster = some cluster → place.clusterId = cluster) ∧
    (∀ name, scope.namespaceName = some name → place.namespaceName = some name) ∧
    (∀ label, scope.clusterLabel = some label →
      label.StandsAt (labelling .clusterLabels place.clusterId) place.clusterId) ∧
    ∀ label, scope.namespaceLabel = some label → ∃ id, place.namespaceId = some id ∧
      label.StandsAt (labelling .namespaceLabels id) id

/-- Whether an exclusion concerns an event: it is in force, and everything that
it sets holds of the deployment that the event concerns. -/
def Exclusion.Concerns (exclusion : Exclusion) (labelling : Labelling) (now : Instant)
    (event : Event) : Prop :=
  ∃ subject excluded, event.deployment? = some subject ∧ exclusion.deployment = some excluded ∧
    (∀ expiration, exclusion.expiration = some expiration → now.isBefore expiration = true) ∧
    (∀ name, excluded.name = some name → name = "" ∨ name = subject.name) ∧
    ∀ scope, excluded.scope = some scope → scope.Covers labelling event.place

namespace Exclusion

def Means (exclusion : Exclusion) (now : Instant) (subject : Deployment)
    (excluded : ExcludedDeployment) : Prop :=
  (∀ expiration, exclusion.expiration = some expiration → now.isBefore expiration = true) ∧
    ∀ name, excluded.name = some name → name = "" ∨ name = subject.name

theorem concerns_iff (exclusion : Exclusion) (labelling : Labelling) (now : Instant)
    (event : Event) :
    exclusion.Concerns labelling now event ↔
      ∃ subject, event.deployment? = some subject ∧
        ∃ excluded, exclusion.deployment = some excluded ∧
          exclusion.Means now subject excluded ∧
            ∀ scope, excluded.scope = some scope → scope.Covers labelling event.place := by
  unfold Concerns Means
  constructor
  · rintro ⟨subject, excluded, reported, given, inForce, named, covered⟩
    exact ⟨subject, reported, excluded, given, ⟨inForce, named⟩, covered⟩
  · rintro ⟨subject, reported, excluded, given, ⟨inForce, named⟩, covered⟩
    exact ⟨subject, excluded, reported, given, inForce, named, covered⟩

end Exclusion

/-- Whether a policy matches an event: a section holds, a scope covers its place
or there is none, and no exclusion concerns it. -/
def Policy.Matches [SizeLimit] (policy : Policy) (labelling : Labelling) (now : Instant)
    (event : Event) :
    Prop :=
  (∃ clause ∈ policy.sections, clause.Holds event) ∧
    (policy.scopes = [] ∨ ∃ scope ∈ policy.scopes, scope.Covers labelling event.place) ∧
    ¬ ∃ exclusion ∈ policy.exclusions, exclusion.Concerns labelling now event

end PolicyWatch
