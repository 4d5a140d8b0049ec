import PolicyWatch.Proofs.Label.Walk
import PolicyWatch.Proofs.Policy.Meaning

/-!
# The labels that a policy needs

Which labels have to be known to tell whether a policy as written concerns itself with an
event: those of its scopes in order until one covers the place, and if one does those of its
exclusions in order until one concerns the event.
-/

namespace PolicyWatch

/-! ## What is required of values that may be set -/

section Required

variable {α : Type} {required : α → Prop} [DecidablePred required]

instance decidableRequired (value? : Option α) :
    Decidable (∀ value, value? = some value → required value) :=
  inferInstanceAs (Decidable (∀ value ∈ value?, required value))

instance decidableProvided (value? : Option α) :
    Decidable (∃ value, value? = some value ∧ required value) :=
  inferInstanceAs (Decidable (∃ value ∈ value?, required value))

end Required

instance ScopeLabel.decidableStandsAt (label : ScopeLabel) (labels : Option LabelMap)
    (id : String) : Decidable (label.StandsAt labels id) :=
  inferInstanceAs (Decidable (id ≠ "" ∧ _))

instance Scope.decidableCovers (scope : Scope) (labelling : Labelling) (place : Place) :
    Decidable (scope.Covers labelling place) :=
  inferInstanceAs (Decidable (_ ∧ _ ∧ _ ∧ _))

/-! ## Scopes -/

/-- What has to be known to tell whether a label that may be sought stands under an ID, which
must be there and not be empty. -/
def neededFor (kind : LabelKind) (label? : Option ScopeLabel) (id? : Option String) :
    List (LabelKind × String) :=
  match label?, id? with
  | some _, some id => if id = "" then [] else [(kind, id)]
  | _, _ => []

namespace Scope

/-- What has to be known to tell whether a scope covers a place: the labels of the cluster
and, if the label sought there stands, those of the namespace. -/
def walk (labelling : Labelling) (place : Place) (scope : Scope) : List (LabelKind × String) :=
  neededFor .clusterLabels scope.clusterLabel (some place.clusterId) ++
    if ∀ label, scope.clusterLabel = some label →
        label.StandsAt (labelling .clusterLabels place.clusterId) place.clusterId
    then neededFor .namespaceLabels scope.namespaceLabel place.namespaceId
    else []

end Scope

/-! ## Exclusions -/

namespace Exclusion

instance decidableMeans (exclusion : Exclusion) (now : Instant) (subject : Deployment)
    (excluded : ExcludedDeployment) : Decidable (exclusion.Means now subject excluded) :=
  inferInstanceAs (Decidable (_ ∧ _))

instance decidableConcerns (exclusion : Exclusion) (labelling : Labelling) (now : Instant)
    (event : Event) : Decidable (exclusion.Concerns labelling now event) :=
  decidable_of_iff' _ (exclusion.concerns_iff labelling now event)

/-- What has to be known to tell whether an exclusion concerns a deployment at a place: nothing
unless it is in force and means the deployment by its name. -/
def walk (labelling : Labelling) (now : Instant) (subject : Deployment) (place : Place)
    (exclusion : Exclusion) : List (LabelKind × String) :=
  match exclusion.deployment with
  | none => []
  | some excluded =>
      if exclusion.Means now subject excluded then
        excluded.scope.toList.flatMap (Scope.walk labelling place)
      else []

end Exclusion

/-! ## Policies -/

namespace Policy

def IsScopedTo (policy : Policy) (labelling : Labelling) (place : Place) : Prop :=
  policy.scopes = [] ∨ ∃ scope ∈ policy.scopes, scope.Covers labelling place

instance decidableIsScopedTo (policy : Policy) (labelling : Labelling) (place : Place) :
    Decidable (policy.IsScopedTo labelling place) :=
  inferInstanceAs (Decidable (_ ∨ _))

/-- What has to be known to tell whether a policy concerns itself with an event: what its
scopes need in order until one covers the place and then, if the event has a deployment, what
its exclusions need in order until one concerns the event. -/
def walk (policy : Policy) (labelling : Labelling) (now : Instant) (event : Event) :
    List (LabelKind × String) :=
  (upToFirst (fun scope => scope.Covers labelling event.place) policy.scopes).flatMap
      (Scope.walk labelling event.place) ++
    match event.deployment? with
    | none => []
    | some subject =>
        if policy.IsScopedTo labelling event.place then
          (upToFirst (fun exclusion => exclusion.Concerns labelling now event)
            policy.exclusions).flatMap (Exclusion.walk labelling now subject event.place)
        else []

/-- What is looked up to tell whether a policy concerns itself with an event: what has to be
known and is not yet, once each, up to the first look-up that does not answer. -/
def lookups (policy : Policy) (answers : LabelAnswers) (now : Instant) (event : Event)
    (cache : LabelCache) : List (LabelKind × String) :=
  let seen := cache.overlay answers
  cache.unknownOf (upToFirst seen.fails (policy.walk seen.view now event))

end Policy

end PolicyWatch
