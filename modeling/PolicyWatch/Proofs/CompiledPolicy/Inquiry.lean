import PolicyWatch.CompiledPolicy.Matching
import PolicyWatch.Proofs.Label.Inquiry

/-!
# The inquiries of scopes and policies

What a resolver of scopes and a compiled policy ask for, as inquiries.  Main
statements: the resolver and the policy look labels up exactly as their
inquiries do through the labels already known.
-/

namespace PolicyWatch

namespace ScopeResolver

def labelInquiry (resolver : ScopeResolver) (kind : LabelKind) (id : String)
    (label : ScopeLabel) : Inquiry Bool :=
  if resolver.supply.covers kind && id != "" then
    .ask kind id fun labels => .done (label.isIn labels)
  else .done false

def labelInquiry? (resolver : ScopeResolver) (kind : LabelKind) (id : String) :
    Option ScopeLabel → Inquiry Bool
  | some label => resolver.labelInquiry kind id label
  | none => .done true

def ruleInquiry (resolver : ScopeResolver) (place : Place) : ScopeRule → Inquiry Bool
  | .direct cluster namespaceName =>
      .done (cluster.all (· == place.clusterId) &&
        (namespaceName.isNone || namespaceName == place.namespaceName))
  | .labels cluster namespaceLabel =>
      .and (resolver.labelInquiry? .clusterLabels place.clusterId cluster)
        (resolver.labelInquiry? .namespaceLabels (place.namespaceId.getD "") namespaceLabel)

def inquiry (resolver : ScopeResolver) (place : Place) : Inquiry Bool :=
  if resolver.isWildcard then .done true
  else .any (resolver.ruleInquiry place) resolver.rules

theorem hasLabel_eq_through (resolver : ScopeResolver) (answers : LabelAnswers)
    (kind : LabelKind) (id : String) (label : ScopeLabel) :
    resolver.hasLabel answers kind id label =
      (resolver.labelInquiry kind id label).through answers := by
  unfold hasLabel labelInquiry
  split <;> rfl

theorem hasLabel?_eq_through (resolver : ScopeResolver) (answers : LabelAnswers)
    (kind : LabelKind) (id : String) (label : Option ScopeLabel) :
    resolver.hasLabel? answers kind id label =
      (resolver.labelInquiry? kind id label).through answers := by
  cases label with
  | none => rfl
  | some label => exact hasLabel_eq_through resolver answers kind id label

theorem ruleCovers_eq_through (resolver : ScopeResolver) (answers : LabelAnswers)
    (place : Place) (rule : ScopeRule) :
    resolver.ruleCovers answers place rule = (resolver.ruleInquiry place rule).through answers := by
  cases rule with
  | direct cluster namespaceName => rfl
  | labels cluster namespaceLabel =>
      simp only [ruleCovers, ruleInquiry, Inquiry.through_and, hasLabel?_eq_through]

theorem covers_eq_through (resolver : ScopeResolver) (answers : LabelAnswers) (place : Place) :
    resolver.covers answers place = (resolver.inquiry place).through answers := by
  unfold covers inquiry
  split
  · rfl
  · rw [Inquiry.through_any]
    congr
    funext rule
    exact ruleCovers_eq_through resolver answers place rule

end ScopeResolver

def CompiledExclusion.inquiry (exclusion : CompiledExclusion) (now : Instant)
    (subject : Deployment) (place : Place) : Inquiry Bool :=
  if exclusion.isInForce now && exclusion.deploymentName.all (· == subject.name) then
    match exclusion.scope with
    | some resolver => resolver.inquiry place
    | none => .done true
  else .done false

theorem CompiledExclusion.excludes_eq_through (exclusion : CompiledExclusion)
    (answers : LabelAnswers) (now : Instant) (subject : Deployment) (place : Place) :
    exclusion.excludes answers now subject place =
      (exclusion.inquiry now subject place).through answers := by
  unfold excludes inquiry
  split
  · cases exclusion.scope with
    | none => rfl
    | some resolver => exact resolver.covers_eq_through answers place
  · rfl

namespace CompiledPolicy

def exclusionInquiry (compiled : CompiledPolicy) (now : Instant) (event : Event) : Inquiry Bool :=
  match event.deployment? with
  | some subject =>
      .any (fun exclusion => exclusion.inquiry now subject event.place) compiled.exclusions
  | none => .done false

def concernInquiry (compiled : CompiledPolicy) (now : Instant) (event : Event) : Inquiry Bool :=
  .and (compiled.scope.inquiry event.place)
    ((compiled.exclusionInquiry now event).bind fun excluded => .done !excluded)

/-- The violations that a policy finds in an event, as an inquiry: nothing is
asked for unless a section matches. -/
def inquiry (compiled : CompiledPolicy) (now : Instant) (event : Event) :
    Inquiry (List Violation) :=
  match compiled.groupMatches? event with
  | none => .done []
  | some groupMatches =>
      (compiled.concernInquiry now event).bind fun concerned =>
        .done (if concerned then event.violations groupMatches else [])

theorem isExcluded_eq_through (compiled : CompiledPolicy) (answers : LabelAnswers)
    (now : Instant) (event : Event) :
    compiled.isExcluded answers now event =
      (compiled.exclusionInquiry now event).through answers := by
  unfold isExcluded exclusionInquiry
  cases event.deployment? with
  | none => rfl
  | some subject =>
      simp only [Inquiry.through_any, CompiledExclusion.excludes_eq_through]

theorem isConcerned_eq_through (compiled : CompiledPolicy) (answers : LabelAnswers)
    (now : Instant) (event : Event) :
    compiled.isConcerned answers now event =
      (compiled.concernInquiry now event).through answers := by
  simp only [isConcerned, concernInquiry, Inquiry.through_and, Inquiry.through_bind,
    ScopeResolver.covers_eq_through, isExcluded_eq_through]
  rfl

theorem violations_eq_through (compiled : CompiledPolicy) (answers : LabelAnswers)
    (now : Instant) (event : Event) (cache : LabelCache) :
    compiled.violations answers now event cache =
      ((((compiled.inquiry now event).through answers) cache).1.mapError
          (EvaluationError.ofFault compiled.id),
        (((compiled.inquiry now event).through answers) cache).2) := by
  unfold violations inquiry
  cases compiled.groupMatches? event with
  | none => rfl
  | some groupMatches =>
      simp only [isConcerned_eq_through, Inquiry.through_bind, LabelQuery.bind]
      cases (compiled.concernInquiry now event).through answers cache with
      | mk result learned =>
          cases result with
          | error fault => rfl
          | ok concerned => cases concerned <;> rfl

end CompiledPolicy

end PolicyWatch
