import PolicyWatch.Proofs.Json.Survival

/-!
# Policies survive their encoding

Main statement: a policy whose expirations can be written is decoded as the same from what encodes
it.
-/

namespace PolicyWatch

open Json

variable (lenient : Bool)

theorem ScopeLabel.survives (label : ScopeLabel) :
    Survives ScopeLabel.toJson (ScopeLabel.decode (format lenient)) label := by
  intro other same
  obtain ⟨values, found, related⟩ := fields_of_rearranged same (by simp)
  obtain _ | ⟨keySame, _ | ⟨valueSame, _ | _⟩⟩ := related
  have key := (survives_text label.key _ keySame).1
  have value := (survives_text label.value _ valueSame).1
  refine ⟨?_, ne_null_of_rearranged same⟩
  simp only [List.map_cons, List.map_nil] at found
  simp [ScopeLabel.decode, found, key, value]

theorem Scope.survives (scope : Scope) :
    Survives Scope.toJson (Scope.decode (format lenient)) scope := by
  intro other same
  obtain ⟨values, found, related⟩ := fields_of_rearranged same (by simp)
  obtain _ | ⟨clusterSame, _ | ⟨nameSame, _ | ⟨clusterLabelSame, _ | ⟨labelSame, _ | _⟩⟩⟩⟩ :=
    related
  have cluster := optional_of_rearranged lenient (fun text _ => survives_text text) clusterSame
  have name := optional_of_rearranged lenient (fun text _ => survives_text text) nameSame
  have clusterLabel := optional_of_rearranged lenient
    (fun label _ => ScopeLabel.survives lenient label) clusterLabelSame
  have label := optional_of_rearranged lenient
    (fun label _ => ScopeLabel.survives lenient label) labelSame
  refine ⟨?_, ne_null_of_rearranged same⟩
  simp only [List.map_cons, List.map_nil] at found
  simp [Scope.decode, found, cluster, name, clusterLabel, label]

theorem ExcludedDeployment.survives (excluded : ExcludedDeployment) :
    Survives ExcludedDeployment.toJson (ExcludedDeployment.decode (format lenient)) excluded := by
  intro other same
  obtain ⟨values, found, related⟩ := fields_of_rearranged same (by simp)
  obtain _ | ⟨nameSame, _ | ⟨scopeSame, _ | _⟩⟩ := related
  have name := optional_of_rearranged lenient (fun text _ => survives_text text) nameSame
  have scope := optional_of_rearranged lenient (fun scope _ => Scope.survives lenient scope)
    scopeSame
  refine ⟨?_, ne_null_of_rearranged same⟩
  simp only [List.map_cons, List.map_nil] at found
  simp [ExcludedDeployment.decode, found, name, scope]

theorem Instant.survives {instant : Instant} (valid : instant.isValid = true) :
    Survives Instant.toJson (Instant.decode (format lenient)) instant := by
  rintro other same
  rw [Instant.toJson, Rearranged] at same
  · subst same
    refine ⟨?_, Json.noConfusion⟩
    rw [Instant.decode, format_text, text?, Option.bind_eq_bind, Option.bind_some,
      Format.given_option, ofText?_toText valid]
  all_goals
    intro _ impossible
    cases impossible

theorem Exclusion.survives {exclusion : Exclusion} (representable : exclusion.IsRepresentable) :
    Survives Exclusion.toJson (Exclusion.decode (format lenient)) exclusion := by
  intro other same
  obtain ⟨values, found, related⟩ := fields_of_rearranged same (by simp)
  obtain _ | ⟨nameSame, _ | ⟨deploymentSame, _ | ⟨expirationSame, _ | _⟩⟩⟩ := related
  have name := (survives_text exclusion.name _ nameSame).1
  have deployment := optional_of_rearranged lenient
    (fun excluded _ => ExcludedDeployment.survives lenient excluded) deploymentSame
  have expiration := optional_of_rearranged lenient
    (fun expiration isSet => Instant.survives lenient (representable expiration isSet))
    expirationSame
  refine ⟨?_, ne_null_of_rearranged same⟩
  simp only [List.map_cons, List.map_nil] at found
  simp [Exclusion.decode, found, name, deployment, expiration]

theorem FileOperation.named?_name (operation : FileOperation) :
    named? operation.name = some operation := by
  cases operation <;> rfl

theorem Severity.named?_name (severity : Severity) : named? severity.name = some severity := by
  cases severity <;> rfl

theorem LifecycleStage.named?_name (stage : LifecycleStage) : named? stage.name = some stage := by
  cases stage <;> rfl

theorem EventSource.named?_name (source : EventSource) : named? source.name = some source := by
  cases source <;> rfl

theorem FileOperation.survives (operation : FileOperation) :
    Survives FileOperation.toJson ((format lenient).named named?) operation :=
  survives_named lenient operation.named?_name

/-- The operations of a group survive where there are any, and where they are left out. -/
theorem PolicyGroup.survives (group : PolicyGroup) :
    Survives PolicyGroup.toJson (PolicyGroup.decode (format lenient)) group := by
  obtain ⟨fieldName, texts, isNegated, operations?⟩ := group
  intro other same
  refine ⟨?_, ne_null_of_rearranged same⟩
  cases operations? with
  | none =>
      have absent : ∀ name ∈ ["operations"], name ∉ ["field_name", "values", "negate"] := by
        simp
      obtain ⟨values, found, related⟩ := fields?_of_rearranged same (by simp [memberOf]) absent
      obtain _ | ⟨fieldSame, _ | ⟨valuesSame, _ | ⟨negateSame, _ | _⟩⟩⟩ := related
      have field := (survives_text fieldName _ fieldSame).1
      have values := (survives_list lenient (fun text _ => survives_text text) _ valuesSame).1
      have negate := (survives_flag isNegated _ negateSame).1
      simp only [memberOf, List.map_cons, List.map_nil, List.append_nil, List.cons_append,
        List.nil_append] at found
      simp [PolicyGroup.decode, found, field, values, negate]
  | some operations =>
      obtain ⟨values, found, related⟩ := fields_of_rearranged same (by simp [memberOf])
      obtain _ | ⟨fieldSame, _ | ⟨valuesSame, _ | ⟨negateSame, _ | ⟨operationsSame, _ | _⟩⟩⟩⟩ :=
        related
      have field := (survives_text fieldName _ fieldSame).1
      have values := (survives_list lenient (fun text _ => survives_text text) _ valuesSame).1
      have negate := (survives_flag isNegated _ negateSame).1
      have operations := @optional_of_rearranged _ _ _ lenient (some operations)
        (fun operations _ => survives_list lenient
          (fun operation _ => FileOperation.survives lenient operation)) _ operationsSame
      simp only [memberOf, List.map_cons, List.map_nil, List.cons_append, List.nil_append] at found
      simp [PolicyGroup.decode, found, field, values, negate, operations]

theorem PolicySection.survives (clause : PolicySection) :
    Survives PolicySection.toJson (PolicySection.decode (format lenient)) clause := by
  intro other same
  obtain ⟨values, found, related⟩ := fields_of_rearranged same (by simp)
  obtain _ | ⟨nameSame, _ | ⟨groupsSame, _ | _⟩⟩ := related
  have name := optional_of_rearranged lenient (fun text _ => survives_text text) nameSame
  have groups := (survives_list lenient (fun group _ => PolicyGroup.survives lenient group) _
    groupsSame).1
  refine ⟨?_, ne_null_of_rearranged same⟩
  simp only [List.map_cons, List.map_nil] at found
  simp [PolicySection.decode, found, name, groups]

theorem LifecycleStage.survives_list (stages : List LifecycleStage) :
    Survives (fun stages => ofTexts (stages.map name))
      ((format lenient).list ((format lenient).named named?)) stages := by
  have survive : ∀ stage ∈ stages, Survives (fun stage => .string (name stage))
      ((format lenient).named named?) stage :=
    fun stage _ => survives_named lenient stage.named?_name
  intro other same
  have asTexts : ofTexts (stages.map name) = .array (stages.map fun stage => .string stage.name) :=
    congrArg Json.array (List.map_map ..)
  change Rearranged (ofTexts (stages.map name)) other at same
  rw [asTexts] at same
  exact Json.survives_list lenient survive other same

theorem Policy.survives {policy : Policy} (representable : policy.IsRepresentable) :
    Survives Policy.toJson (Policy.decode (format lenient)) policy := by
  intro other same
  obtain ⟨values, found, related⟩ := fields_of_rearranged same (by simp)
  obtain _ | ⟨idSame, _ | ⟨nameSame, _ | ⟨descriptionSame, _ | ⟨severitySame, _ | ⟨disabledSame,
    _ | ⟨stagesSame, _ | ⟨sourceSame, _ | ⟨categoriesSame, _ | ⟨sectionsSame, _ | ⟨scopesSame,
      _ | ⟨exclusionsSame, _ | ⟨notifiersSame, _ | _⟩⟩⟩⟩⟩⟩⟩⟩⟩⟩⟩⟩ := related
  have id := (survives_text policy.id _ idSame).1
  have name := (survives_text policy.name _ nameSame).1
  have description := optional_of_rearranged lenient (fun text _ => survives_text text)
    descriptionSame
  have severity := (survives_named lenient policy.severity.named?_name _ severitySame).1
  have disabled := (survives_flag policy.disabled _ disabledSame).1
  have stages := (LifecycleStage.survives_list lenient policy.stages _ stagesSame).1
  have source := (survives_named lenient policy.eventSource.named?_name _ sourceSame).1
  have categories := (survives_texts lenient policy.categories _ categoriesSame).1
  have sections := (survives_list lenient
    (fun clause _ => PolicySection.survives lenient clause) _ sectionsSame).1
  have scopes := (survives_list lenient (fun scope _ => Scope.survives lenient scope) _
    scopesSame).1
  have exclusions := (survives_list lenient
    (fun exclusion member => Exclusion.survives lenient (representable exclusion member)) _
      exclusionsSame).1
  have notifiers := (survives_texts lenient policy.notifiers _ notifiersSame).1
  refine ⟨?_, ne_null_of_rearranged same⟩
  simp only [List.map_cons, List.map_nil] at found
  simp [Policy.decode, Policy.fieldNames, found, id, name, description, severity, disabled, stages,
    source, categories, sections, scopes, exclusions, notifiers]

end PolicyWatch
