import PolicyWatch.Proofs.CompiledPolicy.Acceptance
import PolicyWatch.Proofs.CompiledPolicy.Inquiry
import PolicyWatch.Proofs.Policy.Meaning

/-!
# What scopes mean

Main statement: where no look-up fails, a checked list of scopes covers just the
places that one of them covers, and every place if there is none.
-/

namespace PolicyWatch

open Checks

namespace ScopeRule

variable {supply : LabelSupply} {index : Nat} {scope : Scope} {rule : ScopeRule}

/-- A checked scope sets either names or labels, with a source for every label. -/
theorem of_compile (accepted : compile supply index scope = .ok rule) :
    (rule = .direct scope.cluster scope.namespaceName ∧
        scope.clusterLabel = none ∧ scope.namespaceLabel = none) ∨
      (rule = .labels scope.clusterLabel scope.namespaceLabel ∧
        scope.cluster = none ∧ scope.namespaceName = none ∧
        (scope.clusterLabel.isSome → supply.covers .clusterLabels = true) ∧
        (scope.namespaceLabel.isSome → supply.covers .namespaceLabels = true)) := by
  unfold compile at accepted
  dsimp only at accepted
  split at accepted
  · cases accepted
  · rename_i notBoth
    split at accepted
    · rename_i direct
      split at accepted
      · cases accepted
      · cases accepted
        refine .inl ⟨rfl, ?_⟩
        simpa [direct] using notBoth
    · rename_i notDirect
      split at accepted
      · split at accepted
        · cases accepted
        · split at accepted
          · cases accepted
          · rename_i clusterSupplied
            split at accepted
            · cases accepted
            · rename_i namespaceSupplied
              cases accepted
              refine .inr ⟨rfl, ?_⟩
              simp_all [LabelSupply.covers]
      · cases accepted

end ScopeRule

theorem ScopeLabel.isIn_iff (label : ScopeLabel) (labels : Option LabelMap) :
    label.isIn labels = true ↔
      ∃ map, labels = some map ∧ map.get? label.key = some label.value := by
  unfold isIn
  cases labels <;> simp

namespace ScopeResolver

variable {supply : LabelSupply} {resolver : ScopeResolver}

theorem value_labelInquiry? {kind : LabelKind} {label : Option ScopeLabel}
    (supplied : label.isSome → resolver.supply.covers kind = true) (labelling : Labelling)
    (id : String) :
    (resolver.labelInquiry? kind id label).value labelling = true ↔
      ∀ sought, label = some sought → sought.StandsAt (labelling kind id) id := by
  cases label with
  | none => simp [labelInquiry?]
  | some sought =>
      simp only [labelInquiry?, labelInquiry, supplied rfl, Option.some_inj, forall_eq',
        Bool.true_and, ScopeLabel.StandsAt, bne_iff_ne]
      split
      · rename_i named
        rw [Inquiry.value_ask, Inquiry.value_done, ScopeLabel.isIn_iff]
        exact (and_iff_right named).symm
      · rename_i unnamed
        simp [unnamed]

theorem value_ruleInquiry {index : Nat} {scope : Scope} {rule : ScopeRule}
    (accepted : ScopeRule.compile resolver.supply index scope = .ok rule) (labelling : Labelling)
    (place : Place) :
    (resolver.ruleInquiry place rule).value labelling = true ↔ scope.Covers labelling place := by
  unfold Scope.Covers
  rcases ScopeRule.of_compile accepted with
    ⟨rfl, noClusterLabel, noNamespaceLabel⟩ | ⟨rfl, noCluster, noNamespace, clusters, namespaces⟩
  · have clustered : scope.cluster.all (· == place.clusterId) = true ↔
        ∀ cluster, scope.cluster = some cluster → place.clusterId = cluster := by
      simp only [Option.all_eq_true, beq_iff_eq, eq_comm (a := place.clusterId)]
    have named : (scope.namespaceName.isNone || scope.namespaceName == place.namespaceName) = true ↔
        ∀ name, scope.namespaceName = some name → place.namespaceName = some name := by
      cases scope.namespaceName with
      | none => simp
      | some name =>
          rw [Option.isNone_some, Bool.false_or, beq_iff_eq]
          simp only [Option.some_inj, forall_eq', eq_comm]
    rw [ruleInquiry, Inquiry.value_done, Bool.and_eq_true, clustered, named, noClusterLabel,
      noNamespaceLabel]
    simp
  · have inNamespace : (∀ label, scope.namespaceLabel = some label → ∃ id,
        place.namespaceId = some id ∧ label.StandsAt (labelling .namespaceLabels id) id) ↔
        ∀ label, scope.namespaceLabel = some label →
          label.StandsAt (labelling .namespaceLabels (place.namespaceId.getD ""))
            (place.namespaceId.getD "") := by
      cases place.namespaceId <;> simp [ScopeLabel.StandsAt]
    rw [inNamespace]
    simp only [ruleInquiry, noCluster, noNamespace, Inquiry.value_and, Bool.and_eq_true,
      value_labelInquiry? clusters, value_labelInquiry? namespaces]
    simp

theorem of_compile {scopes : List Scope} (accepted : compile supply scopes = .ok resolver) :
    resolver.supply = supply ∧
      List.Forall₂ (fun scope rule => ∃ index, ScopeRule.compile supply index scope = .ok rule)
        scopes resolver.rules := by
  unfold compile at accepted
  obtain ⟨rules, checked, made⟩ := bind_eq_ok_iff.1 accepted
  cases made
  rw [ScopeRule.compileFrom_eq_mapM] at checked
  exact ⟨rfl, forall₂_of_mapM_zipIdx checked⟩

theorem value_inquiry {scopes : List Scope} (accepted : compile supply scopes = .ok resolver)
    (labelling : Labelling) (place : Place) :
    (resolver.inquiry place).value labelling = true ↔
      scopes = [] ∨ ∃ scope ∈ scopes, scope.Covers labelling place := by
  obtain ⟨rfl, related⟩ := of_compile accepted
  have covering := exists_mem_iff_of_forall₂ related fun scope rule ⟨_, made⟩ =>
    (value_ruleInquiry made labelling place).symm
  rw [covering, ← eq_nil_iff_of_forall₂ related]
  unfold inquiry isWildcard
  cases resolver.rules with
  | nil => simp
  | cons first rest => simp

end ScopeResolver

end PolicyWatch
