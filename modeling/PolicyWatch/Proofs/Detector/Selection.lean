import PolicyWatch.Detector.Reprocessing
import PolicyWatch.Proofs.Store.Changes

/-!
# Which deployments are reprocessed

What is stored of a file of deployments, and what of that is selected by a cluster.  Main
statements: a file that can be read leaves the last deployment under each ID, and one that cannot
is refused for the first line that is no deployment.
-/

namespace PolicyWatch

open Reprocess (Store)

/-! ## The last deployment under an ID -/

/-- Whether a deployment is in a list, and none after it has its ID. -/
def IsLast (deployments : List Deployment) (deployment : Deployment) : Prop :=
  ∃ before after, deployments = before ++ deployment :: after ∧
    ∀ other ∈ after, other.id ≠ deployment.id

theorem isLast_append_singleton {deployments : List Deployment} {newest deployment : Deployment} :
    IsLast (deployments ++ [newest]) deployment ↔
      deployment = newest ∨ IsLast deployments deployment ∧ deployment.id ≠ newest.id := by
  constructor
  · rintro ⟨before, after, split, apart⟩
    rcases List.eq_nil_or_concat after with rfl | ⟨front, last, rfl⟩
    · exact .inl (List.append_inj_right' split rfl |> List.cons.inj).1.symm
    · rw [List.concat_eq_append] at split apart
      rw [← List.cons_append, ← List.append_assoc] at split
      obtain ⟨rfl, same⟩ := List.append_inj' split rfl
      cases same
      refine .inr ⟨⟨before, front, rfl, fun other member => ?_⟩, ?_⟩
      · exact apart other (List.mem_append_left _ member)
      · exact (apart newest (List.mem_append_right _ List.mem_cons_self)).symm
  · rintro (rfl | ⟨⟨before, after, rfl, apart⟩, different⟩)
    · exact ⟨deployments, [], rfl, fun _ impossible => absurd impossible List.not_mem_nil⟩
    · refine ⟨before, after ++ [newest], List.append_assoc _ _ _, fun other member => ?_⟩
      rcases List.mem_append.1 member with later | isNewest
      · exact apart other later
      · rw [List.mem_singleton.1 isNewest]
        exact different.symm

namespace Reprocess.Store

variable {store : Store} {deployments : List Deployment} {deployment : Deployment}

theorem ofList_append_singleton (deployments : List Deployment) (newest : Deployment) :
    ofList (deployments ++ [newest]) = (ofList deployments).insert newest := by
  unfold ofList
  rw [List.foldl_append]
  rfl

theorem mem_ofList :
    deployment ∈ (ofList deployments).deployments ↔ IsLast deployments deployment := by
  induction deployments using List.reverseRecOn with
  | nil =>
      refine ⟨fun impossible => absurd impossible List.not_mem_nil, ?_⟩
      rintro ⟨before, after, split, _⟩
      exact absurd split.symm (List.append_ne_nil_of_right_ne_nil _ (List.cons_ne_nil _ _))
  | append_singleton front newest ih =>
      rw [ofList_append_singleton, mem_insert, ih, isLast_append_singleton]

theorem distinct_ofList (deployments : List Deployment) : (ofList deployments).IsDistinct := by
  induction deployments using List.reverseRecOn with
  | nil => exact isDistinct_empty
  | append_singleton front newest ih =>
      rw [ofList_append_singleton]
      exact ih.insert newest

theorem length_ofList_le (deployments : List Deployment) :
    (ofList deployments).deployments.length ≤ deployments.length := by
  induction deployments using List.reverseRecOn with
  | nil => exact Nat.le_refl _
  | append_singleton front newest ih =>
      rw [ofList_append_singleton, List.length_append]
      exact Nat.succ_le_succ (Nat.le_trans (List.length_filter_le _ _) ih)

def inClusters (store : Store) (cluster? : Option String) : List Deployment :=
  store.deployments.filter fun deployment => cluster?.all (deployment.clusterId == ·)

def idsInClusters (store : Store) : Option String → List String
  | some clusterId => store.inCluster clusterId
  | none => store.ids

theorem idsInClusters_perm (store : Store) (cluster? : Option String) :
    (store.idsInClusters cluster?).Perm ((store.inClusters cluster?).map Deployment.id) := by
  cases cluster? with
  | some clusterId => exact List.mergeSort_perm _ _
  | none =>
      have all : store.inClusters none = store.deployments := List.filter_true _
      rw [all]
      exact List.mergeSort_perm _ _

end Reprocess.Store

/-! ## Reading a file -/

namespace Detector

/-- Whether a line is neither blank nor a deployment. -/
def isMalformed (line : List Char) : Bool :=
  !isBlankLine line && (Json.readDeployment? line).isNone

def deploymentsOf (lines : List (List Char)) : List Deployment :=
  lines.filterMap fun line => if isBlankLine line then none else Json.readDeployment? line

theorem readDeployments_cons (path : String) (number : Nat) (store : Store) {line : List Char}
    (rest : List (List Char)) (wellFormed : isMalformed line = false) :
    readDeployments path number store (line :: rest) =
      readDeployments path (number + 1) ((deploymentsOf [line]).foldl Store.insert store) rest := by
  conv_lhs => unfold readDeployments
  cases isBlank : isBlankLine line with
  | true =>
      have skipped : deploymentsOf [line] = [] := List.filterMap_cons_none (if_pos isBlank)
      rw [if_pos rfl, skipped]
      rfl
  | false =>
      rw [if_neg Bool.false_ne_true]
      cases parsed : Json.readDeployment? line with
      | none =>
          unfold isMalformed at wellFormed
          rw [isBlank, parsed] at wellFormed
          cases wellFormed
      | some deployment =>
          have taken : deploymentsOf [line] = [deployment] :=
            List.filterMap_cons_some ((if_neg (Bool.eq_false_iff.1 isBlank)).trans parsed)
          rw [taken]
          rfl

theorem readDeployments_eq_ok (path : String) (number : Nat) (store : Store)
    {lines : List (List Char)} (wellFormed : ∀ line ∈ lines, isMalformed line = false) :
    readDeployments path number store lines =
      .ok ((deploymentsOf lines).foldl Store.insert store) := by
  induction lines generalizing number store with
  | nil => rfl
  | cons line rest ih =>
      have parts : deploymentsOf (line :: rest) = deploymentsOf [line] ++ deploymentsOf rest := by
        unfold deploymentsOf
        rw [← List.filterMap_append]
        rfl
      rw [readDeployments_cons path number store rest (wellFormed line List.mem_cons_self), parts,
        List.foldl_append]
      exact ih _ _ fun other member => wellFormed other (List.mem_cons_of_mem line member)

/-- Lines some of which are neither are refused for the first, with its number. -/
theorem readDeployments_eq_error (path : String) (number : Nat) (store : Store)
    {lines : List (List Char)} (malformed : ∃ line ∈ lines, isMalformed line = true) :
    readDeployments path number store lines = .error (.ofMessage ("invalid deployment on line " ++
      toString (number + lines.findIdx isMalformed) ++ " of " ++ path)) := by
  induction lines generalizing number store with
  | nil =>
      obtain ⟨_, impossible, _⟩ := malformed
      cases impossible
  | cons line rest ih =>
      rw [List.findIdx_cons]
      cases first : isMalformed line with
      | true =>
          obtain ⟨notBlank, unread⟩ := Bool.and_eq_true_iff.1 first
          have isBlank : isBlankLine line = false := Bool.not_eq_eq_eq_not.1 notBlank
          unfold readDeployments
          rw [isBlank, Option.isNone_iff_eq_none.1 unread]
          rfl
      | false =>
          have later : ∃ other ∈ rest, isMalformed other = true := by
            obtain ⟨other, member, bad⟩ := malformed
            rcases List.mem_cons.1 member with rfl | known
            · cases first.symm.trans bad
            · exact ⟨other, known, bad⟩
          have next : number + 1 + rest.findIdx isMalformed =
              number + (rest.findIdx isMalformed + 1) := by
            omega
          rw [readDeployments_cons path number store rest first, ih _ _ later, next]
          rfl

end Detector

end PolicyWatch
