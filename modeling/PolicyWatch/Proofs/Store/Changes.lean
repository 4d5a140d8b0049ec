import Mathlib.Data.List.Induction
import Mathlib.Data.List.Nodup
import PolicyWatch.Proofs.Text.Bytes
import PolicyWatch.Reprocess.Store

/-!
# What a store holds after changes

Deployments are put into a store and removed from it, in any order.  Main statements: the store
holds those deployments that were put into it and whose IDs no later change concerned, each is
found under its own ID, and the search of a cluster gives the IDs of those in the cluster in the
order of their bytes.
-/

namespace PolicyWatch.Reprocess.Store

/-! ## Single changes -/

section Single

variable {store : Store} {deployment : Deployment} {id clusterId : String}

theorem mem_insert {newest : Deployment} :
    deployment ∈ (store.insert newest).deployments ↔
      deployment = newest ∨ deployment ∈ store.deployments ∧ deployment.id ≠ newest.id := by
  unfold insert others
  rw [List.mem_cons, List.mem_filter, bne_iff_ne]

theorem mem_remove {removed : String} :
    deployment ∈ (store.remove removed).2.deployments ↔
      deployment ∈ store.deployments ∧ deployment.id ≠ removed := by
  unfold remove others
  rw [List.mem_filter, bne_iff_ne]

def IsDistinct (store : Store) : Prop := (store.deployments.map Deployment.id).Nodup

theorem isDistinct_empty : empty.IsDistinct := List.nodup_nil

namespace IsDistinct

variable (distinct : store.IsDistinct)

include distinct

theorem remove (removed : String) : (store.remove removed).2.IsDistinct :=
  List.Nodup.sublist (List.filter_sublist.map _) distinct

theorem insert (newest : Deployment) : (store.insert newest).IsDistinct := by
  refine List.nodup_cons.2 ⟨fun member => ?_, distinct.remove newest.id⟩
  obtain ⟨other, kept, same⟩ := List.mem_map.1 member
  exact bne_iff_ne.1 (List.mem_filter.1 kept).2 same

/-- Each deployment is found under its own ID, and nothing else is found. -/
theorem get?_eq_some_iff :
    store.get? id = some deployment ↔ deployment ∈ store.deployments ∧ deployment.id = id := by
  unfold get?
  constructor
  · intro found
    have isSought := List.find?_some found
    exact ⟨List.mem_of_find?_eq_some found, beq_iff_eq.1 isSought⟩
  · rintro ⟨member, rfl⟩
    cases found : store.deployments.find? fun other => other.id == deployment.id with
    | none =>
        have apart := List.find?_eq_none.1 found deployment member
        exact absurd (beq_self_eq_true deployment.id) apart
    | some other =>
        have isSought := List.find?_some found
        have sameId : other.id = deployment.id := beq_iff_eq.1 isSought
        rw [List.inj_on_of_nodup_map distinct (List.mem_of_find?_eq_some found) member sameId]

end IsDistinct

end Single

/-! ## Changes in a row -/

inductive Change where
  | insert (deployment : Deployment)
  | remove (id : String)
  deriving DecidableEq

def Change.id : Change → String
  | insert deployment => deployment.id
  | remove id => id

def changed (store : Store) : Change → Store
  | .insert deployment => store.insert deployment
  | .remove id => (store.remove id).2

def ofChanges (changes : List Change) : Store := changes.foldl changed empty

/-- Whether a deployment was put into a store, and no later change concerned its ID. -/
def Stands (changes : List Change) (deployment : Deployment) : Prop :=
  ∃ before after, changes = before ++ .insert deployment :: after ∧
    ∀ change ∈ after, change.id ≠ deployment.id

section Changes

variable {changes : List Change} {newest : Change} {deployment : Deployment} {id : String}

theorem ofChanges_append_singleton (changes : List Change) (newest : Change) :
    ofChanges (changes ++ [newest]) = (ofChanges changes).changed newest := by
  unfold ofChanges
  rw [List.foldl_append]
  rfl

theorem not_stands_nil : ¬ Stands [] deployment := by
  rintro ⟨before, after, split, _⟩
  exact List.append_ne_nil_of_right_ne_nil before (List.cons_ne_nil _ after) split.symm

/-- One more change leaves what it does not concern, and what it puts there stands. -/
theorem stands_append_singleton :
    Stands (changes ++ [newest]) deployment ↔
      newest = .insert deployment ∨ Stands changes deployment ∧ deployment.id ≠ newest.id := by
  constructor
  · rintro ⟨before, after, split, apart⟩
    rcases List.eq_nil_or_concat after with rfl | ⟨front, last, rfl⟩
    · exact .inl (List.cons.inj (List.append_inj_right' split rfl)).1
    · rw [List.concat_eq_append] at split apart
      rw [← List.cons_append, ← List.append_assoc] at split
      obtain ⟨rfl, same⟩ := List.append_inj' split rfl
      cases same
      refine .inr ⟨⟨before, front, rfl, fun change member => ?_⟩, ?_⟩
      · exact apart change (List.mem_append_left _ member)
      · exact (apart newest (List.mem_append_right _ List.mem_cons_self)).symm
  · rintro (rfl | ⟨⟨before, after, rfl, apart⟩, different⟩)
    · exact ⟨changes, [], rfl, fun _ impossible => absurd impossible List.not_mem_nil⟩
    · refine ⟨before, after ++ [newest], List.append_assoc _ _ _, fun change member => ?_⟩
      rcases List.mem_append.1 member with later | isNewest
      · exact apart change later
      · rw [List.mem_singleton.1 isNewest]
        exact different.symm

theorem mem_ofChanges :
    deployment ∈ (ofChanges changes).deployments ↔ Stands changes deployment := by
  induction changes using List.reverseRecOn with
  | nil => exact iff_of_false List.not_mem_nil not_stands_nil
  | append_singleton front newest ih =>
      rw [ofChanges_append_singleton, stands_append_singleton, ← ih]
      cases newest with
      | insert inserted =>
          have same : Change.insert inserted = .insert deployment ↔ deployment = inserted := by
            rw [Change.insert.injEq, eq_comm]
          rw [same]
          exact mem_insert
      | remove removed =>
          have other : Change.remove removed ≠ .insert deployment := Change.noConfusion
          exact mem_remove.trans (or_iff_right other).symm

theorem isDistinct_ofChanges (changes : List Change) : (ofChanges changes).IsDistinct := by
  induction changes using List.reverseRecOn with
  | nil => exact isDistinct_empty
  | append_singleton front newest ih =>
      rw [ofChanges_append_singleton]
      cases newest with
      | insert deployment => exact ih.insert deployment
      | remove id => exact ih.remove id

/-- What stands after the changes is found under its own ID, and nothing else is. -/
theorem get?_ofChanges : (ofChanges changes).get? id = some deployment ↔
    Stands changes deployment ∧ deployment.id = id := by
  rw [(isDistinct_ofChanges changes).get?_eq_some_iff, mem_ofChanges]

end Changes

/-! ## The search of a cluster -/

section Search

variable {store : Store} {id clusterId : String}

theorem mem_inCluster : id ∈ store.inCluster clusterId ↔
    ∃ deployment ∈ store.deployments, deployment.id = id ∧ deployment.clusterId = clusterId := by
  unfold inCluster sortIds
  rw [List.mem_mergeSort, List.mem_map]
  simp only [List.mem_filter, beq_iff_eq, and_assoc, and_comm]

theorem nodup_inCluster (distinct : store.IsDistinct) (clusterId : String) :
    (store.inCluster clusterId).Nodup := by
  refine (List.mergeSort_perm _ _).nodup_iff.2 ?_
  exact List.Nodup.sublist (List.filter_sublist.map _) distinct

theorem inCluster_ascending (distinct : store.IsDistinct) (clusterId : String) :
    (store.inCluster clusterId).Pairwise Text.BytesBefore := by
  have sorted : (store.inCluster clusterId).Pairwise (· ≤ ·) := Text.pairwise_mergeSort_le id _
  refine (sorted.and (nodup_inCluster distinct clusterId)).imp ?_
  rintro first other ⟨ordered, apart⟩
  exact (Text.bytesBefore_or_eq_of_le ordered).resolve_right apart

/-- A deployment that is put in place of another is in its own cluster and in no other; the others
stay where they were. -/
theorem mem_inCluster_insert {deployment : Deployment} :
    id ∈ (store.insert deployment).inCluster clusterId ↔
      if id = deployment.id then deployment.clusterId = clusterId
      else id ∈ store.inCluster clusterId := by
  simp only [mem_inCluster, mem_insert]
  split
  · rename_i isOwn
    constructor
    · rintro ⟨other, rfl | ⟨_, apart⟩, isSought, inCluster⟩
      · exact inCluster
      · exact absurd (isSought.trans isOwn) apart
    · intro inCluster
      exact ⟨deployment, .inl rfl, isOwn.symm, inCluster⟩
  · rename_i isOther
    constructor
    · rintro ⟨other, rfl | ⟨stored, _⟩, isSought, inCluster⟩
      · exact absurd isSought.symm isOther
      · exact ⟨other, stored, isSought, inCluster⟩
    · rintro ⟨other, stored, rfl, inCluster⟩
      exact ⟨other, .inr ⟨stored, isOther⟩, rfl, inCluster⟩

end Search

end PolicyWatch.Reprocess.Store
