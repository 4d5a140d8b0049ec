import PolicyWatch.Label.Map

/-!
# Label maps from entries in any order

Main statement: the entries of a label map make up the map again, in whatever order they are
put into it.
-/

namespace PolicyWatch

theorem perm_putLabel {key : String} (value : String) {labels : List (String × String)}
    (isNew : ∀ entry ∈ labels, entry.1 ≠ key) :
    (putLabel key value labels).Perm ((key, value) :: labels) := by
  induction labels with
  | nil => exact .refl _
  | cons head rest ih =>
      obtain ⟨other, held⟩ := head
      have apart : key ≠ other := fun same => isNew (other, held) List.mem_cons_self same.symm
      rw [putLabel, if_neg apart]
      split
      · exact .refl _
      · have later := ih fun entry member => isNew entry (List.mem_cons_of_mem _ member)
        exact (later.cons _).trans (.swap ..)

namespace LabelMap

theorem nodup_keys (labels : LabelMap) : (labels.entries.map Prod.fst).Nodup := by
  rw [List.Nodup, List.pairwise_map]
  refine labels.ascending.imp ?_
  intro left right less same
  rw [same] at less
  exact String.lt_irrefl _ less

theorem perm_foldl_insert {entries : List (String × String)} (grown : LabelMap)
    (distinct : ((grown.entries ++ entries).map Prod.fst).Nodup) :
    (entries.foldl (fun grown entry => grown.insert entry.1 entry.2) grown).entries.Perm
      (grown.entries ++ entries) := by
  induction entries generalizing grown with
  | nil =>
      rw [List.append_nil]
      exact .refl _
  | cons first rest ih =>
      obtain ⟨key, value⟩ := first
      have moved : (grown.entries ++ (key, value) :: rest).Perm
          ((key, value) :: (grown.entries ++ rest)) := List.perm_middle
      have isNew : ∀ entry ∈ grown.entries, entry.1 ≠ key := by
        have apart := (List.nodup_cons.1 ((moved.map Prod.fst).nodup_iff.1 distinct)).1
        intro entry member same
        exact apart (List.mem_map.2 ⟨entry, List.mem_append_left _ member, same⟩)
      have put : ((grown.insert key value).entries ++ rest).Perm
          (grown.entries ++ (key, value) :: rest) :=
        ((perm_putLabel value isNew).append_right rest).trans moved.symm
      exact (ih (grown.insert key value) ((put.map Prod.fst).nodup_iff.2 distinct)).trans put

theorem ofList_of_perm {entries : List (String × String)} {labels : LabelMap}
    (same : entries.Perm labels.entries) : ofList entries = labels := by
  have distinct := (same.map Prod.fst).nodup_iff.2 labels.nodup_keys
  have made : (ofList entries).entries.Perm labels.entries :=
    (perm_foldl_insert empty distinct).trans same
  have equal : (ofList entries).entries = labels.entries := by
    refine made.eq_of_pairwise ?_ (ofList entries).ascending labels.ascending
    intro left right _ _ less more
    exact absurd more (String.lt_asymm less)
  cases made : ofList entries
  cases labels
  simp_all

end LabelMap

end PolicyWatch
