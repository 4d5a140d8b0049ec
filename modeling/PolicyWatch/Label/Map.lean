/-!
# Label maps

A map from label keys to label values, kept in ascending order of keys, so that
two maps with the same labels are equal.
-/

namespace PolicyWatch

def putLabel (key value : String) : List (String × String) → List (String × String)
  | [] => [(key, value)]
  | (other, held) :: rest =>
      if key < other then (key, value) :: (other, held) :: rest
      else if key = other then (key, value) :: rest
      else (other, held) :: putLabel key value rest

/-- Every key of a list after a put is the new key or an old one. -/
theorem mem_putLabel {key value : String} {labels : List (String × String)}
    {entry : String × String} (member : entry ∈ putLabel key value labels) :
    entry.1 = key ∨ entry ∈ labels := by
  induction labels with
  | nil =>
      simp only [putLabel, List.mem_singleton] at member
      exact .inl (by rw [member])
  | cons head rest ih =>
      obtain ⟨other, held⟩ := head
      simp only [putLabel] at member
      split at member
      · rcases List.mem_cons.1 member with rfl | earlier
        · exact .inl rfl
        · exact .inr earlier
      · split at member
        · rcases List.mem_cons.1 member with rfl | later
          · exact .inl rfl
          · exact .inr (List.mem_cons_of_mem _ later)
        · rcases List.mem_cons.1 member with rfl | later
          · exact .inr (List.mem_cons_self ..)
          · exact (ih later).imp_right (List.mem_cons_of_mem _)

theorem pairwise_putLabel (key value : String) {labels : List (String × String)}
    (ascending : labels.Pairwise (fun left right => left.1 < right.1)) :
    (putLabel key value labels).Pairwise (fun left right => left.1 < right.1) := by
  induction labels with
  | nil => simp [putLabel]
  | cons head rest ih =>
      obtain ⟨other, held⟩ := head
      obtain ⟨below, restAscending⟩ := List.pairwise_cons.1 ascending
      simp only [putLabel]
      split
      · rename_i less
        refine List.pairwise_cons.2 ⟨?_, ascending⟩
        intro entry member
        rcases List.mem_cons.1 member with rfl | later
        · exact less
        · exact String.lt_trans less (below entry later)
      · split
        · rename_i same
          subst same
          exact List.pairwise_cons.2 ⟨below, restAscending⟩
        · rename_i notLess notSame
          refine List.pairwise_cons.2 ⟨?_, ih restAscending⟩
          intro entry member
          rcases mem_putLabel member with same | earlier
          · have greater : other < key := by
              rcases Std.lt_trichotomy key other with less | equal | greater
              · exact absurd less notLess
              · exact absurd equal notSame
              · exact greater
            rw [same]
            exact greater
          · exact below entry earlier

/-- A map from label keys to label values. -/
structure LabelMap where
  entries : List (String × String)
  ascending : entries.Pairwise (fun left right => left.1 < right.1) := by simp

namespace LabelMap

instance : DecidableEq LabelMap := fun left right =>
  if same : left.entries = right.entries then
    isTrue (by cases left; cases right; simp_all)
  else isFalse fun equal => same (by rw [equal])

def empty : LabelMap := ⟨[], List.Pairwise.nil⟩

instance : Inhabited LabelMap := ⟨empty⟩

def insert (labels : LabelMap) (key value : String) : LabelMap :=
  ⟨putLabel key value labels.entries, pairwise_putLabel key value labels.ascending⟩

def get? (labels : LabelMap) (key : String) : Option String :=
  labels.entries.lookup key

/-- The map of entries in order, of which the last under a key counts. -/
def ofList (entries : List (String × String)) : LabelMap :=
  entries.foldl (fun grown entry => grown.insert entry.1 entry.2) empty

end LabelMap

end PolicyWatch
