import Mathlib.Data.List.Forall2
import PolicyWatch.Json.Decoder
import PolicyWatch.Proofs.Json.Reading
import PolicyWatch.Proofs.Text.Bytes

/-!
# Values with members in another order

The members of an object say the same in any order.  Main statements: the fields of a record are
found in its object in whatever order the members stand, and sorting the members of a value puts
them in ascending order of names and changes nothing else.
-/

namespace PolicyWatch.Json

mutual

/-- Whether a value is another, with the members of each of its objects in any order. -/
def Rearranged : Json → Json → Prop
  | .array elements, other => ∃ others, other = .array others ∧ ElementsRearranged elements others
  | .object members, other =>
      ∃ kept others, other = .object others ∧ MembersRearranged members kept ∧ kept.Perm others
  | value, other => other = value

def ElementsRearranged : List Json → List Json → Prop
  | [], others => others = []
  | element :: rest, others =>
      ∃ first later, others = first :: later ∧ Rearranged element first ∧
        ElementsRearranged rest later

def MembersRearranged : List (String × Json) → List (String × Json) → Prop
  | [], others => others = []
  | (name, value) :: rest, others =>
      ∃ first later, others = (name, first) :: later ∧ Rearranged value first ∧
        MembersRearranged rest later

end

theorem elementsRearranged_iff {elements others : List Json} :
    ElementsRearranged elements others ↔ List.Forall₂ Rearranged elements others := by
  induction elements generalizing others with
  | nil =>
      rw [ElementsRearranged, List.forall₂_nil_left_iff]
  | cons element rest ih =>
      rw [ElementsRearranged, List.forall₂_cons_left_iff]
      constructor
      · rintro ⟨first, later, rfl, same, more⟩
        exact ⟨first, later, same, ih.1 more, rfl⟩
      · rintro ⟨first, later, same, more, rfl⟩
        exact ⟨first, later, rfl, same, ih.2 more⟩

theorem membersRearranged_iff {members others : List (String × Json)} :
    MembersRearranged members others ↔
      others.map Prod.fst = members.map Prod.fst ∧
        List.Forall₂ Rearranged (members.map Prod.snd) (others.map Prod.snd) := by
  induction members generalizing others with
  | nil =>
      rw [MembersRearranged]
      simp
  | cons member rest ih =>
      obtain ⟨name, value⟩ := member
      rw [MembersRearranged]
      constructor
      · rintro ⟨first, later, rfl, same, more⟩
        obtain ⟨names, values⟩ := ih.1 more
        exact ⟨congrArg (name :: ·) names, .cons same values⟩
      · rintro ⟨names, values⟩
        cases others with
        | nil => cases names
        | cons other others =>
            obtain ⟨first, later⟩ := List.cons.inj names
            cases values with
            | cons same more =>
                exact ⟨other.2, others, congrArg (· :: others) (Prod.ext first rfl), same,
                  ih.2 ⟨later, more⟩⟩

/-! ## Values keep their shape -/

theorem allPlain_iff {elements : List Json} :
    allPlain elements = true ↔ ∀ element ∈ elements, element.isPlain = true := by
  induction elements with
  | nil => simp [allPlain]
  | cons first rest ih => simp [allPlain, ih]

theorem membersPlain_iff {members : List (String × Json)} :
    membersPlain members = true ↔ ∀ member ∈ members, member.2.isPlain = true := by
  induction members with
  | nil => simp [membersPlain]
  | cons first rest ih =>
      obtain ⟨name, value⟩ := first
      simp [membersPlain, ih]

theorem depthOfMembers_le_iff {members : List (String × Json)} {most : Nat} :
    depthOfMembers members ≤ most ↔ ∀ member ∈ members, member.2.depth ≤ most := by
  induction members with
  | nil => simp [depthOfMembers]
  | cons first rest ih =>
      obtain ⟨name, value⟩ := first
      simp only [depthOfMembers, Nat.max_le, ih, List.forall_mem_cons]

theorem depthOfMembers_perm {members others : List (String × Json)} (same : members.Perm others) :
    depthOfMembers others = depthOfMembers members := by
  refine Nat.le_antisymm (depthOfMembers_le_iff.2 fun member among => ?_)
    (depthOfMembers_le_iff.2 fun member among => ?_)
  · exact depthOfMembers_le_iff.1 (Nat.le_refl _) member (same.mem_iff.2 among)
  · exact depthOfMembers_le_iff.1 (Nat.le_refl _) member (same.mem_iff.1 among)

theorem membersPlain_perm {members others : List (String × Json)} (same : members.Perm others)
    (plain : membersPlain members = true) : membersPlain others = true :=
  membersPlain_iff.2 fun member among => membersPlain_iff.1 plain member (same.mem_iff.2 among)

mutual

/-- A value with its members in another order is as deep, and plain if it was. -/
theorem Rearranged.keeps : ∀ (value : Json) {other : Json}, Rearranged value other →
    other.depth = value.depth ∧ (value.isPlain = true → other.isPlain = true)
  | .array elements, _, same => by
      rw [Rearranged] at same
      obtain ⟨others, rfl, same⟩ := same
      obtain ⟨depth, plain⟩ := ElementsRearranged.keeps elements same
      exact ⟨congrArg (· + 1) depth, plain⟩
  | .object members, _, same => by
      rw [Rearranged] at same
      obtain ⟨kept, others, rfl, same, moved⟩ := same
      obtain ⟨depth, plain⟩ := MembersRearranged.keeps members same
      exact ⟨congrArg (· + 1) ((depthOfMembers_perm moved).trans depth),
        fun isPlain => membersPlain_perm moved (plain isPlain)⟩
  | .null, _, same => by cases same; exact ⟨rfl, id⟩
  | .bool _, _, same => by cases same; exact ⟨rfl, id⟩
  | .integer _, _, same => by cases same; exact ⟨rfl, id⟩
  | .decimal _ _, _, same => by cases same; exact ⟨rfl, id⟩
  | .string _, _, same => by cases same; exact ⟨rfl, id⟩
  | .unreadable, _, same => by cases same; exact ⟨rfl, id⟩

theorem ElementsRearranged.keeps : ∀ (elements : List Json) {others : List Json},
    ElementsRearranged elements others →
      depthOfElements others = depthOfElements elements ∧
        (allPlain elements = true → allPlain others = true)
  | [], _, same => by
      rw [ElementsRearranged] at same
      cases same
      exact ⟨rfl, id⟩
  | element :: rest, _, same => by
      rw [ElementsRearranged] at same
      obtain ⟨first, later, rfl, firstSame, laterSame⟩ := same
      obtain ⟨firstDepth, firstPlain⟩ := Rearranged.keeps element firstSame
      obtain ⟨laterDepth, laterPlain⟩ := ElementsRearranged.keeps rest laterSame
      rw [depthOfElements, depthOfElements, firstDepth, laterDepth, allPlain, allPlain,
        Bool.and_eq_true, Bool.and_eq_true]
      exact ⟨rfl, .imp firstPlain laterPlain⟩

theorem MembersRearranged.keeps : ∀ (members : List (String × Json))
    {others : List (String × Json)}, MembersRearranged members others →
      depthOfMembers others = depthOfMembers members ∧
        (membersPlain members = true → membersPlain others = true)
  | [], _, same => by
      rw [MembersRearranged] at same
      cases same
      exact ⟨rfl, id⟩
  | (name, value) :: rest, _, same => by
      rw [MembersRearranged] at same
      obtain ⟨first, later, rfl, firstSame, laterSame⟩ := same
      obtain ⟨firstDepth, firstPlain⟩ := Rearranged.keeps value firstSame
      obtain ⟨laterDepth, laterPlain⟩ := MembersRearranged.keeps rest laterSame
      rw [depthOfMembers, depthOfMembers, firstDepth, laterDepth, membersPlain, membersPlain,
        Bool.and_eq_true, Bool.and_eq_true]
      exact ⟨rfl, .imp firstPlain laterPlain⟩

end

mutual

theorem isReadable_of_isPlain : ∀ value : Json, value.isPlain = true → value.isReadable = true
  | .null, _ => rfl
  | .bool _, _ => rfl
  | .integer _, _ => rfl
  | .string _, _ => rfl
  | .array elements, plain => allReadable_of_allPlain elements plain
  | .object members, plain => membersReadable_of_membersPlain members plain

theorem allReadable_of_allPlain : ∀ elements : List Json, allPlain elements = true →
    allReadable elements = true
  | [], _ => rfl
  | first :: rest, plain => by
      rw [allPlain, Bool.and_eq_true] at plain
      rw [allReadable, isReadable_of_isPlain first plain.1, allReadable_of_allPlain rest plain.2]
      rfl

theorem membersReadable_of_membersPlain : ∀ members : List (String × Json),
    membersPlain members = true → membersReadable members = true
  | [], _ => rfl
  | (_, value) :: rest, plain => by
      rw [membersPlain, Bool.and_eq_true] at plain
      rw [membersReadable, isReadable_of_isPlain value plain.1,
        membersReadable_of_membersPlain rest plain.2]
      rfl

end

/-! ## Members in ascending order -/

mutual

/-- Whether the members of each object in a value stand in ascending order of names. -/
def IsSorted : Json → Prop
  | .array elements => ElementsSorted elements
  | .object members =>
      members.Pairwise (fun first later => first.1 ≤ later.1) ∧ MembersSorted members
  | _ => True

def ElementsSorted : List Json → Prop
  | [] => True
  | element :: rest => IsSorted element ∧ ElementsSorted rest

def MembersSorted : List (String × Json) → Prop
  | [] => True
  | (_, value) :: rest => IsSorted value ∧ MembersSorted rest

end

theorem membersSorted_iff {members : List (String × Json)} :
    MembersSorted members ↔ ∀ member ∈ members, member.2.IsSorted := by
  induction members with
  | nil => simp [MembersSorted]
  | cons first rest ih =>
      obtain ⟨name, value⟩ := first
      rw [MembersSorted, ih, List.forall_mem_cons]

mutual

/-- Sorting the members of a value puts them in ascending order. -/
theorem isSorted_sorted : ∀ value : Json, value.sorted.IsSorted
  | .array elements => by
      rw [sorted, IsSorted]
      exact elementsSorted_sortElements elements
  | .object members => by
      rw [sorted, IsSorted]
      refine ⟨Text.pairwise_mergeSort_le Prod.fst _, membersSorted_iff.2 fun member among => ?_⟩
      exact membersSorted_iff.1 (membersSorted_sortMembers members) member
        (List.mem_mergeSort.1 among)
  | .null => trivial
  | .bool _ => trivial
  | .integer _ => trivial
  | .decimal _ _ => trivial
  | .string _ => trivial
  | .unreadable => trivial

theorem elementsSorted_sortElements : ∀ elements : List Json,
    ElementsSorted (sortElements elements)
  | [] => trivial
  | element :: rest => by
      rw [sortElements, ElementsSorted]
      exact ⟨isSorted_sorted element, elementsSorted_sortElements rest⟩

theorem membersSorted_sortMembers : ∀ members : List (String × Json),
    MembersSorted (sortMembers members)
  | [] => trivial
  | (_, value) :: rest => by
      rw [sortMembers, MembersSorted]
      exact ⟨isSorted_sorted value, membersSorted_sortMembers rest⟩

end

mutual

theorem rearranged_sorted : ∀ value : Json, Rearranged value value.sorted
  | .array elements => by
      rw [sorted, Rearranged]
      exact ⟨_, rfl, elementsRearranged_sortElements elements⟩
  | .object members => by
      rw [sorted, Rearranged]
      exact ⟨_, _, rfl, membersRearranged_sortMembers members, (List.mergeSort_perm _ _).symm⟩
  | .null => rfl
  | .bool _ => rfl
  | .integer _ => rfl
  | .decimal _ _ => rfl
  | .string _ => rfl
  | .unreadable => rfl

theorem elementsRearranged_sortElements : ∀ elements : List Json,
    ElementsRearranged elements (sortElements elements)
  | [] => rfl
  | element :: rest => by
      rw [sortElements, ElementsRearranged]
      exact ⟨_, _, rfl, rearranged_sorted element, elementsRearranged_sortElements rest⟩

theorem membersRearranged_sortMembers : ∀ members : List (String × Json),
    MembersRearranged members (sortMembers members)
  | [] => rfl
  | (_, value) :: rest => by
      rw [sortMembers, MembersRearranged]
      exact ⟨_, _, rfl, rearranged_sorted value, membersRearranged_sortMembers rest⟩

end

example : (object [("b", .array [.object [("d", .null), ("c", .null)]]), ("a", .null)]).sorted =
    .object [("a", .null), ("b", .array [.object [("c", .null), ("d", .null)]])] := by
  cbv

/-! ## Fields -/

variable {members others : List (String × Json)}

theorem filter_name_eq_nil {name : String} (absent : name ∉ members.map Prod.fst) :
    members.filter (fun member => member.1 = name) = [] := by
  rw [List.filter_eq_nil_iff]
  intro member among
  rw [decide_eq_true_eq]
  rintro rfl
  exact absent (List.mem_map_of_mem among)

theorem member?_of_not_mem {name : String} (absent : name ∉ members.map Prod.fst) :
    member? members name = some none := by
  rw [member?, filter_name_eq_nil absent]

/-- Where names are distinct, the only member with a name is found. -/
theorem member?_of_mem (distinct : (members.map Prod.fst).Nodup) {member : String × Json}
    (among : member ∈ members) : member? members member.1 = some (some member.2) := by
  induction members with
  | nil => cases among
  | cons first rest ih =>
      obtain ⟨isNew, restDistinct⟩ := List.nodup_cons.1 distinct
      rcases List.mem_cons.1 among with rfl | later
      · have here : decide (member.1 = member.1) = true := decide_eq_true rfl
        rw [member?, List.filter_cons, if_pos here, filter_name_eq_nil isNew]
      · have apart : ¬ decide (first.1 = member.1) = true := by
          rw [decide_eq_true_eq]
          intro same
          exact isNew (same ▸ List.mem_map_of_mem later)
        have skipped := ih restDistinct later
        unfold member? at skipped ⊢
        rw [List.filter_cons, if_neg apart]
        exact skipped

theorem membersNamed?_eq (distinct : (others.map Prod.fst).Nodup) {missing : List String}
    (absent : ∀ name ∈ missing, name ∉ others.map Prod.fst) {found : List (String × Json)}
    (among : ∀ member ∈ found, member ∈ others) :
    membersNamed? others (found.map Prod.fst ++ missing) =
      some ((found.map Prod.snd).map some ++ missing.map fun _ => none) := by
  induction found with
  | nil =>
      clear among
      induction missing with
      | nil => rfl
      | cons name missing ih =>
          have rest := ih fun other member => absent other (List.mem_cons_of_mem _ member)
          rw [List.map_nil, List.nil_append] at rest
          rw [List.map_nil, List.nil_append, membersNamed?,
            member?_of_not_mem (absent name List.mem_cons_self), rest]
          rfl
  | cons first found ih =>
      have rest := ih fun member later => among member (List.mem_cons_of_mem _ later)
      rw [List.map_cons, List.cons_append, membersNamed?,
        member?_of_mem distinct (among first List.mem_cons_self), rest]
      rfl

theorem fields?_of_rearranged {other : Json} (same : Rearranged (.object members) other)
    (distinct : (members.map Prod.fst).Nodup) {missing : List String}
    (absent : ∀ name ∈ missing, name ∉ members.map Prod.fst) :
    ∃ values, fields? (members.map Prod.fst ++ missing) other =
        some (values.map some ++ missing.map fun _ => none) ∧
      List.Forall₂ Rearranged (members.map Prod.snd) values := by
  rw [Rearranged] at same
  obtain ⟨kept, others, rfl, same, moved⟩ := same
  obtain ⟨names, values⟩ := membersRearranged_iff.1 same
  rw [← names] at distinct absent ⊢
  have sameNames := moved.map Prod.fst
  refine ⟨kept.map Prod.snd, ?_, values⟩
  exact membersNamed?_eq (sameNames.nodup_iff.1 distinct)
    (fun name member among => absent name member (sameNames.mem_iff.2 among))
    fun member among => moved.mem_iff.1 among

end PolicyWatch.Json
