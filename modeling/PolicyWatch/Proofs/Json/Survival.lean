import PolicyWatch.Proofs.Json.Representation
import PolicyWatch.Proofs.Label.Map

/-!
# Data survive their encoding

What makes up events and policies (texts, numbers, lists, labels, fields that may be unset) is
decoded as it was encoded, in whatever order the members of objects stand.
-/

namespace PolicyWatch

namespace Format

variable {Value α : Type} {format : Format Option Value}

@[simp] theorem required_some (decode : Value → Option α) (value : Value) :
    required decode (some value) = decode value := rfl

@[simp] theorem withDefault_some (fallback : α) (decode : Value → Option α) (value : Value) :
    withDefault fallback decode (some value) = decode value := rfl

@[simp] theorem optionalField_some (decode : Value → Option α) (value : Value) :
    format.optionalField decode (some value) = format.optional decode value := rfl

@[simp] theorem optionalField_none (decode : Value → Option α) :
    format.optionalField decode none = some none := rfl

@[simp] theorem listField_some (decode : Value → Option α) (value : Value) :
    format.listField decode (some value) = format.list decode value := rfl

@[simp] theorem textField_some (value : Value) :
    format.textField (some value) = format.text value := rfl

/-- Entries in another order are decoded as the same entries in another order. -/
theorem eachEntry_of_perm {decode : Value → Option α}
    {members others : List (String × Value)} (moved : members.Perm others)
    {entries : List (String × α)} (read : eachEntry decode members = some entries) :
    ∃ found : List (String × α), eachEntry decode others = some found ∧ found.Perm entries := by
  induction moved generalizing entries with
  | nil => exact ⟨entries, read, .refl _⟩
  | cons member _ ih =>
      simp only [eachEntry, Option.bind_eq_bind, Option.bind_eq_some_iff] at read
      obtain ⟨first, firstRead, rest, restRead, ended⟩ := read
      cases ended
      obtain ⟨found, foundRead, same⟩ := ih restRead
      refine ⟨(member.1, first) :: found, ?_, same.cons _⟩
      rw [eachEntry, firstRead, foundRead]
      rfl
  | swap member next rest =>
      simp only [eachEntry, Option.bind_eq_bind, Option.bind_eq_some_iff] at read
      obtain ⟨first, firstRead, _, ⟨second, secondRead, rest, restRead, secondEnded⟩, ended⟩ := read
      cases secondEnded
      cases ended
      refine ⟨(member.1, second) :: (next.1, first) :: rest, ?_, .swap ..⟩
      rw [eachEntry, eachEntry, firstRead, secondRead, restRead]
      rfl
  | trans _ _ ihFirst ihSecond =>
      obtain ⟨between, betweenRead, betweenSame⟩ := ihFirst read
      obtain ⟨found, foundRead, foundSame⟩ := ihSecond betweenRead
      exact ⟨found, foundRead, foundSame.trans betweenSame⟩

end Format

namespace Json

section

variable (lenient : Bool)

@[simp] theorem format_text : (format lenient).text = text? := rfl

@[simp] theorem format_flag : (format lenient).flag = flag? := rfl

@[simp] theorem format_integer : (format lenient).integer = integer? := rfl

@[simp] theorem format_fields : (format lenient).fields = fields? := rfl

end

/-- Whether data that were encoded are decoded as the same, with members in any order, from a
value that does not say that nothing is set. -/
def Survives {α : Type} (encode : α → Json) (decode : Json → Option α) (data : α) : Prop :=
  ∀ other, Rearranged (encode data) other → decode other = some data ∧ other ≠ .null

section Combinators

variable {α : Type} {encode : α → Json} {decode : Json → Option α} (lenient : Bool)

theorem survives_text (text : String) : Survives .string text? text := by
  rintro other same
  cases same
  exact ⟨rfl, fun impossible => by cases impossible⟩

theorem survives_flag (value : Bool) : Survives .bool flag? value := by
  rintro other same
  cases same
  exact ⟨rfl, fun impossible => by cases impossible⟩

theorem survives_integer {bounds : Text.Bounds} {value : Int}
    (within : bounds.admits value = true) :
    Survives .integer (integer? bounds) value := by
  rintro other same
  cases same
  exact ⟨if_pos within, fun impossible => by cases impossible⟩

theorem survives_named {name : α → String} {named? : String → Option α} {data : α}
    (known : named? (name data) = some data) :
    Survives (fun data => .string (name data)) ((format lenient).named named?) data := by
  rintro other same
  cases same
  exact ⟨(Format.given_option _).trans known, fun impossible => by cases impossible⟩

theorem each_of_forall₂ {list : List α} {values : List Json}
    (survive : ∀ data ∈ list, Survives encode decode data)
    (same : List.Forall₂ Rearranged (list.map encode) values) :
    Format.each decode values = some list := by
  induction list generalizing values with
  | nil =>
      cases same
      rfl
  | cons first rest ih =>
      cases same with
      | cons firstSame restSame =>
          rw [Format.each, (survive first List.mem_cons_self _ firstSame).1,
            ih (fun data member => survive data (List.mem_cons_of_mem _ member)) restSame]
          rfl

theorem survives_list {list : List α} (survive : ∀ data ∈ list, Survives encode decode data) :
    Survives (fun list => .array (list.map encode)) ((format lenient).list decode) list := by
  rintro other same
  rw [Rearranged] at same
  obtain ⟨values, rfl, same⟩ := same
  exact ⟨each_of_forall₂ survive (elementsRearranged_iff.1 same),
    fun impossible => by cases impossible⟩

theorem optional_of_rearranged {data? : Option α}
    (survives : ∀ data, data? = some data → Survives encode decode data) {other : Json}
    (same : Rearranged (ofOption encode data?) other) :
    (format lenient).optional decode other = some data? := by
  cases data? with
  | none =>
      cases same
      rfl
  | some data =>
      obtain ⟨decoded, notNull⟩ := survives data rfl other same
      have isSet : (format lenient).settable other = some (some other) := by
        cases other with
        | null => exact absurd rfl notNull
        | _ => rfl
      rw [Format.optional, isSet, Option.bind_eq_bind, Option.bind_some]
      dsimp only
      rw [decoded]
      rfl

theorem fields_of_rearranged {members : List (String × Json)} {other : Json}
    (same : Rearranged (.object members) other) (distinct : (members.map Prod.fst).Nodup) :
    ∃ values, fields? (members.map Prod.fst) other = some (values.map some) ∧
      List.Forall₂ Rearranged (members.map Prod.snd) values := by
  have absent : ∀ name ∈ ([] : List String), name ∉ members.map Prod.fst := by
    intro name impossible
    cases impossible
  obtain ⟨values, found, related⟩ := fields?_of_rearranged same distinct absent
  rw [List.append_nil, List.map_nil, List.append_nil] at found
  exact ⟨values, found, related⟩

theorem survives_texts (texts : List String) :
    Survives ofTexts ((format lenient).list text?) texts :=
  survives_list lenient fun text _ => survives_text text

theorem eachEntry_of_rearranged {entries : List (String × α)}
    {members : List (String × Json)} (survive : ∀ entry ∈ entries, Survives encode decode entry.2)
    (same : MembersRearranged (entries.map fun entry => (entry.1, encode entry.2)) members) :
    Format.eachEntry decode members = some entries := by
  induction entries generalizing members with
  | nil =>
      cases same
      rfl
  | cons first rest ih =>
      rw [List.map_cons, MembersRearranged] at same
      obtain ⟨value, later, rfl, firstSame, restSame⟩ := same
      rw [Format.eachEntry, (survive first List.mem_cons_self _ firstSame).1,
        ih (fun entry member => survive entry (List.mem_cons_of_mem _ member)) restSame]
      rfl

theorem ne_null_of_rearranged {members : List (String × Json)} {other : Json}
    (same : Rearranged (.object members) other) : other ≠ .null := by
  rw [Rearranged] at same
  obtain ⟨_, _, rfl, _⟩ := same
  intro impossible
  cases impossible

end Combinators

end Json

open Json

/-- A map of labels survives, though its entries come in any order. -/
theorem LabelMap.survives (lenient : Bool) (labels : LabelMap) :
    Survives Json.ofLabels (format lenient).labels labels := by
  intro other same
  refine ⟨?_, ne_null_of_rearranged same⟩
  rw [Json.ofLabels, Rearranged] at same
  obtain ⟨kept, others, rfl, same, moved⟩ := same
  have read := eachEntry_of_rearranged (fun entry _ => survives_text entry.2) same
  obtain ⟨found, foundRead, foundSame⟩ := Format.eachEntry_of_perm moved read
  have entries : (format lenient).entries (.object others) = some others := rfl
  rw [Format.labels, entries, Option.bind_eq_bind, Option.bind_some, format_text, foundRead]
  exact congrArg some (LabelMap.ofList_of_perm foundSame)

end PolicyWatch
