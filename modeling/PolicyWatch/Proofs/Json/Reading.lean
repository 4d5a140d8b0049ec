import PolicyWatch.Proofs.Json.Text
import PolicyWatch.Proofs.Text.Digits

/-!
# What was written is read back

Main statement: a value without decimals, whose integers have at most sixty-four bits, is read
back from its compact form.
-/

namespace PolicyWatch.Json

open PolicyWatch.Text

/-! ## Numbers -/

/-- Whether a text ends or goes on with a mark that may stand behind a value. -/
def Follows (rest : List Char) : Prop :=
  ∀ character ∈ rest.head?, character = ',' ∨ character = ']' ∨ character = '\x7d'

theorem follows_cons {mark : Char} (isMark : mark = ',' ∨ mark = ']' ∨ mark = '\x7d')
    (rest : List Char) : Follows (mark :: rest) := by
  intro character first
  cases first
  exact isMark

theorem follows_nil : Follows [] := by
  intro character first
  cases first

namespace Follows

variable {rest : List Char}

theorem endsDigits (follows : Follows rest) : EndsDigits rest := by
  intro character first
  rcases follows character first with rfl | rfl | rfl <;> rfl

theorem readFraction_eq (follows : Follows rest) : readFraction rest = some (none, rest) := by
  unfold readFraction
  split
  · rcases follows _ rfl with impossible | impossible | impossible <;> cases impossible
  · rfl

theorem readExponent_eq (follows : Follows rest) : readExponent rest = some (none, rest) := by
  unfold readExponent
  split
  · rename_i mark tail
    have notExponent : ¬ (mark = 'e' ∨ mark = 'E') := by
      rcases follows mark rfl with rfl | rfl | rfl <;> decide
    rw [if_neg notExponent]
  · rfl

end Follows

theorem readMagnitude_toDigits (negative : Bool) (magnitude : Nat) {rest : List Char}
    (follows : Follows rest) :
    readMagnitude negative (Nat.toDigits 10 magnitude ++ rest) =
      some (ofWhole negative magnitude, rest) := by
  have areDigits : ∀ character ∈ Nat.toDigits 10 magnitude, character.isDigit = true :=
    fun _ => isDigit_of_mem_toDigits
  have valued := digitsValue?_toDigits magnitude
  unfold readMagnitude spanDigits
  rw [takeWhile_isDigit_append areDigits follows.endsDigits,
    dropWhile_isDigit_append areDigits follows.endsDigits]
  dsimp only
  split
  · rename_i nothing
    exact absurd nothing Nat.toDigits_ne_nil
  · rename_i leadingZero
    cases (eq_zero_of_toDigits leadingZero).2
  · rw [follows.readFraction_eq]
    dsimp only
    rw [follows.readExponent_eq]
    dsimp only
    rw [valued, Option.map_some]

/-- An integer is written as its digits, behind a sign if it is negative. -/
theorem toList_toString (value : Int) :
    (toString value).toList =
      if value < 0 then '-' :: Nat.toDigits 10 value.natAbs else Nat.toDigits 10 value.natAbs := by
  rw [Int.toString_eq_repr, Int.repr_eq_if]
  by_cases negative : value < 0
  · rw [if_neg (by omega), if_pos negative, String.toList_append, Nat.toList_repr,
      show (-value).toNat = value.natAbs by omega]
    rfl
  · rw [if_pos (by omega), if_neg negative, Nat.toList_repr,
      show value.toNat = value.natAbs by omega]

/-- Whether an integer has at most sixty-four bits, with a sign or without. -/
def isNarrow (value : Int) : Bool :=
  -9223372036854775808 ≤ value && value ≤ 18446744073709551615

theorem ofWhole_natAbs {value : Int} (narrow : isNarrow value = true) :
    ofWhole (value < 0) value.natAbs = .integer value := by
  have bounds : -9223372036854775808 ≤ value ∧ value ≤ 18446744073709551615 := by
    simpa [isNarrow] using narrow
  have same : (if decide (value < 0) = true then -(value.natAbs : Int) else value.natAbs) =
      value := by
    by_cases negative : value < 0
    · rw [if_pos (decide_eq_true negative)]
      omega
    · rw [if_neg (by simpa using negative)]
      omega
  unfold ofWhole
  dsimp only
  rw [same, if_neg (by simp only [decide_eq_true_eq]; omega), if_pos bounds]

theorem readNumber_digits (digits rest : List Char) (first : Char)
    (isDigit : first.isDigit = true) :
    readNumber (first :: digits ++ rest) = readMagnitude false (first :: digits ++ rest) := by
  unfold readNumber
  split
  · rename_i minus
    cases (List.cons.inj minus).1
    cases isDigit
  · rfl

theorem readNumber_toString {value : Int} (narrow : isNarrow value = true) {rest : List Char}
    (follows : Follows rest) :
    readNumber ((toString value).toList ++ rest) = some (.integer value, rest) := by
  have whole := ofWhole_natAbs narrow
  have magnitude := readMagnitude_toDigits (value < 0) value.natAbs follows
  rw [whole] at magnitude
  rw [toList_toString]
  by_cases negative : value < 0
  · rw [decide_eq_true negative] at magnitude
    rw [if_pos negative]
    exact magnitude
  · rw [decide_eq_false negative] at magnitude
    rw [if_neg negative]
    cases digits : Nat.toDigits 10 value.natAbs with
    | nil => exact absurd digits Nat.toDigits_ne_nil
    | cons first others =>
        have isDigit := isDigit_of_mem_toDigits (digits ▸ List.mem_cons_self : first ∈ _)
        rw [readNumber_digits others rest first isDigit, ← digits]
        exact magnitude

theorem exists_toString_eq_cons (value : Int) :
    ∃ first rest, (toString value).toList = first :: rest ∧
      (first = '-' ∨ first.isDigit = true) := by
  rw [toList_toString]
  split
  · exact ⟨_, _, rfl, .inl rfl⟩
  · cases digits : Nat.toDigits 10 value.natAbs with
    | nil => exact absurd digits Nat.toDigits_ne_nil
    | cons first others =>
        exact ⟨first, others, rfl, .inr (isDigit_of_mem_toDigits (digits ▸ List.mem_cons_self))⟩

/-! ## Values -/

mutual

/-- Whether a value is made of strings, truth values, nulls and narrow integers. -/
def isPlain : Json → Bool
  | .integer value => isNarrow value
  | .decimal _ _ => false
  | .unreadable => false
  | .array elements => allPlain elements
  | .object members => membersPlain members
  | _ => true

def allPlain : List Json → Bool
  | [] => true
  | element :: rest => element.isPlain && allPlain rest

def membersPlain : List (String × Json) → Bool
  | [] => true
  | (_, value) :: rest => value.isPlain && membersPlain rest

end

/-- The characters of elements, parted by commas. -/
def elementsText (elements : List Json) : List Char :=
  [','].intercalate ((writeElements elements).map String.toList)

/-- The characters of members, parted by commas. -/
def membersText (members : List (String × Json)) : List Char :=
  [','].intercalate ((writeMembers members).map String.toList)

theorem toList_write_array (elements : List Json) :
    (Json.array elements).write.toList = '[' :: (elementsText elements ++ [']']) := by
  rw [write, String.toList_append, String.toList_append, String.toList_intercalate]
  rfl

theorem toList_write_object (members : List (String × Json)) :
    (Json.object members).write.toList = '\x7b' :: (membersText members ++ ['\x7d']) := by
  rw [write, String.toList_append, String.toList_append, String.toList_intercalate]
  rfl

theorem elementsText_singleton (element : Json) :
    elementsText [element] = element.write.toList := by
  simp [elementsText, writeElements]

theorem elementsText_cons (element next : Json) (rest : List Json) :
    elementsText (element :: next :: rest) =
      element.write.toList ++ ',' :: elementsText (next :: rest) := by
  simp [elementsText, writeElements]

def memberText (name : String) (value : Json) : List Char :=
  '"' :: (name.toList.flatMap escape ++ '"' :: ':' :: value.write.toList)

theorem toList_member (name : String) (value : Json) :
    (writeText name ++ ":" ++ value.write).toList = memberText name value := by
  rw [String.toList_append, String.toList_append, toList_writeText]
  simp [memberText]

theorem membersText_singleton (name : String) (value : Json) :
    membersText [(name, value)] = memberText name value := by
  rw [membersText, writeMembers, writeMembers, List.map_singleton, List.intercalate_singleton,
    toList_member]

theorem membersText_cons (name : String) (value : Json) (next : String × Json)
    (rest : List (String × Json)) :
    membersText ((name, value) :: next :: rest) =
      memberText name value ++ ',' :: membersText (next :: rest) := by
  rw [membersText, writeMembers, List.map_cons, toList_member, List.intercalate_cons_of_ne_nil]
  · simp [membersText]
  · simp [writeMembers]

/-- Where neither a letter nor a mark of another value comes first, a number is read. -/
theorem readValue_of_unmarked (fuel : Nat) {first : Char} (rest : List Char)
    (unmarked : first ∉ ['n', 't', 'f', '"', '[', '\x7b']) :
    readValue (fuel + 1) (first :: rest) = readNumber (first :: rest) := by
  rw [readValue]
  all_goals
    intros
    rename_i impossible
    rw [(List.cons.inj impossible).1] at unmarked
    exact unmarked (by decide)

theorem readValue_number (fuel : Nat) {first : Char} (rest : List Char)
    (numeric : first = '-' ∨ first.isDigit = true) :
    readValue (fuel + 1) (first :: rest) = readNumber (first :: rest) := by
  apply readValue_of_unmarked
  rcases numeric with rfl | digit
  · decide
  · intro member
    simp only [List.mem_cons, List.not_mem_nil, or_false] at member
    rcases member with rfl | rfl | rfl | rfl | rfl | rfl <;> exact absurd digit (by decide)

/-- Whether a character begins a value: it is no blank and closes no container. -/
def Begins (first : Char) : Prop :=
  isGap first = false ∧ first ≠ ']' ∧ first ≠ '\x7d'

instance (first : Char) : Decidable (Begins first) :=
  inferInstanceAs (Decidable (_ ∧ _ ∧ _))

theorem begins_numeric {first : Char} (numeric : first = '-' ∨ first.isDigit = true) :
    Begins first := by
  rcases numeric with rfl | digit
  · exact ⟨rfl, by decide, by decide⟩
  · have range := toNat_of_isDigit digit
    have apart : ∀ mark : Char, mark.toNat < 48 ∨ 57 < mark.toNat → first ≠ mark := by
      rintro mark beyond rfl
      omega
    refine ⟨?_, apart _ (by decide), apart _ (by decide)⟩
    simp only [isGap, Bool.or_eq_false_iff, beq_eq_false_iff_ne]
    exact ⟨⟨⟨apart _ (by decide), apart _ (by decide)⟩, apart _ (by decide)⟩, apart _ (by decide)⟩

theorem exists_write_eq_cons {value : Json} (plain : value.isPlain = true) :
    ∃ first rest, value.write.toList = first :: rest ∧ Begins first := by
  cases value with
  | null => exact ⟨'n', _, rfl, by decide⟩
  | bool value =>
      cases value with
      | false => exact ⟨'f', _, rfl, by decide⟩
      | true => exact ⟨'t', _, rfl, by decide⟩
  | integer value =>
      obtain ⟨first, rest, written, numeric⟩ := exists_toString_eq_cons value
      exact ⟨first, rest, written, begins_numeric numeric⟩
  | decimal significand exponent => cases plain
  | string text => exact ⟨_, _, toList_writeText text, by decide⟩
  | array elements => exact ⟨_, _, toList_write_array elements, by decide⟩
  | object members => exact ⟨_, _, toList_write_object members, by decide⟩
  | unreadable => cases plain

theorem skipGap_of_begins {first : Char} (begins : Begins first) (rest : List Char) :
    skipGap (first :: rest) = first :: rest := by
  rw [skipGap, List.dropWhile_cons_of_neg (by rw [begins.1]; exact Bool.false_ne_true)]

theorem skipGap_write {value : Json} (plain : value.isPlain = true) (rest : List Char) :
    skipGap (value.write.toList ++ rest) = value.write.toList ++ rest := by
  obtain ⟨first, others, written, begins⟩ := exists_write_eq_cons plain
  rw [written, List.cons_append, skipGap_of_begins begins]

theorem ofMembers_eq (members : List (String × Json)) (read : List (String × Json)) :
    ofMembers members (read.map fun member => (some member.1, member.2)) =
      .object (read.reverse ++ members) := by
  induction read generalizing members with
  | nil => rfl
  | cons first read ih =>
      rw [List.map_cons, ofMembers, ih, List.reverse_cons, List.append_assoc,
        List.singleton_append]

/-- Whether a value that was written is read back, whatever may stand behind a value. -/
def IsRead (value : Json) : Prop :=
  ∀ (fuel : Nat) (rest : List Char), 2 * value.write.toList.length ≤ fuel → Follows rest →
    readValue (fuel + 1) (value.write.toList ++ rest) = some (value, rest)

theorem isRead_integer {value : Int} (narrow : isNarrow value = true) :
    IsRead (.integer value) := by
  intro fuel rest _ follows
  obtain ⟨first, others, written, numeric⟩ := exists_toString_eq_cons value
  have whole := readNumber_toString narrow follows
  rw [written] at whole
  rw [write, written]
  exact (readValue_number fuel (others ++ rest) numeric).trans whole

theorem isRead_string (text : String) : IsRead (.string text) := by
  intro fuel rest _ _
  rw [write, toList_writeText, List.cons_append, List.append_assoc, List.singleton_append,
    readValue, readText_escaped]

theorem exists_elementsText_eq_cons {element : Json} (plain : element.isPlain = true)
    (others : List Json) :
    ∃ first rest, elementsText (element :: others) = first :: rest ∧ Begins first := by
  obtain ⟨first, rest, written, begins⟩ := exists_write_eq_cons plain
  cases others with
  | nil => exact ⟨first, rest, (elementsText_singleton element).trans written, begins⟩
  | cons next others =>
      rw [elementsText_cons, written]
      exact ⟨first, _, rfl, begins⟩

theorem skipGap_elementsText {element : Json} (plain : element.isPlain = true)
    (others : List Json) (rest : List Char) :
    skipGap (elementsText (element :: others) ++ rest) =
      elementsText (element :: others) ++ rest := by
  obtain ⟨first, tail, written, begins⟩ := exists_elementsText_eq_cons plain others
  rw [written, List.cons_append, skipGap_of_begins begins]

theorem exists_membersText_eq_cons (member : String × Json) (others : List (String × Json)) :
    ∃ rest, membersText (member :: others) = '"' :: rest := by
  cases others with
  | nil => exact ⟨_, membersText_singleton member.1 member.2⟩
  | cons next others => exact ⟨_, membersText_cons member.1 member.2 next others⟩

theorem skipGap_membersText (member : String × Json) (others : List (String × Json))
    (rest : List Char) :
    skipGap (membersText (member :: others) ++ rest) = membersText (member :: others) ++ rest := by
  obtain ⟨tail, written⟩ := exists_membersText_eq_cons member others
  rw [written, List.cons_append, skipGap_of_begins (by decide)]

theorem readElements_write {elements : List Json}
    (areRead : ∀ element ∈ elements, element.isPlain = true ∧ IsRead element)
    (present : elements ≠ []) (fuel : Nat) (read : List Json) (rest : List Char)
    (enough : 2 * (elementsText elements).length + 2 ≤ fuel) :
    readElements fuel read (elementsText elements ++ ']' :: rest) =
      some (.array (read.reverse ++ elements), rest) := by
  induction elements generalizing fuel read with
  | nil => exact absurd rfl present
  | cons element others ih =>
      obtain ⟨fuel, rfl⟩ : ∃ less, fuel = less + 2 := ⟨fuel - 2, by omega⟩
      have first := (areRead element List.mem_cons_self).2
      cases others with
      | nil =>
          rw [elementsText_singleton] at enough ⊢
          rw [readElements, first fuel (']' :: rest) (by omega) (follows_cons (by decide) rest)]
          simp [skipGap, isGap]
      | cons next others =>
          have nextPlain := (areRead next (List.mem_cons_of_mem _ List.mem_cons_self)).1
          have later := ih (fun other member => areRead other (List.mem_cons_of_mem _ member))
            (List.cons_ne_nil _ _) (fuel + 1) (element :: read)
          rw [elementsText_cons] at enough ⊢
          rw [List.length_append, List.length_cons] at enough
          rw [List.append_assoc, List.cons_append, readElements,
            first fuel _ (by omega) (follows_cons (by decide) _)]
          dsimp only
          rw [skipGap_of_begins (by decide)]
          change readElements (fuel + 1) (element :: read) (skipGap _) = _
          rw [skipGap_elementsText nextPlain, later (by omega), List.reverse_cons,
            List.append_assoc, List.singleton_append]

theorem readMembers_memberText {name : String} {value : Json} (plain : value.isPlain = true)
    (isRead : IsRead value) (fuel : Nat) (read : List (Option String × Json))
    {mark : Char} (isMark : mark = ',' ∨ mark = '\x7d') (rest : List Char)
    (enough : 2 * (memberText name value).length ≤ fuel) :
    readMembers (fuel + 2) read (memberText name value ++ mark :: rest) =
      if mark = ',' then readMembers (fuel + 1) ((some name, value) :: read) (skipGap rest)
      else some (ofMembers [] ((some name, value) :: read), rest) := by
  have shorter : 2 * value.write.toList.length ≤ fuel := by
    simp only [memberText, List.length_cons, List.length_append] at enough
    omega
  have follows : Follows (mark :: rest) := follows_cons (isMark.imp_right .inr) rest
  have begins : skipGap (mark :: rest) = mark :: rest := by
    rcases isMark with rfl | rfl <;> rfl
  simp only [memberText, List.cons_append, List.append_assoc]
  rw [readMembers, readText_escaped]
  dsimp only
  rw [skipGap_of_begins (by decide)]
  split
  · rename_i afterColon colon
    cases (List.cons.inj colon).2
    rw [skipGap_write plain, isRead fuel _ shorter follows]
    dsimp only
    rw [begins]
    rcases isMark with rfl | rfl <;> rfl
  · rename_i noColon
    exact absurd rfl (noColon _)

theorem readMembers_write {members : List (String × Json)}
    (areRead : ∀ member ∈ members, member.2.isPlain = true ∧ IsRead member.2)
    (present : members ≠ []) (fuel : Nat) (read : List (String × Json)) (rest : List Char)
    (enough : 2 * (membersText members).length + 2 ≤ fuel) :
    readMembers fuel (read.map fun member => (some member.1, member.2))
        (membersText members ++ '\x7d' :: rest) =
      some (.object (read.reverse ++ members), rest) := by
  induction members generalizing fuel read with
  | nil => exact absurd rfl present
  | cons member others ih =>
      obtain ⟨name, value⟩ := member
      obtain ⟨fuel, rfl⟩ : ∃ less, fuel = less + 2 := ⟨fuel - 2, by omega⟩
      obtain ⟨plain, isRead⟩ : value.isPlain = true ∧ IsRead value :=
        areRead (name, value) List.mem_cons_self
      cases others with
      | nil =>
          rw [membersText_singleton] at enough ⊢
          rw [readMembers_memberText plain isRead fuel _ (.inr rfl) rest (by omega),
            if_neg (by decide)]
          have read_eq := ofMembers_eq [] ((name, value) :: read)
          rw [List.map_cons] at read_eq
          rw [read_eq, List.reverse_cons, List.append_nil]
      | cons next others =>
          have later := ih (fun other member => areRead other (List.mem_cons_of_mem _ member))
            (List.cons_ne_nil _ _) (fuel + 1) ((name, value) :: read)
          rw [membersText_cons] at enough ⊢
          rw [List.length_append, List.length_cons] at enough
          rw [List.append_assoc, List.cons_append,
            readMembers_memberText plain isRead fuel _ (.inl rfl) _ (by omega), if_pos rfl]
          rw [List.map_cons] at later
          rw [skipGap_membersText, later (by omega), List.reverse_cons, List.append_assoc,
            List.singleton_append]

theorem readValue_bracket (fuel : Nat) {first : Char} (begins : Begins first) (rest : List Char) :
    readValue (fuel + 1) ('[' :: first :: rest) = readElements fuel [] (first :: rest) := by
  rw [readValue, skipGap_of_begins begins]
  split
  · rename_i closing
    exact absurd (List.cons.inj closing).1 begins.2.1
  · rfl

theorem readValue_brace (fuel : Nat) {first : Char} (begins : Begins first) (rest : List Char) :
    readValue (fuel + 1) ('\x7b' :: first :: rest) = readMembers fuel [] (first :: rest) := by
  rw [readValue, skipGap_of_begins begins]
  split
  · rename_i closing
    exact absurd (List.cons.inj closing).1 begins.2.2
  · rfl

theorem isRead_array {elements : List Json}
    (areRead : ∀ element ∈ elements, element.isPlain = true ∧ IsRead element) :
    IsRead (.array elements) := by
  intro fuel rest enough _
  cases elements with
  | nil => rfl
  | cons element others =>
      have plain := (areRead element List.mem_cons_self).1
      rw [toList_write_array] at enough ⊢
      rw [List.length_cons, List.length_append, List.length_singleton] at enough
      have read := readElements_write areRead (List.cons_ne_nil _ _) fuel [] rest (by omega)
      rw [List.cons_append, List.append_assoc, List.singleton_append]
      obtain ⟨first, tail, written, begins⟩ := exists_elementsText_eq_cons plain others
      rw [written, List.cons_append] at read ⊢
      rw [readValue_bracket fuel begins, read]
      rfl

theorem isRead_object {members : List (String × Json)}
    (areRead : ∀ member ∈ members, member.2.isPlain = true ∧ IsRead member.2) :
    IsRead (.object members) := by
  intro fuel rest enough _
  cases members with
  | nil => rfl
  | cons member others =>
      obtain ⟨name, value⟩ := member
      rw [toList_write_object] at enough ⊢
      rw [List.length_cons, List.length_append, List.length_singleton] at enough
      have read := readMembers_write areRead (List.cons_ne_nil _ _) fuel [] rest (by omega)
      rw [List.cons_append, List.append_assoc, List.singleton_append]
      obtain ⟨tail, written⟩ := exists_membersText_eq_cons (name, value) others
      rw [written, List.cons_append] at read ⊢
      rw [readValue_brace fuel (by decide), ← List.map_nil, read]
      rfl

mutual

theorem isRead_of_isPlain : ∀ value : Json, value.isPlain = true → IsRead value
  | .null, _ => fun _ _ _ _ => rfl
  | .bool true, _ => fun _ _ _ _ => rfl
  | .bool false, _ => fun _ _ _ _ => rfl
  | .integer _, narrow => isRead_integer narrow
  | .string text, _ => isRead_string text
  | .array elements, plain => isRead_array (areRead_of_allPlain elements plain)
  | .object members, plain => isRead_object (areRead_of_membersPlain members plain)

theorem areRead_of_allPlain : ∀ elements : List Json, allPlain elements = true →
    ∀ element ∈ elements, element.isPlain = true ∧ IsRead element
  | [], _ => fun _ impossible => by cases impossible
  | first :: rest, plain => by
      rw [allPlain, Bool.and_eq_true] at plain
      intro element member
      rcases List.mem_cons.1 member with same | later
      · rw [same]
        exact ⟨plain.1, isRead_of_isPlain first plain.1⟩
      · exact areRead_of_allPlain rest plain.2 element later

theorem areRead_of_membersPlain : ∀ members : List (String × Json), membersPlain members = true →
    ∀ member ∈ members, member.2.isPlain = true ∧ IsRead member.2
  | [], _ => fun _ impossible => by cases impossible
  | (name, value) :: rest, plain => by
      rw [membersPlain, Bool.and_eq_true] at plain
      intro member among
      rcases List.mem_cons.1 among with same | later
      · rw [same]
        exact ⟨plain.1, isRead_of_isPlain value plain.1⟩
      · exact areRead_of_membersPlain rest plain.2 member later

end

/-- A plain value is read back from its compact form. -/
theorem ofText?_write {value : Json} (plain : value.isPlain = true) :
    ofText? value.write.toList = some value := by
  have read := isRead_of_isPlain value plain (2 * value.write.toList.length) [] (Nat.le_refl _)
    follows_nil
  have begun := skipGap_write plain []
  rw [List.append_nil] at read begun
  rw [ofText?, begun, read]
  rfl

end PolicyWatch.Json
