import PolicyWatch.Field.Value
import PolicyWatch.Proofs.Regex.PatternShed
import PolicyWatch.Proofs.Regex.PatternTail
import PolicyWatch.Proofs.Regex.Rounds
import PolicyWatch.Regex.Size

/-!
# Listed expressions are anchored

A listed value is read between a start, an end and the parentheses of a group.  Main
statement: the expression of a value that can be read on its own accepts just the
texts that the value covers from the first to the last character.
-/

namespace PolicyWatch

namespace Regex

/-- The part that a whole pattern is read as, however deep it nests. -/
def whole? (ignoreCase : Bool) (pattern : List Char) : Option Part :=
  match readChoice (2 * pattern.length + 4) [] (Flags.initial ignoreCase) [] pattern with
  | some (part, _, []) => some part
  | _ => none

/-- The part between a start and an end. -/
def Part.anchored (part : Part) : Part :=
  ⟨.seq (.anchor .textStart) (.seq part.regex (.seq (.anchor .textEnd) .empty)),
    part.height + 2, true⟩

theorem ofPattern?_eq (ignoreCase : Bool) (pattern : List Char) :
    ofPattern? ignoreCase pattern =
      (whole? ignoreCase pattern).bind fun part =>
        if part.height ≤ greatestHeight then some part.regex else none := by
  unfold ofPattern? whole?
  generalize readChoice (2 * pattern.length + 4) [] (Flags.initial ignoreCase) [] pattern = read
  cases read with
  | none => rfl
  | some read =>
      obtain ⟨part, names, rest⟩ := read
      cases rest <;> rfl

theorem whole?_eq (ignoreCase : Bool) (pattern : List Char) :
    whole? ignoreCase pattern =
      (readBranches (2 * pattern.length + 4) [] (Flags.initial ignoreCase) [] pattern).bind
        fun read => if read.2 = [] then some read.1.1 else none := by
  unfold whole? readBranches
  generalize readChoice (2 * pattern.length + 4) [] (Flags.initial ignoreCase) [] pattern = read
  cases read with
  | none => rfl
  | some read =>
      obtain ⟨part, names, rest⟩ := read
      cases rest <;> rfl

variable {fuel : Nat} {ignoreCase : Bool}

theorem readSequence_front (value : List Char) :
    readSequence (fuel + 4) ⟨Flags.initial ignoreCase, [], []⟩
        ('^' :: '(' :: '?' :: ':' :: value) =
      (readBranches (fuel + 2) [] (Flags.initial ignoreCase) [] value).bind fun read =>
        readGroupEnd (readSequence (fuel + 2))
          ⟨Flags.initial ignoreCase, [], [Part.leaf (.anchor .textStart)]⟩ false read.1 read.2 := by
  have start : readSequence (fuel + 4) ⟨Flags.initial ignoreCase, [], []⟩
      ('^' :: '(' :: '?' :: ':' :: value) =
        readSequence (fuel + 3)
          ⟨Flags.initial ignoreCase, [], [Part.leaf (.anchor .textStart)]⟩
          ('(' :: '?' :: ':' :: value) := rfl
  rw [start, readSequence_succ]
  rfl

/-- What stands behind the value of a pattern is read as the end of the group and an end. -/
theorem readGroupEnd_back (read : Part × List (List Char)) :
    readGroupEnd (readSequence (fuel + 2))
        ⟨Flags.initial ignoreCase, [], [Part.leaf (.anchor .textStart)]⟩ false read [')', '$'] =
      some (⟨Flags.initial ignoreCase, read.2,
        [Part.leaf (.anchor .textEnd), ⟨read.1.regex, read.1.height + 1, true⟩,
          Part.leaf (.anchor .textStart)]⟩, []) :=
  rfl

theorem length_anchored (value : List Char) :
    2 * (anchored value).length + 4 = 2 * value.length + 11 + 5 := by
  unfold anchored
  simp only [List.length_append]
  change 2 * (4 + value.length + 2) + 4 = 2 * value.length + 11 + 5
  omega

/-- A value in its group is read as the value alone, unless the group is left open. -/
theorem readBranches_anchored (value : List Char) :
    readBranches (fuel + 5) [] (Flags.initial ignoreCase) [] (anchored value) =
      (readBranches (fuel + 2) [] (Flags.initial ignoreCase) [] (value ++ [')', '$'])).bind
        fun read =>
          (readGroupEnd (readSequence (fuel + 2))
            ⟨Flags.initial ignoreCase, [], [Part.leaf (.anchor .textStart)]⟩ false
              read.1 read.2).bind fun behind =>
            readBehindBranch (readBranches (fuel + 4)) [] behind.1 behind.2 := by
  have written : anchored value = '^' :: '(' :: '?' :: ':' :: (value ++ [')', '$']) := rfl
  rw [written, readBranches_succ, readBranchesStep, readSequence_front, Option.bind_assoc]

theorem isTail_back : IsTail [')', '$'] :=
  ⟨['$'], rfl, by decide⟩

theorem isTail_closing : IsTail [')'] :=
  ⟨[], rfl, by decide⟩

/-- A value that can be read alone is read between the anchors as it is alone, unless a comment at
its end takes in what stands behind it. -/
theorem whole?_anchored {value : List Char} {part : Part}
    (readable : whole? ignoreCase value = some part) :
    whole? ignoreCase (anchored value) =
      if (whole? ignoreCase (value ++ [')'])).isSome then none else some part.anchored := by
  rw [whole?_eq] at readable
  obtain ⟨⟨⟨part, names⟩, rest⟩, alone, readable⟩ := Option.bind_eq_some_iff.1 readable
  obtain ⟨rfl, same⟩ := Option.ite_none_right_eq_some.1 readable
  cases same
  have inside : 2 * (anchored value).length + 4 = 2 * value.length + 11 + 5 := length_anchored value
  have behind : 2 * (value ++ [')']).length + 4 = 2 * value.length + 6 := by
    rw [List.length_append]
    rfl
  have keeps := ((carries_pattern (2 * value.length + 4)).1 [] (Flags.initial ignoreCase)
    []).inFront value (part, names) [] alone
  rw [whole?_eq, whole?_eq, inside, behind, readBranches_anchored]
  -- The rest of the value is left for the end of the group, or nothing is.
  rcases keeps with left | ⟨_, swallowed⟩
  · have wrapped : readBranches (2 * value.length + 11 + 2) [] (Flags.initial ignoreCase) []
        (value ++ [')', '$']) = some ((part, names), [')', '$']) :=
      left ⟨2 * value.length + 11 + 2, by omega⟩ _ isTail_back
    have closed : readBranches (2 * value.length + 6) [] (Flags.initial ignoreCase) []
        (value ++ [')']) = some ((part, names), [')']) :=
      left ⟨2 * value.length + 6, by omega⟩ _ isTail_closing
    rw [wrapped, closed, Option.bind_some, readGroupEnd_back]
    rfl
  · have wrapped : readBranches (2 * value.length + 11 + 2) [] (Flags.initial ignoreCase) []
        (value ++ [')', '$']) = some ((part, names), []) :=
      swallowed ⟨2 * value.length + 11 + 2, by omega⟩ _ isTail_back
    have closed : readBranches (2 * value.length + 6) [] (Flags.initial ignoreCase) []
        (value ++ [')']) = some ((part, names), []) :=
      swallowed ⟨2 * value.length + 6, by omega⟩ _ isTail_closing
    rw [wrapped, closed]
    rfl

/-- Where a value can be read between the anchors, the text up to the parenthesis that
closes its group can be read alone. -/
theorem exists_whole?_of_anchored {value : List Char}
    (readable : (whole? ignoreCase (anchored value)).isSome) :
    ∃ front behind, value ++ [')', '$'] = front ++ ')' :: behind ∧
      (whole? ignoreCase front).isSome := by
  obtain ⟨part, readable⟩ := Option.isSome_iff_exists.1 readable
  have inside : 2 * (anchored value).length + 4 = 2 * value.length + 11 + 5 := length_anchored value
  rw [whole?_eq, inside, readBranches_anchored] at readable
  obtain ⟨read, readable, _⟩ := Option.bind_eq_some_iff.1 readable
  obtain ⟨⟨⟨part, names⟩, rest⟩, isRead, readable⟩ := Option.bind_eq_some_iff.1 readable
  obtain ⟨_, closed, _⟩ := Option.bind_eq_some_iff.1 readable
  have closes : IsClosing rest := by
    unfold readGroupEnd at closed
    cases rest with
    | nil => cases closed
    | cons mark behind =>
        simp only [onCharacter] at closed
        split at closed
        · rename_i isMark
          exact ⟨behind, isMark ▸ rfl⟩
        · cases closed
  have shed := (sheds_pattern (2 * value.length + 11 + 2)).1
  obtain ⟨front, same⟩ := (shed 0 _ _ _).leaves _ _ _ isRead
  obtain ⟨behind, rfl⟩ := closes
  refine ⟨front, behind, same.symm, ?_⟩
  rw [← same] at isRead
  have alone := (shed (2 * front.length + 4) _ _ _).sheds front _ _ [] (by omega) ⟨behind, rfl⟩
    isRead
  rw [whole?_eq, alone]
  rfl

/-- A value that can be read between the anchors can be read alone, or it closes the group
around it. -/
theorem whole?_of_anchored {value : List Char}
    (readable : (whole? ignoreCase (anchored value)).isSome) :
    (whole? ignoreCase value).isSome ∨
      ∃ front back, value = front ++ ')' :: back ∧ (whole? ignoreCase front).isSome := by
  obtain ⟨front, behind, same, isFront⟩ := exists_whole?_of_anchored readable
  rcases List.append_eq_append_iff.1 same with ⟨between, rfl, ends⟩ | ⟨between, rfl, ends⟩
  · match between, ends with
    | [], _ =>
        rw [List.append_nil] at isFront
        exact .inl isFront
    | [_], ends => cases ends
    | [_, _], ends => cases ends
    | _ :: _ :: _ :: _, ends => cases ends
  · cases between with
    | nil =>
        rw [List.append_nil]
        exact .inl isFront
    | cons mark between =>
        cases ends
        exact .inr ⟨front, between, rfl, isFront⟩

/-- Between the anchors an expression is found just where it covers the whole text. -/
theorem foundIn_anchored {part : Part} {text : List Char} :
    part.anchored.regex.FoundIn text ↔ part.regex.Matches [] text [] := by
  constructor
  · rintro ⟨before, whole, after, rfl, covered⟩
    obtain ⟨front, behind, rfl, front_covered, behind_covered⟩ := matches_seq_iff.1 covered
    obtain ⟨rfl, atStart⟩ := matches_anchor_iff.1 front_covered
    obtain ⟨middle, back, rfl, middle_covered, back_covered⟩ := matches_seq_iff.1 behind_covered
    obtain ⟨none, nothing, rfl, none_covered, empty⟩ := matches_seq_iff.1 back_covered
    obtain ⟨rfl, atEnd⟩ := matches_anchor_iff.1 none_covered
    cases empty
    obtain rfl : before = [] :=
      List.reverse_eq_nil_iff.1 (List.head?_eq_none_iff.1 (Option.isNone_iff_eq_none.1 atStart))
    obtain rfl : after = [] := List.head?_eq_none_iff.1 (Option.isNone_iff_eq_none.1 atEnd)
    simpa using middle_covered
  · intro covered
    refine ⟨[], text, [], (List.append_nil text).symm, ?_⟩
    refine matches_seq_iff.2 ⟨[], text, rfl, .anchor rfl, ?_⟩
    refine matches_seq_iff.2 ⟨text, [], (List.append_nil text).symm, covered, ?_⟩
    exact matches_seq_iff.2 ⟨[], [], rfl, .anchor rfl, .empty _ _⟩

theorem ordered_of_whole? {pattern : List Char} {part : Part}
    (readable : whole? ignoreCase pattern = some part) : part.anchored.regex.Ordered := by
  rw [whole?_eq] at readable
  obtain ⟨⟨read, rest⟩, isRead, readable⟩ := Option.bind_eq_some_iff.1 readable
  obtain ⟨_, same⟩ := Option.ite_none_right_eq_some.1 readable
  cases same
  have ordered : read.1.regex.Ordered :=
    (yields_pattern _).1 [] _ _ (List.forall_mem_nil _) _ _ _ isRead
  exact ⟨trivial, ordered, trivial, trivial⟩

end Regex

theorem regexOfValue?_eq_some [SizeLimit] {value : String} {expression : Regex} :
    regexOfValue? ignoreCase value = some expression ↔
      ∃ part, Regex.whole? ignoreCase (anchored value.toList) = some part ∧
        part.height ≤ Regex.greatestHeight ∧ SizeLimit.admits part.regex = true ∧
          part.regex = expression := by
  unfold regexOfValue?
  rw [Regex.ofPattern?_eq, Option.filter_eq_some_iff]
  constructor
  · rintro ⟨read, isWithin⟩
    obtain ⟨part, isPart, fits⟩ := Option.bind_eq_some_iff.1 read
    obtain ⟨low, same⟩ := Option.ite_none_right_eq_some.1 fits
    cases same
    exact ⟨part, isPart, low, isWithin, rfl⟩
  · rintro ⟨part, isPart, fits, isWithin, rfl⟩
    exact ⟨Option.bind_eq_some_iff.2 ⟨part, isPart, if_pos fits⟩, isWithin⟩

/-- A value that can be read alone is taken if no comment is open at its end and there is
room for the anchors; it then accepts just the texts that it covers as a whole.  A value that
cannot be read alone is taken only if it closes the group around it. -/
theorem regexOfValue?_anchors [SizeLimit] (ignoreCase : Bool) (value : String) :
    (∀ part, Regex.whole? ignoreCase value.toList = some part →
      ((∃ expression, regexOfValue? ignoreCase value = some expression) ↔
        Regex.whole? ignoreCase (value.toList ++ [')']) = none ∧
          part.height + 2 ≤ Regex.greatestHeight ∧ SizeLimit.admits part.anchored.regex = true) ∧
      ∀ expression, regexOfValue? ignoreCase value = some expression → ∀ text : String,
        (Condition.regex expression).accepts (.text text) = true ↔
          part.regex.Matches [] text.toList []) ∧
    (Regex.whole? ignoreCase value.toList = none →
      ∀ expression, regexOfValue? ignoreCase value = some expression →
        ∃ front back, value.toList = front ++ ')' :: back ∧
          ∃ part, Regex.whole? ignoreCase front = some part) := by
  refine ⟨fun part readable => ?_, fun unreadable expression taken => ?_⟩
  · have whole := Regex.whole?_anchored readable
    refine ⟨⟨?_, ?_⟩, ?_⟩
    · rintro ⟨expression, taken⟩
      obtain ⟨read, isRead, fits, isWithin, rfl⟩ := regexOfValue?_eq_some.1 taken
      rw [whole, Option.ite_none_left_eq_some] at isRead
      obtain ⟨left, same⟩ := isRead
      cases same
      exact ⟨Option.not_isSome_iff_eq_none.1 left, fits, isWithin⟩
    · rintro ⟨left, fits, isWithin⟩
      refine ⟨part.anchored.regex, regexOfValue?_eq_some.2 ⟨part.anchored, ?_, fits, isWithin, rfl⟩⟩
      rw [whole, left]
      rfl
    · intro expression taken text
      obtain ⟨read, isRead, _, _, rfl⟩ := regexOfValue?_eq_some.1 taken
      rw [whole, Option.ite_none_left_eq_some] at isRead
      obtain ⟨_, same⟩ := isRead
      cases same
      exact (Regex.isFoundIn_iff (Regex.ordered_of_whole? readable) text.toList).trans
        Regex.foundIn_anchored
  · obtain ⟨read, isRead, _⟩ := regexOfValue?_eq_some.1 taken
    have isSome := Option.isSome_iff_exists.2 ⟨read, isRead⟩
    rcases Regex.whole?_of_anchored isSome with readable | ⟨front, back, same, readable⟩
    · rw [unreadable] at readable
      cases readable
    · exact ⟨front, back, same, Option.isSome_iff_exists.1 readable⟩

/-- Alternatives are kept together: the second is not free of the start. -/
theorem alternatives_accept_whole :
    ∃ part expression, Regex.whole? false "a|b".toList = some part ∧
      regexOfValue? false "a|b" = some expression ∧
        (Condition.regex expression).accepts (.text "xb") = false ∧
          ¬ part.regex.Matches [] "xb".toList [] := by
  obtain ⟨part, readable⟩ : ∃ part, Regex.whole? false "a|b".toList = some part :=
    Option.isSome_iff_exists.1 (by decide +kernel)
  obtain ⟨expression, taken, refused⟩ := (Option.any_eq_true _ _).1
    (show (regexOfValue? false "a|b").any
      (fun expression => !(Condition.regex expression).accepts (.text "xb")) = true by
        decide +kernel)
  have refused : (Condition.regex expression).accepts (.text "xb") = false := by
    simpa using refused
  have accepts := ((regexOfValue?_anchors false "a|b").1 part readable).2 expression taken "xb"
  refine ⟨part, expression, readable, taken, refused, fun covered => ?_⟩
  exact Bool.false_ne_true (refused.symm.trans (accepts.2 covered))

/-- A value that is no expression alone, and is taken for one that accepts a text of which
it describes only a part. -/
theorem closedGroup_accepts_more :
    Regex.whole? false "a)|(?:b".toList = none ∧
      ∃ expression, regexOfValue? false "a)|(?:b" = some expression ∧
        (Condition.regex expression).accepts (.text "ax") = true :=
  ⟨by decide +kernel, (Option.any_eq_true _ _).1 (by decide +kernel)⟩

end PolicyWatch
