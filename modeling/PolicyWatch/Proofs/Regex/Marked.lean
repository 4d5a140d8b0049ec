import Mathlib.Data.List.Basic
import PolicyWatch.Regex.Matcher

/-!
# What marks mean

A mark on a set of characters says that the text read so far can end there.  So
an expression with marks covers stretches of a text from its start, and resumes
stretches from its marks.  Main statement: a search finds just the expressions
that cover some stretch of what is left to read, or resume one.
-/

namespace PolicyWatch.Marked

/-- Whether an expression covers a stretch of a text, whatever its marks. -/
inductive Covers : Marked → List Char → List Char → List Char → Prop where
  | empty (before after : List Char) : Covers .empty before [] after
  | anchor {test : Anchor} {before after : List Char}
      (passes : test.holds before.head? after.head? = true) :
      Covers (.anchor test) before [] after
  | chars {set : CharSet} {character : Char} (mark : Bool) (before after : List Char)
      (member : set.contains character = true) :
      Covers (.chars set mark) before [character] after
  | seq {first second : Marked} {before left right after : List Char}
      (coversFirst : Covers first before left (right ++ after))
      (coversSecond : Covers second (left.reverse ++ before) right after) :
      Covers (.seq first second) before (left ++ right) after
  | eitherFirst {first : Marked} (second : Marked) {before text after : List Char}
      (covered : Covers first before text after) : Covers (.either first second) before text after
  | eitherSecond (first : Marked) {second : Marked} {before text after : List Char}
      (covered : Covers second before text after) : Covers (.either first second) before text after
  | done (body : Marked) (before after : List Char) : Covers (.star body) before [] after
  | again {body : Marked} {before left right after : List Char}
      (once : Covers body before left (right ++ after))
      (more : Covers (.star body) (left.reverse ++ before) right after) :
      Covers (.star body) before (left ++ right) after

/-- Whether an expression is left at the end of a stretch of a text that starts at
one of its marks. -/
inductive Resumes : Marked → List Char → List Char → List Char → Prop where
  | chars (set : CharSet) (before after : List Char) : Resumes (.chars set true) before [] after
  | seqFirst {first second : Marked} {before left right after : List Char}
      (resumed : Resumes first before left (right ++ after))
      (covered : Covers second (left.reverse ++ before) right after) :
      Resumes (.seq first second) before (left ++ right) after
  | seqSecond (first : Marked) {second : Marked} {before text after : List Char}
      (resumed : Resumes second before text after) :
      Resumes (.seq first second) before text after
  | eitherFirst {first : Marked} (second : Marked) {before text after : List Char}
      (resumed : Resumes first before text after) :
      Resumes (.either first second) before text after
  | eitherSecond (first : Marked) {second : Marked} {before text after : List Char}
      (resumed : Resumes second before text after) :
      Resumes (.either first second) before text after
  | star {body : Marked} {before left right after : List Char}
      (resumed : Resumes body before left (right ++ after))
      (covered : Covers (.star body) (left.reverse ++ before) right after) :
      Resumes (.star body) before (left ++ right) after

variable {first second body : Marked} {before text after : List Char}

/-! ## Inversion -/

theorem covers_empty_iff : Covers .empty before text after ↔ text = [] := by
  constructor
  · intro covered
    cases covered
    rfl
  · rintro rfl
    exact .empty before after

theorem covers_anchor_iff {test : Anchor} :
    Covers (.anchor test) before text after ↔
      text = [] ∧ test.holds before.head? after.head? = true := by
  constructor
  · intro covered
    cases covered with
    | anchor passes => exact ⟨rfl, passes⟩
  · rintro ⟨rfl, passes⟩
    exact .anchor passes

theorem covers_chars_iff {set : CharSet} {mark : Bool} :
    Covers (.chars set mark) before text after ↔
      ∃ character, text = [character] ∧ set.contains character = true := by
  constructor
  · intro covered
    cases covered with
    | chars _ _ _ member => exact ⟨_, rfl, member⟩
  · rintro ⟨character, rfl, member⟩
    exact .chars mark before after member

theorem covers_seq_iff :
    Covers (.seq first second) before text after ↔
      ∃ left right, text = left ++ right ∧ Covers first before left (right ++ after) ∧
        Covers second (left.reverse ++ before) right after := by
  constructor
  · intro covered
    cases covered with
    | seq coversFirst coversSecond => exact ⟨_, _, rfl, coversFirst, coversSecond⟩
  · rintro ⟨left, right, rfl, coversFirst, coversSecond⟩
    exact .seq coversFirst coversSecond

theorem covers_either_iff :
    Covers (.either first second) before text after ↔
      Covers first before text after ∨ Covers second before text after := by
  constructor
  · intro covered
    cases covered with
    | eitherFirst _ covered => exact .inl covered
    | eitherSecond _ covered => exact .inr covered
  · rintro (covered | covered)
    · exact .eitherFirst second covered
    · exact .eitherSecond first covered

theorem resumes_chars_iff {set : CharSet} {mark : Bool} :
    Resumes (.chars set mark) before text after ↔ text = [] ∧ mark = true := by
  constructor
  · intro resumed
    cases resumed
    exact ⟨rfl, rfl⟩
  · rintro ⟨rfl, rfl⟩
    exact .chars set before after

theorem resumes_seq_iff :
    Resumes (.seq first second) before text after ↔
      Resumes second before text after ∨
        ∃ left right, text = left ++ right ∧ Resumes first before left (right ++ after) ∧
          Covers second (left.reverse ++ before) right after := by
  constructor
  · intro resumed
    cases resumed with
    | seqFirst resumed covered => exact .inr ⟨_, _, rfl, resumed, covered⟩
    | seqSecond _ resumed => exact .inl resumed
  · rintro (resumed | ⟨left, right, rfl, resumed, covered⟩)
    · exact .seqSecond first resumed
    · exact .seqFirst resumed covered

theorem resumes_either_iff :
    Resumes (.either first second) before text after ↔
      Resumes first before text after ∨ Resumes second before text after := by
  constructor
  · intro resumed
    cases resumed with
    | eitherFirst _ resumed => exact .inl resumed
    | eitherSecond _ resumed => exact .inr resumed
  · rintro (resumed | resumed)
    · exact .eitherFirst second resumed
    · exact .eitherSecond first resumed

theorem resumes_star_iff :
    Resumes (.star body) before text after ↔
      ∃ left right, text = left ++ right ∧ Resumes body before left (right ++ after) ∧
        Covers (.star body) (left.reverse ++ before) right after := by
  constructor
  · intro resumed
    cases resumed with
    | star resumed covered => exact ⟨_, _, rfl, resumed, covered⟩
  · rintro ⟨left, right, rfl, resumed, covered⟩
    exact .star resumed covered

theorem covers_star_cons_iff {character : Char} :
    Covers (.star body) before (character :: text) after ↔
      ∃ left right, text = left ++ right ∧ Covers body before (character :: left) (right ++ after) ∧
        Covers (.star body) (left.reverse ++ character :: before) right after := by
  constructor
  · intro covered
    generalize isStar : Marked.star body = marked at covered
    generalize isText : character :: text = whole at covered
    induction covered with
    | done => cases isText
    | @again other before left right after once more _ ih =>
        cases isStar
        cases left with
        | nil =>
            -- An empty round leaves everything to the rounds behind it.
            exact ih rfl isText
        | cons head left =>
            obtain ⟨rfl, rfl⟩ := List.cons.inj isText
            refine ⟨left, right, rfl, once, ?_⟩
            simpa using more
    | _ => cases isStar
  · rintro ⟨left, right, rfl, once, more⟩
    have whole : Covers (.star body) ((character :: left).reverse ++ before) right after := by
      simpa using more
    exact .again once whole

/-! ## Leaving at a place -/

theorem exits_iff (marked : Marked) (before after : List Char) :
    ((exits before.head? after.head? marked).empty = true ↔ Covers marked before [] after) ∧
      ((exits before.head? after.head? marked).marked = true ↔ Resumes marked before [] after) := by
  induction marked with
  | empty =>
      refine ⟨iff_of_true rfl (.empty before after), iff_of_false (by simp [exits]) ?_⟩
      intro resumed
      cases resumed
  | anchor test =>
      refine ⟨by rw [covers_anchor_iff]; simp [exits], iff_of_false (by simp [exits]) ?_⟩
      intro resumed
      cases resumed
  | chars set mark =>
      rw [covers_chars_iff, resumes_chars_iff]
      simp [exits]
  | seq first second ihFirst ihSecond =>
      rw [covers_seq_iff, resumes_seq_iff]
      simp [exits, ihFirst, ihSecond]
  | either first second ihFirst ihSecond =>
      rw [covers_either_iff, resumes_either_iff]
      simp [exits, ihFirst, ihSecond]
  | star body ih =>
      rw [resumes_star_iff]
      have crossed : Covers (.star body) before [] after := .done body before after
      simp [exits, ih, crossed]

/-! ## Moving over a character -/

theorem exits_step (before : Option Char) (character : Char) (marked : Marked) (entry : Bool) :
    (step before character marked entry).2 = exits before (some character) marked := by
  induction marked generalizing entry with
  | empty => rfl
  | anchor => rfl
  | chars => rfl
  | seq first second ihFirst ihSecond => simp [step, exits, ihFirst, ihSecond]
  | either first second ihFirst ihSecond => simp [step, exits, ihFirst, ihSecond]
  | star body ih => rfl

theorem Covers.star_congr {other : Marked}
    (same : ∀ before text after, Covers body before text after → Covers other before text after)
    (covered : Covers (.star body) before text after) : Covers (.star other) before text after := by
  generalize isStar : Marked.star body = marked at covered
  induction covered with
  | done => exact .done other _ _
  | again once _ _ ih =>
      cases isStar
      exact .again (same _ _ _ once) (ih rfl)
  | _ => cases isStar

theorem covers_step_iff (neighbour : Option Char) (character : Char) (marked : Marked)
    (entry : Bool) (before text after : List Char) :
    Covers (step neighbour character marked entry).1 before text after ↔
      Covers marked before text after := by
  induction marked generalizing entry before text after with
  | empty => rfl
  | anchor => rfl
  | chars =>
      change Covers (.chars _ _) _ _ _ ↔ _
      rw [covers_chars_iff, covers_chars_iff]
  | seq first second ihFirst ihSecond =>
      change Covers (.seq _ _) _ _ _ ↔ _
      rw [covers_seq_iff, covers_seq_iff]
      simp only [ihFirst, ihSecond]
  | either first second ihFirst ihSecond =>
      change Covers (.either _ _) _ _ _ ↔ _
      rw [covers_either_iff, covers_either_iff]
      simp only [ihFirst, ihSecond]
  | star body ih =>
      change Covers (.star _) _ _ _ ↔ _
      constructor
      · exact Covers.star_congr fun _ _ _ covered => (ih _ _ _ _).1 covered
      · exact Covers.star_congr fun _ _ _ covered => (ih _ _ _ _).2 covered

/-- A stretch that starts with a character is split behind the character or in
front of it. -/
theorem exists_append_cons_iff {character : Char} {text : List Char}
    {Split : List Char → List Char → Prop} :
    (∃ left right, character :: text = left ++ right ∧ Split left right) ↔
      Split [] (character :: text) ∨
        ∃ left right, text = left ++ right ∧ Split (character :: left) right := by
  constructor
  · rintro ⟨left, right, isText, split⟩
    cases left with
    | nil =>
        subst isText
        exact .inl split
    | cons head left =>
        obtain ⟨rfl, rfl⟩ := List.cons.inj isText
        exact .inr ⟨left, right, rfl, split⟩
  · rintro (split | ⟨left, right, rfl, split⟩)
    · exact ⟨[], character :: text, rfl, split⟩
    · exact ⟨character :: left, right, rfl, split⟩

/-- Whether an expression resumes behind a character what it resumes in front of it, and what it
covers from there if it may be entered there. -/
def StepsOver (before : List Char) (character : Char) (marked : Marked) : Prop :=
  ∀ (entry : Bool) (text after : List Char),
    Resumes (step before.head? character marked entry).1 (character :: before) text after ↔
      Resumes marked before (character :: text) after ∨
        (entry = true ∧ Covers marked before (character :: text) after)

namespace StepsOver

variable {character : Char}

theorem empty : StepsOver before character .empty := by
  intro entry text after
  refine iff_of_false (fun resumed => by cases resumed) ?_
  rintro (resumed | ⟨_, covered⟩)
  · cases resumed
  · cases covers_empty_iff.1 covered

theorem anchor (test : Anchor) : StepsOver before character (.anchor test) := by
  intro entry text after
  refine iff_of_false (fun resumed => by cases resumed) ?_
  rintro (resumed | ⟨_, covered⟩)
  · cases resumed
  · cases (covers_anchor_iff.1 covered).1

theorem chars (set : CharSet) (mark : Bool) : StepsOver before character (.chars set mark) := by
  intro entry text after
  change Resumes (.chars _ _) _ _ _ ↔ _
  rw [resumes_chars_iff, resumes_chars_iff, covers_chars_iff]
  simp
  tauto

/-- The second part is entered where the first is left: behind the character, in front of it, or
where it was entered itself if the first part is empty there. -/
theorem seq (stepsFirst : StepsOver before character first)
    (stepsSecond : StepsOver before character second) :
    StepsOver before character (.seq first second) := by
  intro entry text after
  have crossed := (exits_iff first before (character :: (text ++ after))).1
  have isLeft := (exits_iff first before (character :: (text ++ after))).2
  change Resumes (.seq _ _) _ _ _ ↔ _
  rw [List.head?_cons] at crossed isLeft
  rw [resumes_seq_iff, resumes_seq_iff, covers_seq_iff, exists_append_cons_iff,
    exists_append_cons_iff, exits_step]
  simp only [stepsFirst _ _ _, stepsSecond _ _ _, covers_step_iff, Bool.or_eq_true,
    Bool.and_eq_true, crossed, isLeft, List.reverse_cons, List.append_assoc, List.cons_append,
    List.reverse_nil, List.nil_append]
  constructor
  · rintro ((resumed | ⟨resumed | ⟨entered, covered⟩, rest⟩) |
      ⟨left, right, rfl, resumed | ⟨entered, covered⟩, rest⟩)
    · exact .inl (.inl resumed)
    · exact .inl (.inr (.inl ⟨resumed, rest⟩))
    · exact .inr ⟨entered, .inl ⟨covered, rest⟩⟩
    · exact .inl (.inr (.inr ⟨left, right, rfl, resumed, rest⟩))
    · exact .inr ⟨entered, .inr ⟨left, right, rfl, covered, rest⟩⟩
  · rintro ((resumed | ⟨resumed, rest⟩ | ⟨left, right, rfl, resumed, rest⟩) |
      ⟨entered, ⟨covered, rest⟩ | ⟨left, right, rfl, covered, rest⟩⟩)
    · exact .inl (.inl resumed)
    · exact .inl (.inr ⟨.inl resumed, rest⟩)
    · exact .inr ⟨left, right, rfl, .inl resumed, rest⟩
    · exact .inl (.inr ⟨.inr ⟨entered, covered⟩, rest⟩)
    · exact .inr ⟨left, right, rfl, .inr ⟨entered, covered⟩, rest⟩

theorem either (stepsFirst : StepsOver before character first)
    (stepsSecond : StepsOver before character second) :
    StepsOver before character (.either first second) := by
  intro entry text after
  change Resumes (.either _ _) _ _ _ ↔ _
  rw [resumes_either_iff, resumes_either_iff, covers_either_iff]
  have movedFirst := stepsFirst entry text after
  have movedSecond := stepsSecond entry text after
  tauto

/-- A round may begin in front of the character if the repetition is entered there, or if another
round ends there. -/
theorem star (steps : StepsOver before character body) :
    StepsOver before character (.star body) := by
  intro entry text after
  have isLeft := (exits_iff body before (character :: (text ++ after))).2
  have others := covers_step_iff before.head? character (.star body) entry
  change Resumes (.star _) _ _ _ ↔ _
  change ∀ before text after, Covers (.star _) before text after ↔ _ at others
  rw [List.head?_cons] at isLeft
  rw [resumes_star_iff, resumes_star_iff, exists_append_cons_iff]
  simp only [steps _ _ _, others, Bool.or_eq_true, isLeft, List.reverse_cons, List.append_assoc,
    List.cons_append, List.reverse_nil, List.nil_append]
  constructor
  · rintro ⟨left, right, rfl, resumed | ⟨entered | resumed, covered⟩, rest⟩
    · exact .inl (.inr ⟨left, right, rfl, resumed, rest⟩)
    · exact .inr ⟨entered, covers_star_cons_iff.2 ⟨left, right, rfl, covered, rest⟩⟩
    · exact .inl (.inl ⟨resumed, covers_star_cons_iff.2 ⟨left, right, rfl, covered, rest⟩⟩)
  · rintro ((⟨resumed, rest⟩ | ⟨left, right, rfl, resumed, rest⟩) | ⟨entered, rest⟩)
    · obtain ⟨left, right, rfl, covered, rest⟩ := covers_star_cons_iff.1 rest
      exact ⟨left, right, rfl, .inr ⟨.inr resumed, covered⟩, rest⟩
    · exact ⟨left, right, rfl, .inl resumed, rest⟩
    · obtain ⟨left, right, rfl, covered, rest⟩ := covers_star_cons_iff.1 rest
      exact ⟨left, right, rfl, .inr ⟨.inl entered, covered⟩, rest⟩

end StepsOver

theorem resumes_step_iff (marked : Marked) (entry : Bool) (character : Char)
    (before text after : List Char) :
    Resumes (step before.head? character marked entry).1 (character :: before) text after ↔
      Resumes marked before (character :: text) after ∨
        (entry = true ∧ Covers marked before (character :: text) after) := by
  have steps : StepsOver before character marked := by
    induction marked with
    | empty => exact .empty
    | anchor test => exact .anchor test
    | chars set mark => exact .chars set mark
    | seq first second ihFirst ihSecond => exact ihFirst.seq ihSecond
    | either first second ihFirst ihSecond => exact ihFirst.either ihSecond
    | star body ih => exact ih.star
  exact steps entry text after

/-! ## Searching -/

/-- A search finds just the expressions that resume a stretch here, or cover one
from here or from a later place. -/
theorem foundFrom_iff (marked : Marked) (before text : List Char) :
    foundFrom before.head? marked text = true ↔
      (∃ left right, text = left ++ right ∧ Resumes marked before left right) ∨
        ∃ skipped rest, text = skipped ++ rest ∧
          ∃ left right, rest = left ++ right ∧
            Covers marked (skipped.reverse ++ before) left right := by
  induction text generalizing marked before with
  | nil =>
      obtain ⟨crossed, isLeft⟩ := exits_iff marked before []
      unfold foundFrom
      change ((exits before.head? [].head? marked).empty ||
        (exits before.head? [].head? marked).marked) = true ↔ _
      rw [Bool.or_eq_true, crossed, isLeft]
      simp [or_comm]
  | cons character rest ih =>
      obtain ⟨crossed, isLeft⟩ := exits_iff marked before (character :: rest)
      have later := ih (step before.head? character marked true).1 (character :: before)
      simp only [resumes_step_iff, covers_step_iff, true_and] at later
      unfold foundFrom
      simp only [exits_step]
      change ((exits before.head? (character :: rest).head? marked).empty ||
        (exits before.head? (character :: rest).head? marked).marked ||
        foundFrom (character :: before).head? _ rest) = true ↔ _
      rw [Bool.or_eq_true, Bool.or_eq_true, crossed, isLeft, later, exists_append_cons_iff,
        exists_append_cons_iff, exists_append_cons_iff]
      simp only [List.reverse_cons, List.append_assoc, List.cons_append, List.reverse_nil,
        List.nil_append, and_or_left, exists_or]
      constructor
      · rintro ((covered | resumed) | (resumed | covered) | further)
        · exact .inr (.inl (.inl covered))
        · exact .inl (.inl resumed)
        · exact .inl (.inr resumed)
        · exact .inr (.inl (.inr covered))
        · exact .inr (.inr further)
      · rintro ((resumed | resumed) | (covered | covered) | further)
        · exact .inl (.inr resumed)
        · exact .inr (.inl (.inl resumed))
        · exact .inl (.inl covered)
        · exact .inr (.inl (.inr covered))
        · exact .inr (.inr further)

end PolicyWatch.Marked
