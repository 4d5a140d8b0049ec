import PolicyWatch.Proofs.Regex.Marked

/-!
# Searching finds what an expression covers

An expression is searched for by marks.  Main statement: a search finds an
expression just if the expression covers some stretch of the text, provided that no
repetition in it asks for more rounds than it allows.
-/

namespace PolicyWatch

namespace Regex

/-- Whether no repetition asks for more rounds than it allows. -/
def Ordered : Regex → Prop
  | .empty => True
  | .anchor _ => True
  | .chars _ => True
  | .seq first second => first.Ordered ∧ second.Ordered
  | .either first second => first.Ordered ∧ second.Ordered
  | .repeated body least most => body.Ordered ∧ ∀ bound, most = some bound → least ≤ bound
  | .group body => body.Ordered

variable {first second body : Regex} {before text after : List Char}

theorem matches_empty_iff : Matches .empty before text after ↔ text = [] := by
  constructor
  · intro covered
    cases covered
    rfl
  · rintro rfl
    exact .empty before after

theorem matches_chars_iff {set : CharSet} :
    Matches (.chars set) before text after ↔
      ∃ character, text = [character] ∧ set.contains character = true := by
  constructor
  · intro covered
    cases covered with
    | chars _ _ member => exact ⟨_, rfl, member⟩
  · rintro ⟨character, rfl, member⟩
    exact .chars before after member

theorem matches_seq_iff :
    Matches (.seq first second) before text after ↔
      ∃ left right, text = left ++ right ∧ Matches first before left (right ++ after) ∧
        Matches second (left.reverse ++ before) right after := by
  constructor
  · intro covered
    cases covered with
    | seq matchesFirst matchesSecond => exact ⟨_, _, rfl, matchesFirst, matchesSecond⟩
  · rintro ⟨left, right, rfl, matchesFirst, matchesSecond⟩
    exact .seq matchesFirst matchesSecond

theorem matches_either_iff :
    Matches (.either first second) before text after ↔
      Matches first before text after ∨ Matches second before text after := by
  constructor
  · intro covered
    cases covered with
    | eitherFirst _ covered => exact .inl covered
    | eitherSecond _ covered => exact .inr covered
  · rintro (covered | covered)
    · exact .eitherFirst second covered
    · exact .eitherSecond first covered

theorem matches_group_iff :
    Matches (.group body) before text after ↔ Matches body before text after := by
  constructor
  · intro covered
    cases covered with
    | group covered => exact covered
  · exact .group

theorem matches_anchor_iff {test : Anchor} :
    Matches (.anchor test) before text after ↔
      text = [] ∧ test.holds before.head? after.head? = true := by
  constructor
  · intro covered
    cases covered with
    | anchor passes => exact ⟨rfl, passes⟩
  · rintro ⟨rfl, passes⟩
    exact .anchor passes

/-- A repetition ends where no round is asked for, or has another round. -/
theorem matches_repeated_iff {least : Nat} {most : Option Nat} :
    Matches (.repeated body least most) before text after ↔
      (least = 0 ∧ text = []) ∨
        (most ≠ some 0 ∧ ∃ left right, text = left ++ right ∧
          Matches body before left (right ++ after) ∧
          Matches (.repeated body (least - 1) (most.map (· - 1))) (left.reverse ++ before) right
            after) := by
  constructor
  · intro covered
    cases covered with
    | done => exact .inl ⟨rfl, rfl⟩
    | again room once more => exact .inr ⟨room, _, _, rfl, once, more⟩
  · rintro (⟨rfl, rfl⟩ | ⟨room, left, right, rfl, once, more⟩)
    · exact .done body most before after
    · exact .again room once more

end Regex

namespace Marked

variable {marked rest : Marked} {body : Regex}

/-- Whether an expression covers what a regular expression covers. -/
def Represents (marked : Marked) (regex : Regex) : Prop :=
  ∀ before text after, Covers marked before text after ↔ regex.Matches before text after

theorem Represents.star (same : marked.Represents body) :
    (Marked.star marked).Represents (.repeated body 0 none) := by
  intro before text after
  constructor
  · intro covered
    generalize isStar : Marked.star marked = starred at covered
    induction covered with
    | done => exact .done body none _ _
    | again once _ _ ih =>
        cases isStar
        exact .again (by simp) ((same _ _ _).1 once) (ih rfl)
    | _ => cases isStar
  · intro covered
    generalize isRepeated : Regex.repeated body 0 none = repeated at covered
    induction covered with
    | done => exact .done marked _ _
    | again _ once _ _ ih =>
        cases isRepeated
        exact .again ((same _ _ _).2 once) (ih rfl)
    | _ => cases isRepeated

theorem Represents.atMost (same : marked.Represents body) (count : Nat) :
    (Marked.atMost marked count).Represents (.repeated body 0 (some count)) := by
  induction count with
  | zero =>
      intro before text after
      rw [Regex.matches_repeated_iff]
      change Covers .empty before text after ↔ _
      rw [covers_empty_iff]
      simp
  | succ count ih =>
      intro before text after
      rw [Regex.matches_repeated_iff]
      change
        Covers (.either .empty (.seq marked (Marked.atMost marked count))) before text after ↔ _
      rw [covers_either_iff, covers_empty_iff, covers_seq_iff]
      simp only [same _ _ _, ih _ _ _]
      simp

/-- A number of rounds in front of a repetition raises both bounds. -/
theorem Represents.times {most : Option Nat} (same : marked.Represents body)
    (sameRest : rest.Represents (.repeated body 0 most)) (count : Nat) :
    (Marked.times marked rest count).Represents
      (.repeated body count (most.map (· + count))) := by
  induction count with
  | zero =>
      have unchanged : most.map (· + 0) = most := by cases most <;> rfl
      rw [unchanged]
      exact sameRest
  | succ count ih =>
      intro before text after
      have room : most.map (· + (count + 1)) ≠ some 0 := by cases most <;> simp
      have fewer : (most.map (· + (count + 1))).map (· - 1) = most.map (· + count) := by
        cases most <;> rfl
      rw [Regex.matches_repeated_iff, fewer]
      change Covers (.seq marked (Marked.times marked rest count)) before text after ↔ _
      rw [covers_seq_iff]
      simp only [same _ _ _, ih _ _ _]
      simp [room]

/-- An expression without marks covers what the regular expression covers. -/
theorem represents_ofRegex {regex : Regex} (ordered : regex.Ordered) :
    (ofRegex regex).Represents regex := by
  induction regex with
  | empty =>
      intro before text after
      rw [ofRegex, covers_empty_iff, Regex.matches_empty_iff]
  | anchor test =>
      intro before text after
      rw [ofRegex, covers_anchor_iff, Regex.matches_anchor_iff]
  | chars set =>
      intro before text after
      rw [ofRegex, covers_chars_iff, Regex.matches_chars_iff]
  | seq first second ihFirst ihSecond =>
      intro before text after
      rw [ofRegex, covers_seq_iff, Regex.matches_seq_iff]
      simp only [ihFirst ordered.1 _ _ _, ihSecond ordered.2 _ _ _]
  | either first second ihFirst ihSecond =>
      intro before text after
      rw [ofRegex, covers_either_iff, Regex.matches_either_iff, ihFirst ordered.1,
        ihSecond ordered.2]
  | repeated body least most ih =>
      have same := ih ordered.1
      cases most with
      | none => exact same.times same.star least
      | some most =>
          have bounded : least ≤ most := ordered.2 most rfl
          have whole := same.times (same.atMost (most - least)) least
          rw [Option.map_some, Nat.sub_add_cancel bounded] at whole
          exact whole
  | group body ih =>
      intro before text after
      rw [ofRegex, Regex.matches_group_iff]
      exact ih ordered before text after

theorem not_resumes_times {before text after : List Char}
    (clean : ∀ before text after, ¬ Resumes marked before text after)
    (cleanRest : ∀ before text after, ¬ Resumes rest before text after) (count : Nat) :
    ¬ Resumes (times marked rest count) before text after := by
  induction count generalizing before text after with
  | zero => exact cleanRest before text after
  | succ count ih =>
      change ¬ Resumes (.seq marked (times marked rest count)) before text after
      rw [resumes_seq_iff]
      rintro (resumed | ⟨left, right, _, resumed, _⟩)
      · exact ih resumed
      · exact clean _ _ _ resumed

theorem not_resumes_atMost {before text after : List Char}
    (clean : ∀ before text after, ¬ Resumes marked before text after) (count : Nat) :
    ¬ Resumes (atMost marked count) before text after := by
  induction count generalizing before text after with
  | zero =>
      intro resumed
      cases resumed
  | succ count ih =>
      change ¬ Resumes (.either .empty (.seq marked (atMost marked count))) before text after
      rw [resumes_either_iff, resumes_seq_iff]
      rintro (resumed | resumed | ⟨left, right, _, resumed, _⟩)
      · cases resumed
      · exact ih resumed
      · exact clean _ _ _ resumed

/-- A regular expression starts without marks. -/
theorem not_resumes_ofRegex (regex : Regex) :
    ∀ before text after, ¬ Resumes (ofRegex regex) before text after := by
  induction regex with
  | empty =>
      intro before text after resumed
      cases resumed
  | anchor test =>
      intro before text after resumed
      cases resumed
  | chars set =>
      intro before text after resumed
      cases (resumes_chars_iff.1 resumed).2
  | seq first second ihFirst ihSecond =>
      intro before text after resumed
      rcases resumes_seq_iff.1 resumed with resumed | ⟨left, right, _, resumed, _⟩
      · exact ihSecond _ _ _ resumed
      · exact ihFirst _ _ _ resumed
  | either first second ihFirst ihSecond =>
      intro before text after resumed
      rcases resumes_either_iff.1 resumed with resumed | resumed
      · exact ihFirst _ _ _ resumed
      · exact ihSecond _ _ _ resumed
  | repeated body least most ih =>
      intro before text after
      cases most with
      | none =>
          refine not_resumes_times ih ?_ least
          intro before text after resumed
          obtain ⟨left, right, _, resumed, _⟩ := resumes_star_iff.1 resumed
          exact ih _ _ _ resumed
      | some most =>
          exact not_resumes_times ih (fun _ _ _ => not_resumes_atMost ih (most - least)) least
  | group body ih => exact ih

end Marked

namespace Regex

/-- A search finds an expression just if it covers some stretch of the text. -/
theorem isFoundIn_iff {regex : Regex} (ordered : regex.Ordered) (text : List Char) :
    regex.isFoundIn text = true ↔ regex.FoundIn text := by
  have searched := Marked.foundFrom_iff (Marked.ofRegex regex) [] text
  have represented := Marked.represents_ofRegex ordered
  unfold isFoundIn FoundIn
  rw [List.head?_nil] at searched
  rw [searched]
  constructor
  · rintro (⟨left, right, _, resumed⟩ | ⟨skipped, _, rfl, left, right, rfl, covered⟩)
    · exact absurd resumed (Marked.not_resumes_ofRegex regex _ _ _)
    · rw [List.append_nil] at covered
      exact ⟨skipped, left, right, (List.append_assoc ..).symm, (represented _ _ _).1 covered⟩
  · rintro ⟨skipped, left, right, rfl, covered⟩
    refine .inr ⟨skipped, left ++ right, List.append_assoc .., left, right, rfl, ?_⟩
    rw [List.append_nil]
    exact (represented _ _ _).2 covered

end Regex

end PolicyWatch
