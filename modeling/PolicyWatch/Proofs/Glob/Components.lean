import Mathlib.Data.List.Forall2
import PolicyWatch.Proofs.Glob.Expression

/-!
# Patterns component by component

A pattern without classes, branches and escaped characters is read one character at a
time, unless a component of it is a recursive star.  Main statement: a path fits such a
pattern just if it has as many components and each fits the component of the pattern at its
place.
-/

namespace PolicyWatch.Glob

open Text

/-- Whether a pattern stands for its components: it has no class, no branches and no escaped
character, and no component of it is a recursive star. -/
structure IsComponentwise (pattern : List Char) : Prop where
  ordinary : ∀ character ∈ pattern, character ∉ ['[', '\x7b', '\x7d', '\\']
  shallow : ∀ part ∈ parts pattern, part ≠ ['*', '*']

/-! ## Reading character by character -/

/-- The token of a character outside classes and branches. -/
def ordinaryToken : Char → Token
  | '?' => .anyByte
  | '*' => .star
  | character => .literal character

variable {fuel : Nat} {reading : Reading} {previous : Option Char} {character : Char}
  {rest pattern : List Char}

theorem isOutermost_of_outer_eq_nil (noOuter : reading.outer = []) :
    reading.isOutermost = true :=
  List.isEmpty_iff.2 noOuter

/-- An ordinary character is taken as its token; two stars are not one of these. -/
theorem readTokens_ordinary (noOuter : reading.outer = [])
    (ordinary : character ∉ ['[', '\x7b', '\x7d', '\\'])
    (alone : character = '*' → ∀ after, rest ≠ '*' :: after) :
    readTokens (fuel + 1) reading previous (character :: rest) =
      readTokens fuel (reading.add (ordinaryToken character)) (some character) rest := by
  have outermost := isOutermost_of_outer_eq_nil noOuter
  rw [List.mem_cons, List.mem_cons, List.mem_cons, List.mem_singleton] at ordinary
  push Not at ordinary
  obtain ⟨noClass, noBranches, noEnd, noEscape⟩ := ordinary
  conv_lhs => unfold readTokens
  split
  · rfl
  · split
    · exact absurd rfl (alone rfl _)
    · rfl
  · exact absurd rfl noClass
  · exact absurd rfl noBranches
  · exact absurd rfl noEnd
  · rw [if_pos outermost]
    rfl
  · exact absurd rfl noEscape
  · rename_i notAny notStar _ _ _ _ _
    rw [ordinaryToken]
    · exact notAny
    · exact notStar

def AtFront (reading : Reading) (previous : Option Char) : Prop :=
  reading.inner.current = [] ∨ previous = some '/'

/-- Two stars at the front of a component are recursive only where the component ends with
them. -/
theorem readTwoStars_ordinary (noOuter : reading.outer = []) {first : List Char}
    {others : List (List Char)} (split : parts rest = first :: others)
    (continues : AtFront reading previous → first ≠ []) :
    readTwoStars reading previous rest =
      ((reading.add .star).add .star, some '*', rest) := by
  have outermost := isOutermost_of_outer_eq_nil noOuter
  have noEnd : AtFront reading previous → rest ≠ [] ∧ ∀ after, rest ≠ '/' :: after := by
    intro front
    refine ⟨?_, fun after => ?_⟩
    · rintro rfl
      exact continues front (List.cons.inj (parts_nil.symm.trans split)).1.symm
    · rintro rfl
      exact continues front (List.cons.inj ((parts_slash after).symm.trans split)).1.symm
  unfold readTwoStars
  dsimp only
  split
  · rename_i isEmpty
    obtain ⟨present, noSlash⟩ := noEnd (.inl (List.isEmpty_iff.1 isEmpty))
    split
    · exact absurd rfl present
    · exact absurd rfl (noSlash _)
    · rfl
  · split
    · rename_i isDeep
      have isSlash : previous = some '/' := by
        simpa [isDeepAfter, outermost] using isDeep
      obtain ⟨present, noSlash⟩ := noEnd (.inr isSlash)
      split
      · exact absurd rfl present
      · exact absurd rfl (noSlash _)
      · rw [outermost]
        rfl
    · rfl

theorem readTokens_twoStars_ordinary (noOuter : reading.outer = []) {first : List Char}
    {others : List (List Char)} (split : parts rest = first :: others)
    (continues : AtFront reading previous → first ≠ []) :
    readTokens (fuel + 1) reading previous ('*' :: '*' :: rest) =
      readTokens fuel ((reading.add .star).add .star) (some '*') rest := by
  conv_lhs => unfold readTokens
  simp only [readTwoStars_ordinary noOuter split continues]

theorem not_atFront_add (token : Token) (apart : character ≠ '/') :
    ¬ AtFront (reading.add token) (some character) := by
  rintro (isEmpty | isSlash)
  · cases isEmpty
  · exact apart (Option.some.inj isSlash)

theorem reverse_current_add (reading : Reading) (token : Token) (later : List Token) :
    (reading.add token).inner.current.reverse ++ later =
      reading.inner.current.reverse ++ token :: later := by
  change (token :: reading.inner.current).reverse ++ later = _
  rw [List.reverse_cons, List.append_assoc, List.singleton_append]

theorem readTokens_componentwise (noOuter : reading.outer = []) (enough : rest.length < fuel)
    (ordinary : ∀ character ∈ rest, character ∉ ['[', '\x7b', '\x7d', '\\'])
    {first : List Char} {others : List (List Char)} (split : parts rest = first :: others)
    (shallowFirst : AtFront reading previous → first ≠ ['*', '*'])
    (shallow : ∀ part ∈ others, part ≠ ['*', '*']) :
    readTokens fuel reading previous rest =
      .ok (reading.inner.current.reverse ++ rest.map ordinaryToken) := by
  induction fuel generalizing reading previous rest first others with
  | zero => exact absurd enough (Nat.not_lt_zero _)
  | succ fuel ih =>
      cases rest with
      | nil =>
          rw [readTokens, if_pos (isOutermost_of_outer_eq_nil noOuter), List.map_nil,
            List.append_nil]
      | cons character rest =>
          obtain ⟨ordinaryFirst, ordinaryRest⟩ := List.forall_mem_cons.1 ordinary
          have enoughRest : rest.length < fuel := Nat.lt_of_succ_lt_succ enough
          obtain ⟨begun, later, splitRest⟩ := exists_parts rest
          by_cases two : character = '*' ∧ ∃ after, rest = '*' :: after
          · obtain ⟨rfl, after, rfl⟩ := two
            obtain ⟨begunAfter, laterAfter, splitAfter⟩ := exists_parts after
            obtain ⟨rfl, rfl⟩ := List.cons.inj
              (split.symm.trans (parts_cons (by decide) (parts_cons (by decide) splitAfter)))
            have continues : AtFront reading previous → begunAfter ≠ [] :=
              fun front isEmpty => shallowFirst front (by rw [isEmpty])
            have noOuterLater : ((reading.add .star).add .star).outer = [] := noOuter
            have notFront : ¬ AtFront ((reading.add .star).add .star) (some '*') :=
              not_atFront_add .star (by decide)
            rw [readTokens_twoStars_ordinary noOuter splitAfter continues,
              ih noOuterLater (Nat.lt_of_succ_lt enoughRest)
                (List.forall_mem_cons.1 ordinaryRest).2 splitAfter
                (fun front => absurd front notFront) shallow, reverse_current_add,
              reverse_current_add]
            rfl
          · have alone : character = '*' → ∀ after, rest ≠ '*' :: after :=
              fun isStar after same => two ⟨isStar, after, same⟩
            rw [readTokens_ordinary noOuter ordinaryFirst alone, List.map_cons,
              ← reverse_current_add]
            by_cases isSlash : character = '/'
            · subst isSlash
              obtain ⟨rfl, rfl⟩ := List.cons.inj (split.symm.trans (parts_slash rest))
              rw [splitRest] at shallow
              obtain ⟨shallowBegun, shallowLater⟩ := List.forall_mem_cons.1 shallow
              exact ih noOuter enoughRest ordinaryRest splitRest (fun _ => shallowBegun)
                shallowLater
            · obtain ⟨rfl, rfl⟩ := List.cons.inj (split.symm.trans (parts_cons isSlash splitRest))
              exact ih noOuter enoughRest ordinaryRest splitRest
                (fun front => absurd front (not_atFront_add _ isSlash)) shallow

theorem IsComponentwise.ofText_eq (componentwise : IsComponentwise pattern) :
    ofText pattern = .ok (pattern.map ordinaryToken) := by
  obtain ⟨first, others, split⟩ := exists_parts pattern
  have shallow := componentwise.shallow
  rw [split] at shallow
  obtain ⟨shallowFirst, shallowOthers⟩ := List.forall_mem_cons.1 shallow
  exact readTokens_componentwise rfl (Nat.lt_succ_self _) componentwise.ordinary split
    (fun _ => shallowFirst) shallowOthers

/-! ## What characters stand for -/

def StandsFor (character : Char) (bytes : List Char) : Prop :=
  if character = '?' then ∃ byte, bytes = [byte] ∧ byte ≠ '/'
  else if character = '*' then '/' ∉ bytes
  else bytes = spreadOf character

variable {before bytes after : List Char}

theorem matches_ordinaryToken_iff :
    (ordinaryToken character).toRegex.Matches before bytes after ↔ StandsFor character bytes := by
  unfold ordinaryToken StandsFor
  split
  · exact Token.matches_anyByte_iff
  · exact Token.matches_star_iff
  · rename_i notAny notStar
    rw [if_neg notAny, if_neg notStar]
    exact Token.matches_literal_iff

theorem standsFor_slash_iff : StandsFor '/' bytes ↔ bytes = ['/'] := Iff.rfl

theorem StandsFor.free (stands : StandsFor character bytes) (apart : character ≠ '/') :
    '/' ∉ bytes := by
  unfold StandsFor at stands
  split at stands
  · obtain ⟨byte, rfl, other⟩ := stands
    exact fun member => other (List.mem_singleton.1 member).symm
  · split at stands
    · exact stands
    · subst stands
      exact fun member => apart (slash_mem_spreadOf.1 member)

theorem standsFor_spreadOf (character : Char) : StandsFor character (spreadOf character) := by
  unfold StandsFor
  split
  · rename_i isAny
    subst isAny
    exact ⟨'?', rfl, by decide⟩
  · split
    · rename_i isStar
      subst isStar
      decide
    · rfl

/-- Whether the characters of a pattern stand for bytes one after another. -/
inductive Describes : List Char → List Char → Prop where
  | nil : Describes [] []
  | cons {character : Char} {pattern piece bytes : List Char}
      (stands : StandsFor character piece) (describes : Describes pattern bytes) :
      Describes (character :: pattern) (piece ++ bytes)

theorem matches_ordinary_iff :
    (rowToRegex (pattern.map ordinaryToken)).Matches before bytes after ↔
      Describes pattern bytes := by
  induction pattern generalizing before bytes with
  | nil =>
      rw [List.map_nil, rowToRegex, Regex.matches_empty_iff]
      constructor
      · rintro rfl
        exact .nil
      · intro describes
        cases describes
        rfl
  | cons character pattern ih =>
      rw [List.map_cons, matches_row_cons_iff]
      simp only [matches_ordinaryToken_iff, ih]
      constructor
      · rintro ⟨piece, bytes, rfl, stands, describes⟩
        exact .cons stands describes
      · intro describes
        cases describes with
        | cons stands describes => exact ⟨_, _, rfl, stands, describes⟩

theorem IsComponentwise.fits_iff_describes (componentwise : IsComponentwise pattern)
    {text : List Char} : Fits pattern text ↔ Describes pattern (spread text) := by
  rw [fits_iff, componentwise.ofText_eq]
  simp only [Except.ok.injEq, exists_eq_left', matches_ordinary_iff]

theorem describes_spread (pattern : List Char) : Describes pattern (spread pattern) := by
  induction pattern with
  | nil => exact .nil
  | cons character pattern ih => exact .cons (standsFor_spreadOf character) ih

/-! ## Components -/

theorem Describes.append {front more : List Char} (first : Describes front bytes)
    (second : Describes pattern more) : Describes (front ++ pattern) (bytes ++ more) := by
  induction first with
  | nil => exact second
  | cons stands _ ih =>
      rw [List.cons_append, List.append_assoc]
      exact .cons stands ih

theorem Describes.parts (describes : Describes pattern bytes) :
    List.Forall₂ Describes (parts pattern) (parts bytes) := by
  induction describes with
  | nil => exact .cons .nil .nil
  | @cons character pattern piece bytes stands describes ih =>
      by_cases isSlash : character = '/'
      · subst isSlash
        obtain rfl := standsFor_slash_iff.1 stands
        rw [List.singleton_append, parts_slash, parts_slash]
        exact .cons .nil ih
      · obtain ⟨first, others, split⟩ := exists_parts pattern
        rw [split] at ih
        obtain ⟨part, later, describesPart, describesLater, splitBytes⟩ :=
          List.forall₂_cons_left_iff.1 ih
        rw [parts_cons isSlash split, parts_append (stands.free isSlash) splitBytes]
        exact .cons (.cons stands describesPart) describesLater

theorem describes_intercalate {patterns texts : List (List Char)}
    (each : List.Forall₂ Describes patterns texts) :
    Describes (['/'].intercalate patterns) (['/'].intercalate texts) := by
  induction each with
  | nil => exact .nil
  | cons describes others ih =>
      cases others with
      | nil =>
          rw [List.intercalate_singleton, List.intercalate_singleton]
          exact describes
      | cons second more =>
          have slash : Describes ['/'] ['/'] := .cons (standsFor_slash_iff.2 rfl) .nil
          rw [List.intercalate_cons_cons, List.intercalate_cons_cons]
          exact (describes.append slash).append ih

/-- A pattern stands for a text just if its components stand for the parts of the text. -/
theorem describes_iff_parts :
    Describes pattern bytes ↔ List.Forall₂ Describes (parts pattern) (parts bytes) := by
  refine ⟨Describes.parts, fun each => ?_⟩
  have whole := describes_intercalate each
  unfold Text.parts at whole
  rwa [List.intercalate_splitOn, List.intercalate_splitOn] at whole

theorem IsComponentwise.of_mem_parts (componentwise : IsComponentwise pattern)
    {part : List Char} (isPart : part ∈ parts pattern) : IsComponentwise part := by
  have within := subset_of_mem_parts isPart
  refine ⟨fun character member => componentwise.ordinary character (within member), ?_⟩
  have whole : parts part = [part] := List.splitOn_eq_singleton (free_of_mem_parts isPart)
  rw [whole]
  exact List.forall_mem_singleton.2 (componentwise.shallow part isPart)

theorem IsComponentwise.fits_iff_parts (componentwise : IsComponentwise pattern)
    {path : List Char} : Fits pattern path ↔ List.Forall₂ Fits (parts pattern) (parts path) := by
  have eachPart : ∀ part ∈ parts pattern, IsComponentwise part :=
    fun _ isPart => componentwise.of_mem_parts isPart
  rw [componentwise.fits_iff_describes, describes_iff_parts, parts_spread,
    List.forall₂_map_right_iff]
  constructor
  · intro each
    refine ((List.forall₂_and_left _ _).2 ⟨eachPart, each⟩).imp ?_
    rintro part text ⟨partwise, describes⟩
    exact partwise.fits_iff_describes.2 describes
  · intro each
    refine ((List.forall₂_and_left _ _).2 ⟨eachPart, each⟩).imp ?_
    rintro part text ⟨partwise, fits⟩
    exact partwise.fits_iff_describes.1 fits

end PolicyWatch.Glob
