import PolicyWatch.Glob.Parser
import PolicyWatch.Proofs.Regex.Search
import PolicyWatch.Proofs.Text.Spread

/-!
# What path patterns cover

A pattern is searched for as an expression over bytes.  Main statements: a text fits a
pattern just if the tokens cover it from the first to the last byte, and each kind of token
covers what it stands for.
-/

namespace PolicyWatch

namespace Regex

theorem Ordered.unbounded {body : Regex} (ordered : body.Ordered) (least : Nat) :
    (repeated body least none).Ordered := by
  refine ⟨ordered, fun bound isBound => ?_⟩
  cases isBound

end Regex

namespace Glob

/-! ## Patterns are searched for as a whole -/

theorem ordered_inRow {parts : List Regex} (ordered : ∀ part ∈ parts, part.Ordered) :
    (inRow parts).Ordered := by
  induction parts with
  | nil => trivial
  | cons first rest ih =>
      obtain ⟨orderedFirst, orderedRest⟩ := List.forall_mem_cons.1 ordered
      exact ⟨orderedFirst, ih orderedRest⟩

theorem ordered_choice : ∀ {choices : List Regex}, (∀ part ∈ choices, part.Ordered) →
    (choice choices).Ordered
  | [], _ => trivial
  | [_], ordered => ordered _ List.mem_cons_self
  | _ :: _ :: _, ordered => by
      obtain ⟨orderedFirst, orderedRest⟩ := List.forall_mem_cons.1 ordered
      exact ⟨orderedFirst, ordered_choice orderedRest⟩

theorem ordered_anything : anything.Ordered := by
  have full : (Regex.chars CharSet.full).Ordered := trivial
  exact full.unbounded 0

theorem ordered_star : (Regex.repeated notSlash 0 none).Ordered := by
  have stopping : notSlash.Ordered := trivial
  exact stopping.unbounded 0

mutual

/-- The only bound in the expression of a token is that on the slash of a recursive star. -/
theorem Token.ordered_toRegex : ∀ token : Token, token.toRegex.Ordered
  | .literal character => by
      rw [Token.toRegex]
      refine ordered_inRow fun part member => ?_
      obtain ⟨_, _, rfl⟩ := List.mem_map.1 member
      trivial
  | .anyByte => by rw [Token.toRegex]; trivial
  | .star => by rw [Token.toRegex]; exact ordered_star
  | .deepFront => by
      rw [Token.toRegex]
      exact ⟨⟨trivial, fun bound _ => Nat.zero_le bound⟩, ordered_anything, trivial⟩
  | .deepBack => by rw [Token.toRegex]; exact ⟨trivial, ordered_anything⟩
  | .deepBetween => by
      rw [Token.toRegex]
      exact ⟨trivial, trivial, ordered_anything, trivial⟩
  | .byteClass _ _ => by rw [Token.toRegex]; trivial
  | .branches choices => by
      rw [Token.toRegex]
      exact ordered_choice (ordered_choicesToRegex choices)

theorem ordered_rowToRegex : ∀ tokens : List Token, (rowToRegex tokens).Ordered
  | [] => by rw [rowToRegex]; trivial
  | token :: rest => by
      rw [rowToRegex]
      exact ⟨token.ordered_toRegex, ordered_rowToRegex rest⟩

theorem ordered_choicesToRegex :
    ∀ choices : List (List Token), ∀ part ∈ choicesToRegex choices, part.Ordered
  | [] => by simp [choicesToRegex]
  | tokens :: rest => by
      rw [choicesToRegex]
      split
      · exact ordered_choicesToRegex rest
      · exact List.forall_mem_cons.2 ⟨ordered_rowToRegex tokens, ordered_choicesToRegex rest⟩

end

theorem foundIn_toRegex {tokens : List Token} {text : List Char} :
    (toRegex tokens).FoundIn text ↔ (rowToRegex tokens).Matches [] text [] := by
  unfold toRegex
  constructor
  · rintro ⟨skipped, middle, rest, rfl, covered⟩
    obtain ⟨start, body, rfl, atStart, covered⟩ := Regex.matches_seq_iff.1 covered
    obtain ⟨rfl, isStart⟩ := Regex.matches_anchor_iff.1 atStart
    obtain ⟨row, stop, rfl, covered, atEnd⟩ := Regex.matches_seq_iff.1 covered
    obtain ⟨rfl, isEnd⟩ := Regex.matches_anchor_iff.1 atEnd
    have noneBefore : skipped = [] := by simpa [Anchor.holds] using isStart
    have noneAfter : rest = [] := by simpa [Anchor.holds] using isEnd
    subst noneBefore noneAfter
    simpa using covered
  · intro covered
    refine ⟨[], text, [], by simp, ?_⟩
    refine Regex.matches_seq_iff.2 ⟨[], text, rfl, .anchor rfl, ?_⟩
    refine Regex.matches_seq_iff.2 ⟨text, [], (List.append_nil text).symm, ?_, .anchor rfl⟩
    exact covered

/-- Whether a text fits a pattern, compared byte by byte. -/
def Fits (pattern text : List Char) : Prop :=
  ∃ tokens, ofText pattern = .ok tokens ∧ (toRegex tokens).isFoundIn (Text.spread text) = true

/-- The tokens of a pattern cover a text that fits it from the first to the last byte. -/
theorem fits_iff {pattern text : List Char} :
    Fits pattern text ↔
      ∃ tokens, ofText pattern = .ok tokens ∧
        (rowToRegex tokens).Matches [] (Text.spread text) [] := by
  refine exists_congr fun tokens => and_congr_right fun _ => ?_
  have ordered : (toRegex tokens).Ordered := ⟨trivial, ordered_rowToRegex tokens, trivial⟩
  rw [Regex.isFoundIn_iff ordered, foundIn_toRegex]

/-! ## What tokens cover -/

variable {before text after : List Char}

theorem contains_byte_iff {value : Nat} (small : value < 0x100) {character : Char} :
    CharSet.contains ⟨[(value, value)]⟩ character = true ↔ Char.ofNat value = character := by
  rw [Text.ofNat_eq_iff_of_byte small]
  change CharSet.holds character.toNat [(value, value)] = true ↔ _
  simp only [CharSet.holds]
  split <;> simp <;> omega

theorem contains_slash_iff {character : Char} :
    (CharSet.singleton '/').contains character = true ↔ character = '/' :=
  (contains_byte_iff (by decide)).trans eq_comm

theorem contains_notSlash_iff {character : Char} :
    (CharSet.singleton '/').complement.contains character = true ↔ character ≠ '/' := by
  have isSlash : Char.ofNat 47 = character ↔ character.toNat = 47 :=
    Text.ofNat_eq_iff_of_byte (by decide)
  have small := Text.toNat_lt character
  rw [ne_comm, ne_eq, show '/' = Char.ofNat 47 from rfl, isSlash]
  change CharSet.holds character.toNat [(0, 46), (48, 0x10FFFF)] = true ↔ _
  simp only [CharSet.holds]
  split
  · omega
  · split <;> simp <;> omega

theorem matches_slash_iff : slash.Matches before text after ↔ text = ['/'] := by
  unfold slash
  rw [Regex.matches_chars_iff]
  simp only [contains_slash_iff, exists_eq_right]

theorem matches_notSlash_iff :
    notSlash.Matches before text after ↔ ∃ character, text = [character] ∧ character ≠ '/' := by
  unfold notSlash
  rw [Regex.matches_chars_iff]
  simp only [contains_notSlash_iff]

theorem matches_byte_iff {value : Nat} (small : value < 0x100) :
    (byte value).Matches before text after ↔ text = [Char.ofNat value] := by
  unfold byte
  rw [Regex.matches_chars_iff]
  simp only [contains_byte_iff small, exists_eq_right']

theorem matches_bytes_iff {bytes : List Nat} (small : ∀ value ∈ bytes, value < 0x100) :
    (inRow (bytes.map byte)).Matches before text after ↔ text = bytes.map Char.ofNat := by
  induction bytes generalizing before text after with
  | nil => exact Regex.matches_empty_iff
  | cons first rest ih =>
      obtain ⟨smallFirst, smallRest⟩ := List.forall_mem_cons.1 small
      have covers : (inRow ((first :: rest).map byte)).Matches before text after ↔
          ∃ left right, text = left ++ right ∧ (byte first).Matches before left (right ++ after) ∧
            (inRow (rest.map byte)).Matches (left.reverse ++ before) right after :=
        Regex.matches_seq_iff
      rw [covers]
      simp only [matches_byte_iff smallFirst, ih smallRest]
      simp

theorem Token.matches_literal_iff {character : Char} :
    (Token.literal character).toRegex.Matches before text after ↔
      text = Text.spreadOf character := by
  rw [Token.toRegex]
  exact matches_bytes_iff Text.lt_of_mem_bytesOf

/-- A question mark covers one byte, but no slash. -/
theorem Token.matches_anyByte_iff :
    Token.anyByte.toRegex.Matches before text after ↔
      ∃ character, text = [character] ∧ character ≠ '/' := by
  rw [Token.toRegex]
  exact matches_notSlash_iff

theorem Token.matches_star_iff :
    Token.star.toRegex.Matches before text after ↔ '/' ∉ text := by
  rw [Token.toRegex]
  constructor
  · intro covered
    generalize isStar : Regex.repeated notSlash 0 none = starred at covered
    induction covered with
    | done => exact List.not_mem_nil
    | again _ once _ _ ih =>
        cases isStar
        obtain ⟨character, rfl, apart⟩ := matches_notSlash_iff.1 once
        rw [List.singleton_append, List.mem_cons, not_or]
        exact ⟨Ne.symm apart, ih rfl⟩
    | _ => cases isStar
  · intro free
    induction text generalizing before with
    | nil => exact .done notSlash none before after
    | cons character rest ih =>
        obtain ⟨apart, freeRest⟩ := not_or.1 (fun isIn => free (List.mem_cons.2 isIn))
        have once : notSlash.Matches before [character] (rest ++ after) :=
          matches_notSlash_iff.2 ⟨character, rfl, Ne.symm apart⟩
        exact Regex.matches_repeated_iff.2
          (.inr ⟨by simp, [character], rest, rfl, once, ih freeRest⟩)

theorem matches_row_cons_iff {token : Token} {rest : List Token} :
    (rowToRegex (token :: rest)).Matches before text after ↔
      ∃ left right, text = left ++ right ∧
        token.toRegex.Matches before left (right ++ after) ∧
          (rowToRegex rest).Matches (left.reverse ++ before) right after := by
  rw [rowToRegex]
  exact Regex.matches_seq_iff

end Glob

end PolicyWatch
