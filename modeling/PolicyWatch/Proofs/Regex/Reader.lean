import Mathlib.Data.List.Basic
import PolicyWatch.Regex.Flags

/-!
# Readers

A reader goes from the front of a text and leaves a rest.  The readers of patterns
are put together from a few forms, which decide by what stands next.
-/

namespace PolicyWatch.Regex

variable {α β : Type}

/-- Text that starts with a closing parenthesis. -/
def IsClosing (tail : List Char) : Prop :=
  ∃ line, tail = ')' :: line

namespace IsClosing

variable {tail : List Char}

theorem ne_mark (closes : IsClosing tail) {mark : Char} (notClosing : mark ≠ ')')
    {text : List Char} (absent : ∀ rest, text ≠ mark :: rest) (rest : List Char) :
    text ++ tail ≠ mark :: rest := by
  obtain ⟨line, rfl⟩ := closes
  intro same
  cases text with
  | nil => exact notClosing (List.cons.inj same).1.symm
  | cons character text =>
      obtain ⟨rfl, _⟩ := List.cons.inj same
      exact absent text rfl

theorem ne_pair (closes : IsClosing tail) {first second : Char} (firstOpen : first ≠ ')')
    (secondOpen : second ≠ ')') {text : List Char}
    (absent : ∀ rest, text ≠ first :: second :: rest) (rest : List Char) :
    text ++ tail ≠ first :: second :: rest := by
  obtain ⟨line, rfl⟩ := closes
  intro same
  match text with
  | [] => exact firstOpen (List.cons.inj same).1.symm
  | [_] => exact secondOpen (List.cons.inj (List.cons.inj same).2).1.symm
  | _ :: _ :: others =>
      obtain ⟨rfl, remaining⟩ := List.cons.inj same
      obtain ⟨rfl, _⟩ := List.cons.inj remaining
      exact absent others rfl

/-- A condition on the next character that takes what closes for the end. -/
theorem head?_append (closes : IsClosing tail) {condition : Option Char → Bool}
    (alike : condition (some ')') = condition none) (text : List Char) :
    condition (text ++ tail).head? = condition text.head? := by
  obtain ⟨line, rfl⟩ := closes
  cases text with
  | nil => exact alike
  | cons character text => rfl

end IsClosing

def onCharacter (each : Char → List Char → Option (α × List Char)) :
    List Char → Option (α × List Char)
  | [] => none
  | character :: rest => each character rest

/-- Go on behind a mark if it stands here, and else in another way. -/
def onMark (mark : Char) (behind other : List Char → Option (α × List Char)) (text : List Char) :
    Option (α × List Char) :=
  if text.head? = some mark then behind text.tail else other text

theorem onMark_cons {mark : Char} {behind other : List Char → Option (α × List Char)}
    {text rest : List Char} (stands : text = mark :: rest) :
    onMark mark behind other text = behind rest := by
  subst stands
  exact if_pos rfl

theorem onMark_of_ne {mark : Char} {behind other : List Char → Option (α × List Char)}
    {text : List Char} (absent : ∀ rest, text ≠ mark :: rest) :
    onMark mark behind other text = other text := by
  refine if_neg fun stands => ?_
  obtain ⟨rest, same⟩ := List.head?_eq_some_iff.1 stands
  exact absent rest same

theorem onMark_append {mark : Char} (notClosing : mark ≠ ')') {tail : List Char}
    (closes : IsClosing tail) {behind other : List Char → Option (α × List Char)}
    (sameBehind : ∀ text,
      behind (text ++ tail) = (behind text).map fun read => (read.1, read.2 ++ tail))
    (sameOther : ∀ text,
      other (text ++ tail) = (other text).map fun read => (read.1, read.2 ++ tail))
    (text : List Char) :
    onMark mark behind other (text ++ tail) =
      (onMark mark behind other text).map fun read => (read.1, read.2 ++ tail) := by
  by_cases stands : ∃ rest, text = mark :: rest
  · obtain ⟨rest, rfl⟩ := stands
    rw [List.cons_append, onMark_cons rfl, onMark_cons rfl, sameBehind]
  · have absent : ∀ rest, text ≠ mark :: rest := fun rest same => stands ⟨rest, same⟩
    rw [onMark_of_ne (closes.ne_mark notClosing absent), onMark_of_ne absent, sameOther]

theorem onMark_suffix {mark : Char} {behind other : List Char → Option (α × List Char)}
    {value : α}
    (behindSuffix : ∀ text rest, behind text = some (value, rest) → rest <:+ text)
    (otherSuffix : ∀ text rest, other text = some (value, rest) → rest <:+ text)
    {text rest : List Char} (done : onMark mark behind other text = some (value, rest)) :
    rest <:+ text := by
  unfold onMark at done
  split at done
  · exact (behindSuffix _ rest done).trans (List.tail_suffix text)
  · exact otherSuffix _ rest done

theorem length_onMark_lt {mark : Char} {behind other : List Char → Option (α × List Char)}
    (suffix : ∀ text value rest, behind text = some (value, rest) → rest <:+ text) {value : α}
    (fewer : ∀ text rest, other text = some (value, rest) → rest.length < text.length)
    {text rest : List Char} (done : onMark mark behind other text = some (value, rest)) :
    rest.length < text.length := by
  by_cases stands : ∃ inside, text = mark :: inside
  · obtain ⟨inside, rfl⟩ := stands
    rw [onMark_cons rfl] at done
    exact Nat.lt_succ_of_le (suffix inside value rest done).length_le
  · rw [onMark_of_ne fun inside same => stands ⟨inside, same⟩] at done
    exact fewer text rest done

/-- Go on behind what a reader reads if it reads anything, and else in another way. -/
def orElse (first : List Char → Option (β × List Char))
    (next : β → List Char → Option (α × List Char)) (other : List Char → Option (α × List Char))
    (text : List Char) : Option (α × List Char) :=
  match first text with
  | some read => next read.1 read.2
  | none => other text

/-- Go on behind two marks in a row, and else in another way. -/
def onPair (first second : Char) (behind other : List Char → Option (α × List Char))
    (text : List Char) : Option (α × List Char) :=
  if text.take 2 = [first, second] then behind (text.drop 2) else other text

theorem onPair_cons {first second : Char} {behind other : List Char → Option (α × List Char)}
    (rest : List Char) : onPair first second behind other (first :: second :: rest) = behind rest :=
  if_pos rfl

theorem onPair_of_ne {first second : Char} {behind other : List Char → Option (α × List Char)}
    {text : List Char} (absent : ∀ rest, text ≠ first :: second :: rest) :
    onPair first second behind other text = other text := by
  refine if_neg fun stands => absent (text.drop 2) ?_
  rw [← List.take_append_drop 2 text, stands]
  rfl

def IsLocal (reader : List Char → Option (α × List Char)) : Prop :=
  ∀ text value rest, reader text = some (value, rest) →
    ∃ used, text = used ++ rest ∧ ∀ other, reader (used ++ other) = some (value, other)

/-- Read characters as long as a state takes them, each with the blanks behind it. -/
def skim {σ : Type} (flags : Flags) (take? : σ → Char → Option σ) :
    Nat → σ → List Char → Option (σ × List Char)
  | 0, _, _ => none
  | fuel + 1, state, text =>
      if text.head?.all fun character => (take? state character).isNone then some (state, text)
      else
        onCharacter (fun character rest =>
          (take? state character).bind
            fun next => skim flags take? fuel next (flags.skip rest)) text

namespace Flags

theorem skipComments_append {comment : Bool} {text rest : List Char} {character : Char}
    (skipped : skipComments comment text = character :: rest) (extra : List Char) :
    skipComments comment (text ++ extra) = character :: (rest ++ extra) := by
  induction text generalizing comment with
  | nil => cases comment <;> cases skipped
  | cons first text ih =>
      cases comment with
      | true => exact ih skipped
      | false =>
          simp only [List.cons_append, skipComments] at skipped ⊢
          by_cases isBlank : Text.isBlank first
          · rw [if_pos isBlank] at skipped ⊢
            exact ih skipped
          · rw [if_neg isBlank] at skipped ⊢
            by_cases isMark : first = '#'
            · rw [if_pos isMark] at skipped ⊢
              exact ih skipped
            · rw [if_neg isMark] at skipped ⊢
              cases skipped
              rfl

/-- Where skipping stops at a character, what follows does not matter. -/
theorem skip_append {flags : Flags} {text rest : List Char} {character : Char}
    (skipped : flags.skip text = character :: rest) (extra : List Char) :
    flags.skip (text ++ extra) = character :: (rest ++ extra) := by
  unfold skip at skipped ⊢
  split at skipped
  · rename_i isVerbose
    rw [if_pos isVerbose]
    exact skipComments_append skipped extra
  · rename_i notVerbose
    rw [if_neg notVerbose, skipped]
    rfl

theorem skip_cons (flags : Flags) {character : Char} {rest : List Char}
    (counts : ¬ (Text.isBlank character ∨ character = '#')) :
    flags.skip (character :: rest) = character :: rest := by
  obtain ⟨notBlank, notMark⟩ := not_or.1 counts
  unfold skip
  split
  · exact (if_neg notBlank).trans (if_neg notMark)
  · rfl

theorem length_skipComments_le (comment : Bool) (text : List Char) :
    (skipComments comment text).length ≤ text.length := by
  induction text generalizing comment with
  | nil => cases comment <;> exact Nat.le_refl 0
  | cons character rest ih =>
      cases comment with
      | true => exact Nat.le_succ_of_le (ih _)
      | false =>
          simp only [skipComments]
          split
          · exact Nat.le_succ_of_le (ih false)
          · split
            · exact Nat.le_succ_of_le (ih true)
            · exact Nat.le_refl _

theorem length_skip_le (flags : Flags) (text : List Char) :
    (flags.skip text).length ≤ text.length := by
  unfold skip
  split
  · exact length_skipComments_le false text
  · exact Nat.le_refl _

end Flags

end PolicyWatch.Regex
