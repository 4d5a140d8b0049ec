import Mathlib.Data.List.TakeWhile
import PolicyWatch.Text.Basic

/-!
# Lines of texts put together

Where a text ends with the end of a line, what comes behind it has lines of its own.  Main
statement: the lines of such a text and another are the lines of both.
-/

namespace PolicyWatch.Text

variable {text front : List Char}

/-! ## Ends of lines -/

def EndsLine (text : List Char) : Prop :=
  text = [] ∨ ∃ front, text = front ++ ['\n']

/-- What comes behind a line feed does not depend on what came before it. -/
theorem linesFrom_append_newline (begun front back : List Char) :
    linesFrom begun (front ++ '\n' :: back) =
      linesFrom begun (front ++ ['\n']) ++ linesFrom [] back := by
  induction front generalizing begun with
  | nil => simp [linesFrom]
  | cons first others ih =>
      simp only [List.cons_append, linesFrom]
      split
      · rw [ih, List.cons_append]
      · exact ih _

/-- The lines of a text that ends with the end of a line and of another text are those of both. -/
theorem lines_append (ended : EndsLine front) (back : List Char) :
    lines (front ++ back) = lines front ++ lines back := by
  rcases ended with rfl | ⟨before, rfl⟩
  · rfl
  · rw [List.append_assoc]
    exact linesFrom_append_newline [] before back

/-! ## Blank lines -/

theorem trim_eq_nil_iff : trim text = [] ↔ ∀ character ∈ text, isBlank character = true := by
  have startBlank : trimStart text = [] ↔ ∀ character ∈ text, isBlank character = true :=
    List.dropWhile_eq_nil_iff
  unfold trim trimEnd
  rw [List.reverse_eq_nil_iff, List.dropWhile_eq_nil_iff]
  simp only [List.mem_reverse]
  constructor
  · intro allBlank
    refine startBlank.1 ?_
    -- What is left of a text without its first blanks would begin with something else.
    by_contra left
    have first : isBlank ((trimStart text).head left) = false :=
      List.head_dropWhile_not isBlank left
    rw [allBlank _ (List.head_mem left)] at first
    cases first
  · intro allBlank character member
    rw [startBlank.2 allBlank] at member
    cases member

end PolicyWatch.Text
