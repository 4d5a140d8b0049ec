import Mathlib.Tactic.SplitIfs
import PolicyWatch.Text.Basic

/-!
# The order of bytes

Texts stand in the order of their bytes.  Main statement: a text comes before another just if its
bytes come before those of the other.
-/

namespace PolicyWatch.Text

def bytesOfText (text : List Char) : List Nat :=
  text.flatMap bytesOf

/-- Whether the bytes of a text come before those of another: at the first place where they differ
there is a smaller byte, or none. -/
def BytesBefore (first other : String) : Prop :=
  List.Lex (· < ·) (bytesOfText first.toList) (bytesOfText other.toList)

/-- A greater code has greater bytes, whatever follows. -/
theorem lex_bytesOfCode {code other : Nat} (less : code < other) (rest later : List Nat) :
    List.Lex (· < ·) (bytesOfCode code ++ rest) (bytesOfCode other ++ later) := by
  unfold bytesOfCode
  -- Either both have as many bytes, or the first byte tells which has more.
  split_ifs <;> simp only [List.cons_append, List.nil_append, List.cons_lex_cons_iff] <;> omega

theorem bytesOf_ne_nil (character : Char) : bytesOf character ≠ [] := by
  unfold bytesOf bytesOfCode
  split_ifs <;> exact List.cons_ne_nil _ _

theorem lex_bytesOfText {first other : List Char} (before : List.Lex (· < ·) first other) :
    List.Lex (· < ·) (bytesOfText first) (bytesOfText other) := by
  induction before with
  | nil =>
      rename_i character rest
      rcases List.exists_cons_of_ne_nil (bytesOf_ne_nil character) with ⟨byte, bytes, written⟩
      unfold bytesOfText
      rw [List.flatMap_cons, written]
      exact .nil
  | rel less => exact lex_bytesOfCode less _ _
  | cons _ ih => exact List.append_left_lt ih

theorem bytesBefore_iff_lt {first other : String} : BytesBefore first other ↔ first < other := by
  constructor
  · intro before
    by_cases ordered : first < other
    · exact ordered
    · exfalso
      by_cases after : other < first
      · exact List.lex_asymm Nat.lt_asymm before (lex_bytesOfText after)
      · rw [String.le_antisymm after ordered] at before
        exact List.lex_irrefl Nat.lt_irrefl _ before
  · exact lex_bytesOfText

theorem bytesBefore_or_eq_of_le {first other : String} (ordered : first ≤ other) :
    BytesBefore first other ∨ first = other := by
  by_cases before : first < other
  · exact .inl (bytesBefore_iff_lt.2 before)
  · exact .inr (String.le_antisymm ordered before)

theorem pairwise_mergeSort_le {α : Type} (key : α → String) (values : List α) :
    (values.mergeSort fun left right => decide (key left ≤ key right)).Pairwise
      fun left right => key left ≤ key right := by
  have sorted : (values.mergeSort fun left right => decide (key left ≤ key right)).Pairwise
      fun left right => decide (key left ≤ key right) = true := by
    apply List.pairwise_mergeSort
    · intro first second third
      rw [decide_eq_true_eq, decide_eq_true_eq, decide_eq_true_eq]
      exact String.le_trans
    · intro first second
      rw [Bool.or_eq_true, decide_eq_true_eq, decide_eq_true_eq]
      exact String.le_total (key first) (key second)
  exact sorted.imp of_decide_eq_true

end PolicyWatch.Text
