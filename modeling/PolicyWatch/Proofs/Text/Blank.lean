import PolicyWatch.Proofs.Text.Digits
import PolicyWatch.Text.Basic

/-!
# Texts between blanks

Main statements: dropping the blanks at both ends drops nothing else, and drops all of them.
-/

namespace PolicyWatch.Text

variable {front core back : List Char}

def AreBlank (text : List Char) : Prop :=
  ∀ character ∈ text, isBlank character = true

theorem isBlank_of_isDigit {character : Char} (isDigit : character.isDigit = true) :
    isBlank character = false := by
  have range := toNat_of_isDigit isDigit
  unfold isBlank
  simp only [Bool.or_eq_false_iff, Bool.and_eq_false_imp, decide_eq_true_eq,
    decide_eq_false_iff_not, Nat.not_le, beq_eq_false_iff_ne, ne_eq]
  omega

theorem AreBlank.append (first : AreBlank front) (second : AreBlank back) :
    AreBlank (front ++ back) :=
  List.forall_mem_append.2 ⟨first, second⟩

theorem AreBlank.reverse (blank : AreBlank front) : AreBlank front.reverse := by
  intro character member
  exact blank character (List.mem_reverse.1 member)

theorem exists_trimStart (text : List Char) :
    ∃ front, text = front ++ trimStart text ∧ AreBlank front :=
  ⟨text.takeWhile isBlank, List.takeWhile_append_dropWhile.symm,
    List.all_eq_true.1 List.all_takeWhile⟩

theorem trimEnd_eq (text : List Char) : trimEnd text = (trimStart text.reverse).reverse :=
  rfl

theorem exists_trimEnd (text : List Char) :
    ∃ back, text = trimEnd text ++ back ∧ AreBlank back := by
  obtain ⟨back, whole, blank⟩ := exists_trimStart text.reverse
  refine ⟨back.reverse, ?_, blank.reverse⟩
  rw [trimEnd_eq, ← List.reverse_append, ← whole, List.reverse_reverse]

theorem exists_trim (text : List Char) :
    ∃ front back, text = front ++ trim text ++ back ∧ AreBlank front ∧ AreBlank back := by
  obtain ⟨front, whole, blankFront⟩ := exists_trimStart text
  obtain ⟨back, rest, blankBack⟩ := exists_trimEnd (trimStart text)
  refine ⟨front, back, ?_, blankFront, blankBack⟩
  rw [trim, List.append_assoc, ← rest, ← whole]

theorem trimStart_of_blank {first : Char} (blank : AreBlank front)
    (starts : core.head? = some first) (inked : isBlank first = false) :
    trimStart (front ++ core) = core := by
  obtain ⟨rest, rfl⟩ := List.head?_eq_some_iff.1 starts
  unfold trimStart
  rw [List.dropWhile_append_of_pos blank,
    List.dropWhile_cons_of_neg (by rw [inked]; exact Bool.false_ne_true)]

theorem trimEnd_of_blank {last : Char} (blank : AreBlank back)
    (ends : core.getLast? = some last) (inked : isBlank last = false) :
    trimEnd (core ++ back) = core := by
  rw [trimEnd_eq, List.reverse_append,
    trimStart_of_blank blank.reverse (List.head?_reverse.trans ends) inked, List.reverse_reverse]

/-- A text that neither starts nor ends with a blank is what is left of it between blanks. -/
theorem trim_of_blank {first last : Char} (blankFront : AreBlank front)
    (blankBack : AreBlank back) (starts : core.head? = some first)
    (inkedFirst : isBlank first = false) (ends : core.getLast? = some last)
    (inkedLast : isBlank last = false) : trim (front ++ core ++ back) = core := by
  have startsToo : (core ++ back).head? = some first := by
    rw [List.head?_append, starts, Option.some_or]
  rw [trim, List.append_assoc, trimStart_of_blank blankFront startsToo inkedFirst,
    trimEnd_of_blank blankBack ends inkedLast]

end PolicyWatch.Text
