import PolicyWatch.Text.Basic

/-!
# Digits

What the digits of a number say, and where a run of digits ends.  Main statement: the digits
of a number, also after zeros, say the number.
-/

namespace PolicyWatch.Text

variable {digits rest : List Char}

theorem toNat_of_isDigit {character : Char} (isDigit : character.isDigit = true) :
    48 ≤ character.toNat ∧ character.toNat ≤ 57 := by
  simp only [Char.isDigit, Bool.and_eq_true, decide_eq_true_eq, ge_iff_le,
    UInt32.le_iff_toNat_le] at isDigit
  exact isDigit

theorem digitValue?_of_isDigit {character : Char} (isDigit : character.isDigit = true) :
    digitValue? 10 character = some (character.toNat - 48) := by
  have range := toNat_of_isDigit isDigit
  have small : character.toNat - 48 < 10 := by omega
  unfold digitValue?
  dsimp only
  rw [if_pos range, Option.filter_some, if_pos (decide_eq_true small)]

theorem digitsValue?_of_isDigit (areDigits : ∀ character ∈ digits, character.isDigit = true) :
    digitsValue? 10 digits = some (Nat.ofDigitChars 10 digits 0) := by
  unfold digitsValue?
  generalize 0 = value
  induction digits generalizing value with
  | nil => rfl
  | cons first digits ih =>
      rw [List.foldl_cons, digitValue?_of_isDigit (areDigits first List.mem_cons_self),
        Nat.ofDigitChars_cons, Nat.mul_comm 10]
      exact ih (fun character member => areDigits character (List.mem_cons_of_mem _ member)) _

theorem isDigit_of_mem_toDigits {value : Nat} {character : Char}
    (member : character ∈ Nat.toDigits 10 value) : character.isDigit = true :=
  Nat.isDigit_of_mem_toDigits (by decide) (by decide) member

theorem digitsValue?_replicate_toDigits (count value : Nat) :
    digitsValue? 10 (List.replicate count '0' ++ Nat.toDigits 10 value) = some value := by
  rw [digitsValue?_of_isDigit, Nat.ofDigitChars_append, Nat.ofDigitChars_replicate_zero,
    Nat.mul_zero, Nat.ofDigitChars_ten_toDigits]
  intro character member
  rcases List.mem_append.1 member with zero | digit
  · rw [List.eq_of_mem_replicate zero]
    rfl
  · exact isDigit_of_mem_toDigits digit

theorem digitsValue?_toDigits (value : Nat) :
    digitsValue? 10 (Nat.toDigits 10 value) = some value :=
  digitsValue?_replicate_toDigits 0 value

theorem eq_zero_of_toDigits {value : Nat} (written : Nat.toDigits 10 value = '0' :: rest) :
    value = 0 ∧ rest = [] := by
  induction value using Nat.strongRecOn generalizing rest with
  | ind value ih =>
      rcases Nat.lt_or_ge value 10 with small | large
      · rw [Nat.toDigits_of_lt_base small] at written
        obtain ⟨zero, rfl⟩ := List.cons.inj written
        exact ⟨Nat.digitChar_eq_zero.1 zero, rfl⟩
      · rw [Nat.toDigits_of_base_le (by decide) large] at written
        cases front : Nat.toDigits 10 (value / 10) with
        | nil => exact absurd front Nat.toDigits_ne_nil
        | cons first others =>
            rw [front] at written
            obtain ⟨rfl, _⟩ := List.cons.inj written
            have quotient := (ih (value / 10) (by omega) front).1
            omega

/-- Whether a text goes on with something other than a digit, if it goes on. -/
def EndsDigits (rest : List Char) : Prop :=
  ∀ character ∈ rest.head?, character.isDigit = false

theorem takeWhile_isDigit_append (areDigits : ∀ character ∈ digits, character.isDigit = true)
    (ends : EndsDigits rest) : (digits ++ rest).takeWhile Char.isDigit = digits := by
  rw [List.takeWhile_append_of_pos areDigits]
  cases rest with
  | nil => exact List.append_nil _
  | cons first rest =>
      rw [List.takeWhile_cons_of_neg (by rw [ends first rfl]; exact Bool.false_ne_true),
        List.append_nil]

/-- What is left after digits is what stands behind the whole run. -/
theorem dropWhile_isDigit_append (areDigits : ∀ character ∈ digits, character.isDigit = true)
    (ends : EndsDigits rest) : (digits ++ rest).dropWhile Char.isDigit = rest := by
  rw [List.dropWhile_append_of_pos areDigits]
  cases rest with
  | nil => rfl
  | cons first rest =>
      rw [List.dropWhile_cons_of_neg (by rw [ends first rfl]; exact Bool.false_ne_true)]

end PolicyWatch.Text
