import PolicyWatch.Proofs.Text.Digits
import PolicyWatch.Text.Numeral

/-!
# What numerals say

A numeral is said by a grammar, and its value by its digits.  Main statement: a numeral is read
within bounds just if it is one by the grammar and its value lies within the bounds.
-/

namespace PolicyWatch.Text

variable {digits text : List Char} {value : Nat} {result : Int}

/-- `Spells text value`: an optional sign and at least one digit, which say the value. -/
inductive Spells : List Char → Int → Prop where
  | unsigned {digits : List Char} (present : digits ≠ [])
      (areDigits : ∀ character ∈ digits, character.isDigit = true) :
      Spells digits (Nat.ofDigitChars 10 digits 0)
  | positive {digits : List Char} (present : digits ≠ [])
      (areDigits : ∀ character ∈ digits, character.isDigit = true) :
      Spells ('+' :: digits) (Nat.ofDigitChars 10 digits 0)
  | negative {digits : List Char} (present : digits ≠ [])
      (areDigits : ∀ character ∈ digits, character.isDigit = true) :
      Spells ('-' :: digits) (-Nat.ofDigitChars 10 digits 0)

theorem spells_positive_iff :
    Spells ('+' :: digits) result ↔
      digits ≠ [] ∧ (∀ character ∈ digits, character.isDigit = true) ∧
        result = Nat.ofDigitChars 10 digits 0 := by
  constructor
  · intro spelled
    cases spelled with
    | unsigned _ areDigits => exact absurd (areDigits '+' List.mem_cons_self) (by decide)
    | positive present areDigits => exact ⟨present, areDigits, rfl⟩
  · rintro ⟨present, areDigits, rfl⟩
    exact .positive present areDigits

theorem spells_negative_iff :
    Spells ('-' :: digits) result ↔
      digits ≠ [] ∧ (∀ character ∈ digits, character.isDigit = true) ∧
        result = -Nat.ofDigitChars 10 digits 0 := by
  constructor
  · intro spelled
    cases spelled with
    | unsigned _ areDigits => exact absurd (areDigits '-' List.mem_cons_self) (by decide)
    | negative present areDigits => exact ⟨present, areDigits, rfl⟩
  · rintro ⟨present, areDigits, rfl⟩
    exact .negative present areDigits

theorem spells_unsigned_iff {first : Char} (notPlus : first ≠ '+') (notMinus : first ≠ '-') :
    Spells (first :: digits) result ↔
      (∀ character ∈ first :: digits, character.isDigit = true) ∧
        result = Nat.ofDigitChars 10 (first :: digits) 0 := by
  constructor
  · intro spelled
    cases spelled with
    | unsigned _ areDigits => exact ⟨areDigits, rfl⟩
    | positive => exact absurd rfl notPlus
    | negative => exact absurd rfl notMinus
  · rintro ⟨areDigits, rfl⟩
    exact .unsigned (List.cons_ne_nil first digits) areDigits

theorem Spells.unique {other : Int} (spelled : Spells text result) (again : Spells text other) :
    result = other := by
  obtain _ | ⟨first, digits⟩ := text
  · cases spelled with
    | unsigned present => exact absurd rfl present
  · by_cases plus : first = '+'
    · subst plus
      exact (spells_positive_iff.1 spelled).2.2.trans (spells_positive_iff.1 again).2.2.symm
    · by_cases minus : first = '-'
      · subst minus
        exact (spells_negative_iff.1 spelled).2.2.trans (spells_negative_iff.1 again).2.2.symm
      · exact ((spells_unsigned_iff plus minus).1 spelled).2.trans
          ((spells_unsigned_iff plus minus).1 again).2.symm

/-- A numeral ends in a digit, whatever stands in front of it. -/
theorem Spells.exists_getLast? (spelled : Spells text result) (front : List Char) :
    ∃ last, (front ++ text).getLast? = some last ∧ last.isDigit = true := by
  have ends : ∀ {digits : List Char} (front : List Char), digits ≠ [] →
      (∀ character ∈ digits, character.isDigit = true) →
        ∃ last, (front ++ digits).getLast? = some last ∧ last.isDigit = true := by
    intro digits front present areDigits
    refine ⟨digits.getLast present, ?_, areDigits _ (List.getLast_mem present)⟩
    rw [List.getLast?_append, List.getLast?_eq_some_getLast present, Option.some_or]
  cases spelled with
  | unsigned present areDigits => exact ends front present areDigits
  | @positive digits present areDigits =>
      have whole := ends (front ++ ['+']) present areDigits
      rwa [List.append_assoc, List.singleton_append] at whole
  | @negative digits present areDigits =>
      have whole := ends (front ++ ['-']) present areDigits
      rwa [List.append_assoc, List.singleton_append] at whole

theorem Spells.exists_cons (spelled : Spells text result) :
    ∃ first rest, text = first :: rest ∧ (first = '+' ∨ first = '-' ∨ first.isDigit = true) := by
  cases spelled with
  | unsigned present areDigits =>
      obtain ⟨first, rest, rfl⟩ := List.exists_cons_of_ne_nil present
      exact ⟨first, rest, rfl, .inr (.inr (areDigits first List.mem_cons_self))⟩
  | positive => exact ⟨_, _, rfl, .inl rfl⟩
  | negative => exact ⟨_, _, rfl, .inr (.inl rfl)⟩

theorem isDigit_of_digitValue? {character : Char} {digit : Nat}
    (isValue : digitValue? 10 character = some digit) : character.isDigit = true := by
  unfold digitValue? at isValue
  obtain ⟨isValue, small⟩ := Option.filter_eq_some_iff.1 isValue
  have below : digit < 10 := of_decide_eq_true small
  split at isValue
  · rename_i range
    simpa [Char.isDigit, UInt32.le_iff_toNat_le] using range
  · split at isValue
    · cases isValue
      omega
    · split at isValue
      · cases isValue
        omega
      · cases isValue

/-- More digits never make a number smaller. -/
theorem le_ofDigitChars (digits : List Char) (value : Nat) :
    value ≤ Nat.ofDigitChars 10 digits value := by
  induction digits generalizing value with
  | nil => exact Nat.le_refl value
  | cons first rest ih =>
      rw [Nat.ofDigitChars_cons]
      have later := ih (10 * value + (first.toNat - '0'.toNat))
      omega

/-- A magnitude that counts upward is that of its digits, where it stays within the bound.  A
magnitude above the bound never comes back below it. -/
theorem ascend_eq_ok_iff {greatest : Int} (fits : (value : Int) ≤ greatest) :
    ascend greatest value digits = .ok result ↔
      (∀ character ∈ digits, character.isDigit = true) ∧
        result = Nat.ofDigitChars 10 digits value ∧ result ≤ greatest := by
  induction digits generalizing value with
  | nil =>
      rw [ascend, Except.ok.injEq]
      constructor
      · rintro rfl
        exact ⟨List.forall_mem_nil _, rfl, fits⟩
      · rintro ⟨_, rfl, _⟩
        rfl
  | cons first rest ih =>
      unfold ascend
      rw [List.forall_mem_cons, Nat.ofDigitChars_cons]
      cases isValue : digitValue? 10 first with
      | none =>
          refine iff_of_false (by simp) ?_
          rintro ⟨⟨isDigit, _⟩, _⟩
          rw [digitValue?_of_isDigit isDigit] at isValue
          cases isValue
      | some digit =>
          have isDigit := isDigit_of_digitValue? isValue
          obtain rfl : first.toNat - 48 = digit :=
            Option.some.inj ((digitValue?_of_isDigit isDigit).symm.trans isValue)
          have next : (value : Int) * 10 + (first.toNat - 48 : Nat) =
              (10 * value + (first.toNat - '0'.toNat) : Nat) := by
            have zero : '0'.toNat = 48 := rfl
            omega
          dsimp only
          rw [next]
          split
          · rename_i exceeded
            refine iff_of_false (by simp) ?_
            rintro ⟨_, rfl, within⟩
            have grown := le_ofDigitChars rest (10 * value + (first.toNat - '0'.toNat))
            omega
          · rename_i within
            rw [ih (Int.not_lt.1 within), and_iff_right isDigit]

/-- A magnitude that counts downward is the opposite of one that counts upward. -/
theorem descend_eq_ok_iff (value : Nat) {least : Int} :
    descend least (-value) digits = .ok result ↔ ascend (-least) value digits = .ok (-result) := by
  induction digits generalizing value with
  | nil =>
      rw [descend, ascend, Except.ok.injEq, Except.ok.injEq]
      omega
  | cons first rest ih =>
      unfold descend ascend
      cases digitValue? 10 first with
      | none => exact iff_of_false (by simp) (by simp)
      | some digit =>
          have downward : -(value : Int) * 10 - digit = -(value * 10 + digit : Nat) := by omega
          have upward : (value : Int) * 10 + digit = (value * 10 + digit : Nat) := by omega
          dsimp only
          rw [downward, upward]
          by_cases exceeded : -least < (value * 10 + digit : Nat)
          · rw [if_pos exceeded, if_pos (by omega)]
            exact iff_of_false (by simp) (by simp)
          · rw [if_neg exceeded, if_neg (by omega)]
            exact ih (value * 10 + digit)

section Reading

variable {bounds : Bounds}

theorem readNumeral_positive (present : digits ≠ []) :
    readNumeral bounds ('+' :: digits) = ascend bounds.greatest 0 digits := by
  obtain ⟨first, rest, rfl⟩ := List.exists_cons_of_ne_nil present
  rfl

theorem readNumeral_negative (present : digits ≠ []) (signed : bounds.least < 0) :
    readNumeral bounds ('-' :: digits) = descend bounds.least 0 digits := by
  obtain ⟨first, rest, rfl⟩ := List.exists_cons_of_ne_nil present
  exact if_pos signed

theorem readNumeral_unsigned {first : Char} (notPlus : first ≠ '+') (notMinus : first ≠ '-') :
    readNumeral bounds (first :: digits) = ascend bounds.greatest 0 (first :: digits) := by
  unfold readNumeral
  split <;> simp_all

theorem admits_iff {number : Int} :
    bounds.admits number = true ↔ bounds.least ≤ number ∧ number ≤ bounds.greatest := by
  simp [Bounds.admits]

/-- A numeral is read within bounds on both sides of zero just if it spells a number that lies
within them. -/
theorem readNumeral_eq_ok_iff (signed : bounds.least < 0) (natural : 0 ≤ bounds.greatest) :
    readNumeral bounds text = .ok result ↔ Spells text result ∧ bounds.admits result = true := by
  have upward : ∀ digits : List Char, ascend bounds.greatest 0 digits = .ok result ↔
      (∀ character ∈ digits, character.isDigit = true) ∧
        result = Nat.ofDigitChars 10 digits 0 ∧ result ≤ bounds.greatest :=
    fun digits => ascend_eq_ok_iff (show ((0 : Nat) : Int) ≤ bounds.greatest from natural)
  have downward : ∀ digits : List Char, descend bounds.least 0 digits = .ok result ↔
      (∀ character ∈ digits, character.isDigit = true) ∧
        -result = Nat.ofDigitChars 10 digits 0 ∧ -result ≤ -bounds.least := fun digits =>
    (descend_eq_ok_iff 0).trans (ascend_eq_ok_iff (show ((0 : Nat) : Int) ≤ -bounds.least by omega))
  rw [admits_iff]
  cases text with
  | nil =>
      refine iff_of_false (by simp [readNumeral]) ?_
      rintro ⟨spelled, _⟩
      obtain ⟨_, _, impossible, _⟩ := spelled.exists_cons
      cases impossible
  | cons first digits =>
      by_cases plus : first = '+'
      · subst plus
        rw [spells_positive_iff]
        by_cases present : digits = []
        · subst present
          exact iff_of_false (by simp [readNumeral]) (by simp)
        · rw [readNumeral_positive present, upward]
          constructor
          · rintro ⟨areDigits, rfl, within⟩
            exact ⟨⟨present, areDigits, rfl⟩, by omega, within⟩
          · rintro ⟨⟨_, areDigits, isValue⟩, _, within⟩
            exact ⟨areDigits, isValue, within⟩
      · by_cases minus : first = '-'
        · subst minus
          rw [spells_negative_iff]
          by_cases present : digits = []
          · subst present
            exact iff_of_false (by simp [readNumeral]) (by simp)
          · rw [readNumeral_negative present signed, downward]
            constructor
            · rintro ⟨areDigits, isValue, within⟩
              exact ⟨⟨present, areDigits, by omega⟩, by omega, by omega⟩
            · rintro ⟨⟨_, areDigits, isValue⟩, within, _⟩
              exact ⟨areDigits, by omega, by omega⟩
        · rw [spells_unsigned_iff plus minus, readNumeral_unsigned plus minus, upward]
          constructor
          · rintro ⟨areDigits, rfl, within⟩
            exact ⟨⟨areDigits, rfl⟩, by omega, within⟩
          · rintro ⟨⟨areDigits, isValue⟩, _, within⟩
            exact ⟨areDigits, isValue, within⟩

end Reading

end PolicyWatch.Text
