import PolicyWatch.Instant.Text
import PolicyWatch.Proofs.Text.Digits

/-!
# Instants as text

Main statement: every instant whose fields are in range is read back from its text, to the
nanosecond, leap seconds and years of any sign and length included.
-/

namespace PolicyWatch.Instant

open PolicyWatch.Text

/-! ## Numbers with zeros in front -/

section Padded

variable {width value : Nat} {rest : List Char}

theorem isDigit_of_mem_padded {character : Char} (member : character ∈ padded width value) :
    character.isDigit = true := by
  rcases List.mem_append.1 member with zero | digit
  · rw [List.eq_of_mem_replicate zero]
    rfl
  · exact isDigit_of_mem_toDigits digit

theorem digitsValue?_padded (width value : Nat) :
    digitsValue? 10 (padded width value) = some value :=
  digitsValue?_replicate_toDigits _ value

theorem padded_ne_nil (width value : Nat) : padded width value ≠ [] :=
  List.append_ne_nil_of_right_ne_nil _ Nat.toDigits_ne_nil

/-- A number of few digits is written with just as many as were asked for. -/
theorem length_padded (positive : 0 < width) (fits : value < Nat.pow 10 width) :
    (padded width value).length = width := by
  have few := (Nat.length_toDigits_le_iff (by decide) positive).2 fits
  rw [padded, List.length_append, List.length_replicate]
  omega

/-- No blank stands before a number. -/
theorem trimStart_padded (width value : Nat) (rest : List Char) :
    trimStart (padded width value ++ rest) = padded width value ++ rest := by
  cases digits : padded width value with
  | nil => exact absurd digits (padded_ne_nil width value)
  | cons first others =>
      have range := toNat_of_isDigit (isDigit_of_mem_padded (digits ▸ List.mem_cons_self))
      have notBlank : isBlank first = false := by
        simp only [isBlank, Bool.or_eq_false_iff, Bool.and_eq_false_iff, decide_eq_false_iff_not,
          beq_eq_false_iff_ne]
        omega
      rw [List.cons_append, trimStart,
        List.dropWhile_cons_of_neg (by rw [notBlank]; exact Bool.false_ne_true)]

theorem readDigits_padded {most : Nat} (fits : (padded width value).length ≤ most)
    (ends : (padded width value).length = most ∨ EndsDigits rest) :
    readDigits most (padded width value ++ rest) = some (value, rest) := by
  have areDigits : ∀ character ∈ padded width value, character.isDigit = true :=
    fun _ => isDigit_of_mem_padded
  have endsTaken : EndsDigits (rest.take (most - (padded width value).length)) := by
    rcases ends with full | ends
    · rw [full, Nat.sub_self, List.take_zero]
      intro character impossible
      cases impossible
    · intro character first
      rw [List.head?_take] at first
      split at first
      · cases first
      · exact ends character first
  have taken : ((padded width value ++ rest).take most).takeWhile Char.isDigit =
      padded width value := by
    rw [List.take_append, List.take_of_length_le fits,
      takeWhile_isDigit_append areDigits endsTaken]
  unfold readDigits
  rw [taken]
  dsimp only
  split
  · rename_i nothing
    exact absurd nothing (padded_ne_nil width value)
  · rw [digitsValue?_padded, Option.map_some, List.drop_left]

/-- A number of at most two digits is read as a field. -/
theorem readField_padded (fits : value < 100) :
    readField (padded 2 value ++ rest) = some (value, rest) := by
  have length := length_padded (by decide) (show value < 10 ^ 2 by omega)
  rw [readField, trimStart_padded]
  exact readDigits_padded (Nat.le_of_eq length) (.inl length)

end Padded

/-! ## The fields of an instant -/

theorem readMark_cons {mark : Char} (notBlank : isBlank mark = false) (rest : List Char) :
    readMark mark (mark :: rest) = some rest := by
  rw [readMark, trimStart,
    List.dropWhile_cons_of_neg (by rw [notBlank]; exact Bool.false_ne_true)]
  exact if_pos rfl

theorem readYear_writeYear (year : Int) {rest : List Char} (ends : EndsDigits rest) :
    readYear (writeYear year ++ rest) = some (year, rest) := by
  unfold writeYear
  split
  · rename_i usual
    have length := length_padded (by decide) (show year.toNat < 10 ^ 4 by omega)
    have read : readDigits 4 (padded 4 year.toNat ++ rest) = some (year.toNat, rest) :=
      readDigits_padded (Nat.le_of_eq length) (.inl length)
    have unsigned : ∀ sign : Char, sign.isDigit = false → ∀ tail,
        padded 4 year.toNat ++ rest ≠ sign :: tail := by
      intro sign notDigit tail impossible
      cases digits : padded 4 year.toNat with
      | nil => exact padded_ne_nil _ _ digits
      | cons first others =>
          rw [digits] at impossible
          cases (List.cons.inj impossible).1
          have isDigit := isDigit_of_mem_padded (digits ▸ List.mem_cons_self)
          rw [notDigit] at isDigit
          cases isDigit
    unfold readYear
    rw [trimStart_padded]
    split
    · rename_i tail minus
      exact absurd minus (unsigned '-' rfl tail)
    · rename_i tail plus
      exact absurd plus (unsigned '+' rfl tail)
    · rw [read, Option.map_some]
      dsimp only
      rw [Int.toNat_of_nonneg usual.1]
  · rename_i unusual
    have fits : (padded 4 year.natAbs).length ≤ (padded 4 year.natAbs ++ rest).length := by
      rw [List.length_append]
      exact Nat.le_add_right _ _
    have read := readDigits_padded fits (.inr ends)
    rw [List.cons_append]
    by_cases negative : year < 0
    · rw [if_pos negative]
      change (readDigits _ (padded 4 year.natAbs ++ rest)).map _ = _
      rw [read, Option.map_some]
      dsimp only
      rw [show -(year.natAbs : Int) = year by omega]
    · rw [if_neg negative]
      change (readDigits _ (padded 4 year.natAbs ++ rest)).map _ = _
      rw [read, Option.map_some]
      dsimp only
      rw [show (year.natAbs : Int) = year by omega]

/-- A fraction is read back from its three, six or nine digits. -/
theorem readFraction_padded {width value : Nat} (positive : 0 < width) (few : width ≤ 9)
    (fits : value < Nat.pow 10 width) :
    readFraction ('.' :: padded width value ++ ['Z']) =
      some (value * Nat.pow 10 (9 - width), ['Z']) := by
  have length := length_padded positive fits
  have ends : EndsDigits ['Z'] := by
    intro character first
    cases first
    rfl
  have read : readDigits 9 (padded width value ++ ['Z']) = some (value, ['Z']) :=
    readDigits_padded (Nat.le_trans (Nat.le_of_eq length) few) (.inr ends)
  rw [List.cons_append, readFraction, read]
  dsimp only
  rw [List.length_append, length, Nat.add_sub_cancel]
  rfl

theorem readFraction_writeFraction {nanosecond : Nat} (fits : nanosecond ≤ 999999999) :
    readFraction (writeFraction nanosecond ++ ['Z']) = some (nanosecond, ['Z']) := by
  unfold writeFraction
  split
  · rename_i zero
    rw [zero]
    rfl
  split
  · rename_i millis
    have fewDigits : nanosecond / 1000000 < Nat.pow 10 3 := by
      change nanosecond / 1000000 < 1000
      omega
    rw [readFraction_padded (by decide) (by decide) fewDigits,
      show nanosecond / 1000000 * Nat.pow 10 (9 - 3) = nanosecond by
        change nanosecond / 1000000 * 1000000 = nanosecond
        omega]
  split
  · rename_i micros
    have fewDigits : nanosecond / 1000 < Nat.pow 10 6 := by
      change nanosecond / 1000 < 1000000
      omega
    rw [readFraction_padded (by decide) (by decide) fewDigits,
      show nanosecond / 1000 * Nat.pow 10 (9 - 6) = nanosecond by
        change nanosecond / 1000 * 1000 = nanosecond
        omega]
  · have fewDigits : nanosecond < Nat.pow 10 9 := by
      change nanosecond < 1000000000
      omega
    rw [readFraction_padded (by decide) (by decide) fewDigits]
    exact congrArg some (Prod.ext (Nat.mul_one nanosecond) rfl)

/-! ## Whole instants -/

variable {instant : Instant}

theorem isValid_iff : instant.isValid = true ↔
    (leastYear ≤ instant.year ∧ instant.year ≤ greatestYear) ∧
      (1 ≤ instant.month ∧ instant.month ≤ 12) ∧
      (1 ≤ instant.day ∧ instant.day ≤ daysInMonth instant.year instant.month) ∧
      instant.hour ≤ 23 ∧ instant.minute ≤ 59 ∧ instant.second ≤ 60 ∧
      instant.nanosecond ≤ 999999999 := by
  simp only [isValid, Bool.and_eq_true, decide_eq_true_eq, and_assoc]

theorem daysInMonth_le (year : Int) (month : Nat) : daysInMonth year month ≤ 31 := by
  unfold daysInMonth
  repeat' split
  all_goals decide

theorem minutesEarlier_zero (valid : instant.isValid = true) :
    instant.minutesEarlier 0 = instant := by
  obtain ⟨_, _, _, hour, minute, _⟩ := isValid_iff.1 valid
  unfold minutesEarlier
  dsimp only
  rw [if_neg (by omega), if_neg (by omega)]
  dsimp only
  rw [show ((instant.hour * 60 + instant.minute : Nat) - (0 : Int)).toNat / 60 =
        instant.hour by omega,
    show ((instant.hour * 60 + instant.minute : Nat) - (0 : Int)).toNat % 60 = instant.minute by
      omega]

theorem toList_toText (instant : Instant) :
    instant.toText.toList =
      writeYear instant.year ++ '-' :: (padded 2 instant.month ++ '-' :: (padded 2 instant.day ++
        'T' :: (padded 2 instant.hour ++ ':' :: (padded 2 instant.minute ++
          ':' :: (padded 2 instant.second ++ (writeFraction instant.nanosecond ++ ['Z'])))))) := by
  simp [toText]

theorem readDate_written (year : Int) {month day : Nat} (fewMonths : month < 100)
    (fewDays : day < 100) (rest : List Char) :
    readDate (writeYear year ++ '-' :: (padded 2 month ++ '-' :: (padded 2 day ++ rest))) =
      some (year, month, day, rest) := by
  have ends : EndsDigits ('-' :: (padded 2 month ++ '-' :: (padded 2 day ++ rest))) := by
    intro character first
    cases first
    rfl
  have dash : isBlank '-' = false := rfl
  simp only [readDate, Option.bind_eq_bind, Option.bind_some, readYear_writeYear year ends,
    readMark_cons dash, readField_padded fewMonths, readField_padded fewDays]
  rfl

theorem readTime_written {hour minute second nanosecond : Nat} (fewHours : hour < 100)
    (fewMinutes : minute < 100) (fewSeconds : second < 100) (fits : nanosecond ≤ 999999999) :
    readTime (padded 2 hour ++ ':' :: (padded 2 minute ++
        ':' :: (padded 2 second ++ (writeFraction nanosecond ++ ['Z'])))) =
      some (hour, minute, second, nanosecond, ['Z']) := by
  have colon : isBlank ':' = false := rfl
  simp only [readTime, Option.bind_eq_bind, Option.bind_some, readMark_cons colon,
    readField_padded fewHours, readField_padded fewMinutes, readField_padded fewSeconds,
    readFraction_writeFraction fits]
  rfl

/-- An instant whose fields are in range is read back from its text. -/
theorem ofText?_toText (valid : instant.isValid = true) :
    ofText? instant.toText.toList = some instant := by
  obtain ⟨_, month, day, hour, minute, second, nanosecond⟩ := isValid_iff.1 valid
  have days := daysInMonth_le instant.year instant.month
  have date := readDate_written instant.year (show instant.month < 100 by omega)
    (show instant.day < 100 by omega)
  have time := readTime_written (show instant.hour < 100 by omega)
    (show instant.minute < 100 by omega) (show instant.second < 100 by omega) nanosecond
  have separator : ∀ rest, readSeparator ('T' :: rest) = some rest := fun _ => rfl
  have zone : readOffset (trimStart ['Z']) = some (0, []) := rfl
  have sameHere := minutesEarlier_zero valid
  rw [toList_toText, ofText?]
  simp only [Option.bind_eq_bind, Option.bind_some, date, separator, time, zone, sameHere, valid]
  rfl

theorem isValid_of_ofText? {text : List Char} (read : ofText? text = some instant) :
    instant.isValid = true := by
  unfold ofText? at read
  simp only [Option.bind_eq_bind, Option.bind_eq_some_iff] at read
  obtain ⟨_, _, _, _, _, _, _, _, ended⟩ := read
  split at ended
  · rename_i checked
    cases ended
    exact (Bool.and_eq_true_iff.1 checked).2
  · cases ended

end PolicyWatch.Instant
