import PolicyWatch.Text.Basic

/-!
# Signed decimal numerals

A numeral is one optional sign and at least one digit.  Reading it within
bounds either gives its value or names the first fault met from the left.
-/

namespace PolicyWatch.Text

/-- The bounds of a range of integers. -/
structure Bounds where
  least : Int
  greatest : Int

namespace Bounds

/-- The integers of sixty-four bits with a sign. -/
def signed64 : Bounds := ⟨-9223372036854775808, 9223372036854775807⟩

/-- The integers of sixty-four bits without a sign. -/
def unsigned64 : Bounds := ⟨0, 18446744073709551615⟩

/-- The integers of thirty-two bits without a sign. -/
def unsigned32 : Bounds := ⟨0, 4294967295⟩

def admits (bounds : Bounds) (value : Int) : Bool :=
  bounds.least ≤ value && value ≤ bounds.greatest

end Bounds

/-- Why a text is no numeral within bounds. -/
inductive NumeralFault where
  | noDigits
  | strayCharacter
  | tooLarge
  | tooSmall
  deriving DecidableEq, Repr

namespace NumeralFault

def message : NumeralFault → String
  | noDigits => "cannot parse integer from empty string"
  | strayCharacter => "invalid digit found in string"
  | tooLarge => "number too large to fit in target type"
  | tooSmall => "number too small to fit in target type"

end NumeralFault

/-- Extend a value by the digits of a magnitude that counts upward. -/
def ascend (greatest : Int) : Int → List Char → Except NumeralFault Int
  | value, [] => .ok value
  | value, character :: rest =>
      match digitValue? 10 character with
      | none => .error .strayCharacter
      | some digit =>
          let next := value * 10 + digit
          if greatest < next then .error .tooLarge else ascend greatest next rest

/-- Extend a value by the digits of a magnitude that counts downward. -/
def descend (least : Int) : Int → List Char → Except NumeralFault Int
  | value, [] => .ok value
  | value, character :: rest =>
      match digitValue? 10 character with
      | none => .error .strayCharacter
      | some digit =>
          let next := value * 10 - digit
          if next < least then .error .tooSmall else descend least next rest

/-- Read a numeral within bounds.  The first fault from the left is reported,
and a sign alone is a stray character. -/
def readNumeral (bounds : Bounds) : List Char → Except NumeralFault Int
  | [] => .error .noDigits
  | ['+'] => .error .strayCharacter
  | ['-'] => .error .strayCharacter
  | '+' :: digits => ascend bounds.greatest 0 digits
  | '-' :: digits =>
      if bounds.least < 0 then descend bounds.least 0 digits else .error .strayCharacter
  | digits => ascend bounds.greatest 0 digits

end PolicyWatch.Text
