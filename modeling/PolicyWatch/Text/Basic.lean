/-!
# Characters and texts

Letters and digits of the basic alphabet, the white space of the character standard, lines, and
characters as bytes.
-/

namespace PolicyWatch.Text

/-! ## Letters and digits -/

/-- Lower the letters `A`–`Z` and keep every other character. -/
def lowerBasic (text : List Char) : List Char :=
  text.map Char.toLower

/-- Raise the letters `a`–`z` and keep every other character. -/
def upperBasic (text : List Char) : List Char :=
  text.map Char.toUpper

def digitValue? (base : Nat) (character : Char) : Option Nat :=
  let code := character.toNat
  let value? :=
    if 48 ≤ code ∧ code ≤ 57 then some (code - 48)
    else if 65 ≤ code ∧ code ≤ 70 then some (code - 55)
    else if 97 ≤ code ∧ code ≤ 102 then some (code - 87)
    else none
  value?.filter (· < base)

/-- The value of a run of digits, most significant first; `none` if a
character is no digit of the base. -/
def digitsValue? (base : Nat) (text : List Char) : Option Nat :=
  text.foldl
    (fun value? character =>
      match value?, digitValue? base character with
      | some value, some digit => some (value * base + digit)
      | _, _ => none)
    (some 0)

def startsWith : List Char → List Char → Bool
  | [], _ => true
  | _ :: _, [] => false
  | expected :: front, character :: text => expected == character && startsWith front text

def dropFront? : List Char → List Char → Option (List Char)
  | [], text => some text
  | _ :: _, [] => none
  | expected :: front, character :: text =>
      if expected = character then dropFront? front text else none

/-! ## Blanks -/

/-- The characters with the `White_Space` property. -/
def isBlank (character : Char) : Bool :=
  let code := character.toNat
  (9 ≤ code && code ≤ 13) || code == 0x20 || code == 0x85 || code == 0xA0 ||
    code == 0x1680 || (0x2000 ≤ code && code ≤ 0x200A) || code == 0x2028 ||
    code == 0x2029 || code == 0x202F || code == 0x205F || code == 0x3000

def trimStart (text : List Char) : List Char :=
  text.dropWhile isBlank

def trimEnd (text : List Char) : List Char :=
  (text.reverse.dropWhile isBlank).reverse

def trim (text : List Char) : List Char :=
  trimEnd (trimStart text)

/-!
## Lines

A line ends with a line feed, before which a carriage return does not count, or with the text.
-/

/-- A line without the carriage return at its end. -/
def dropReturn (line : List Char) : List Char :=
  if line.getLast? = some '\r' then line.dropLast else line

/-- The lines of a text, of which the first has begun with some characters, in
reverse. -/
def linesFrom : List Char → List Char → List (List Char)
  | begun, [] => if begun.isEmpty then [] else [begun.reverse]
  | begun, character :: rest =>
      if character = '\n' then dropReturn begun.reverse :: linesFrom [] rest
      else linesFrom (character :: begun) rest

def lines (text : List Char) : List (List Char) :=
  linesFrom [] text

/-!
## Bytes

A character is written in one to four bytes, the more the larger its code.
-/

def bytesOfCode (code : Nat) : List Nat :=
  if code < 0x80 then [code]
  else if code < 0x800 then [0xC0 + code / 0x40, 0x80 + code % 0x40]
  else if code < 0x10000 then
    [0xE0 + code / 0x1000, 0x80 + code / 0x40 % 0x40, 0x80 + code % 0x40]
  else
    [0xF0 + code / 0x40000, 0x80 + code / 0x1000 % 0x40, 0x80 + code / 0x40 % 0x40,
      0x80 + code % 0x40]

def bytesOf (character : Char) : List Nat :=
  bytesOfCode character.toNat

/-- A text as bytes, each byte as the character with its value. -/
def spread (text : List Char) : List Char :=
  text.flatMap fun character => (bytesOf character).map Char.ofNat

end PolicyWatch.Text
