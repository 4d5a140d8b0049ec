import PolicyWatch.Json.Basic

/-!
# Writing JSON

The compact form: no blanks, members in their order.
-/

namespace PolicyWatch.Json

/-- The hexadecimal digit of a value below sixteen. -/
def hexDigit (value : Nat) : Char :=
  Char.ofNat (if value < 10 then 48 + value else 87 + value)

def escape (character : Char) : List Char :=
  if character = '"' then ['\\', '"']
  else if character = '\\' then ['\\', '\\']
  else if character = '\n' then ['\\', 'n']
  else if character = '\r' then ['\\', 'r']
  else if character = '\t' then ['\\', 't']
  else if character = '\x08' then ['\\', 'b']
  else if character = '\x0c' then ['\\', 'f']
  else if character.toNat < 0x20 then
    ['\\', 'u', '0', '0', hexDigit (character.toNat / 16), hexDigit (character.toNat % 16)]
  else [character]

def writeText (text : String) : String :=
  "\"" ++ String.ofList (text.toList.flatMap escape) ++ "\""

mutual

/-- The compact form of a value. -/
def write : Json → String
  | .null => "null"
  | .bool true => "true"
  | .bool false => "false"
  | .integer value => toString value
  | .decimal significand exponent => toString significand ++ "e" ++ toString exponent
  | .string text => writeText text
  | .array elements => "[" ++ String.intercalate "," (writeElements elements) ++ "]"
  | .object members =>
      "\x7b" ++ String.intercalate "," (writeMembers members) ++ "\x7d"
  | .unreadable => "\"\\ud800\""

def writeElements : List Json → List String
  | [] => []
  | element :: rest => element.write :: writeElements rest

def writeMembers : List (String × Json) → List String
  | [] => []
  | (name, value) :: rest => (writeText name ++ ":" ++ value.write) :: writeMembers rest

end

mutual

/-- A value with the members of each of its objects in ascending order of names. -/
def sorted : Json → Json
  | .array elements => .array (sortElements elements)
  | .object members =>
      .object ((sortMembers members).mergeSort fun left right => decide (left.1 ≤ right.1))
  | value => value

def sortElements : List Json → List Json
  | [] => []
  | element :: rest => element.sorted :: sortElements rest

def sortMembers : List (String × Json) → List (String × Json)
  | [] => []
  | (name, value) :: rest => (name, value.sorted) :: sortMembers rest

end

end PolicyWatch.Json
