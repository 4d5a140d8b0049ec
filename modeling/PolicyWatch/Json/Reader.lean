import PolicyWatch.Json.Basic
import PolicyWatch.Text.Basic

/-!
# Reading JSON

A strict reader: no comments, no trailing commas, no text after the value.
Each reader takes the remaining characters and returns what it read with the
rest.
-/

namespace PolicyWatch.Json

open PolicyWatch.Text

/-- Blanks between tokens. -/
def isGap (character : Char) : Bool :=
  character == ' ' || character == '\n' || character == '\t' || character == '\r'

/-- Drop the blanks before a token. -/
def skipGap (text : List Char) : List Char :=
  text.dropWhile isGap

/-- Read four hexadecimal digits. -/
def readUnit : List Char → Option (Nat × List Char)
  | first :: second :: third :: fourth :: rest =>
      (digitsValue? 16 [first, second, third, fourth]).map (·, rest)
  | _ => none

/-- Characters of a string; `none` stands for half a surrogate pair. -/
abbrev Piece := Option Char

/-- Read the rest of an escape whose four digits gave `unit`. -/
def readPair (unit : Nat) (rest : List Char) : Piece × List Char :=
  if 0xD800 ≤ unit ∧ unit ≤ 0xDBFF then
    match rest with
    | '\\' :: 'u' :: tail =>
        match readUnit tail with
        | some (low, after) =>
            if 0xDC00 ≤ low ∧ low ≤ 0xDFFF then
              (some (Char.ofNat (0x10000 + (unit - 0xD800) * 0x400 + (low - 0xDC00))), after)
            else (none, rest)
        | none => (none, rest)
    | _ => (none, rest)
  else if 0xDC00 ≤ unit ∧ unit ≤ 0xDFFF then (none, rest)
  else (some (Char.ofNat unit), rest)

def readEscape : List Char → Option (Piece × List Char)
  | '"' :: rest => some (some '"', rest)
  | '\\' :: rest => some (some '\\', rest)
  | '/' :: rest => some (some '/', rest)
  | 'b' :: rest => some (some '\x08', rest)
  | 'f' :: rest => some (some '\x0c', rest)
  | 'n' :: rest => some (some '\n', rest)
  | 'r' :: rest => some (some '\r', rest)
  | 't' :: rest => some (some '\t', rest)
  | 'u' :: rest => (readUnit rest).map fun (unit, after) => readPair unit after
  | _ => none

/-- Read the characters up to the closing quote, newest first. -/
def readPieces : Nat → List Piece → List Char → Option (List Piece × List Char)
  | 0, _, _ => none
  | _ + 1, _, [] => none
  | _ + 1, read, '"' :: rest => some (read, rest)
  | fuel + 1, read, '\\' :: rest =>
      match readEscape rest with
      | some (piece, after) => readPieces fuel (piece :: read) after
      | none => none
  | fuel + 1, read, character :: rest =>
      if character.toNat < 0x20 then none else readPieces fuel (some character :: read) rest

/-- Put pieces, newest first, in front of characters. -/
def joinPieces : List Char → List Piece → Option (List Char)
  | joined, [] => some joined
  | joined, some character :: read => joinPieces (character :: joined) read
  | _, none :: _ => none

/-- Read a string after its opening quote; the inner `none` is a string with
half a surrogate pair. -/
def readText (text : List Char) : Option (Option String × List Char) :=
  (readPieces (text.length + 1) [] text).map fun (pieces, rest) =>
    ((joinPieces [] pieces).map String.ofList, rest)

def spanDigits (text : List Char) : List Char × List Char :=
  (text.takeWhile Char.isDigit, text.dropWhile Char.isDigit)

def readExponent (text : List Char) : Option (Option Int × List Char) :=
  match text with
  | mark :: rest =>
      if mark = 'e' ∨ mark = 'E' then
        let (negative, tail) :=
          match rest with
          | '-' :: tail => (true, tail)
          | '+' :: tail => (false, tail)
          | tail => (false, tail)
        let (digits, after) := spanDigits tail
        match digits, digitsValue? 10 digits with
        | _ :: _, some value => some (some (if negative then -(value : Int) else value), after)
        | _, _ => none
      else some (none, text)
  | [] => some (none, text)

def readFraction (text : List Char) : Option (Option (List Char) × List Char) :=
  match text with
  | '.' :: rest =>
      match spanDigits rest with
      | ([], _) => none
      | (digits, after) => some (some digits, after)
  | _ => some (none, text)

/-- An integer too wide for sixty-four bits, or a negative zero, is a decimal. -/
def ofWhole (negative : Bool) (magnitude : Nat) : Json :=
  let value : Int := if negative then -(magnitude : Int) else magnitude
  if negative ∧ magnitude = 0 then .decimal 0 0
  else if -9223372036854775808 ≤ value ∧ value ≤ 18446744073709551615 then .integer value
  else .decimal value 0

/-- Read a number after its sign. -/
def readMagnitude (negative : Bool) (text : List Char) : Option (Json × List Char) :=
  let (digits, rest) := spanDigits text
  match digits with
  | [] => none
  | '0' :: _ :: _ => none
  | _ =>
      match readFraction rest with
      | none => none
      | some (fraction?, afterFraction) =>
          match readExponent afterFraction with
          | none => none
          | some (exponent?, after) =>
              match fraction?, exponent? with
              | none, none =>
                  (digitsValue? 10 digits).map fun magnitude => (ofWhole negative magnitude, after)
              | _, _ =>
                  let fraction := fraction?.getD []
                  (digitsValue? 10 (digits ++ fraction)).map fun magnitude =>
                    let significand : Int := if negative then -(magnitude : Int) else magnitude
                    (.decimal significand (exponent?.getD 0 - fraction.length), after)

def readNumber : List Char → Option (Json × List Char)
  | '-' :: rest => readMagnitude true rest
  | text => readMagnitude false text

/-- The object of members given newest first. -/
def ofMembers : List (String × Json) → List (Option String × Json) → Json
  | members, [] => .object members
  | members, (some name, value) :: read => ofMembers ((name, value) :: members) read
  | _, (none, _) :: _ => .unreadable

mutual

def readValue : Nat → List Char → Option (Json × List Char)
  | 0, _ => none
  | _ + 1, 'n' :: 'u' :: 'l' :: 'l' :: rest => some (.null, rest)
  | _ + 1, 't' :: 'r' :: 'u' :: 'e' :: rest => some (.bool true, rest)
  | _ + 1, 'f' :: 'a' :: 'l' :: 's' :: 'e' :: rest => some (.bool false, rest)
  | _ + 1, '"' :: rest =>
      match readText rest with
      | some (some text, after) => some (.string text, after)
      | some (none, after) => some (.unreadable, after)
      | none => none
  | fuel + 1, '[' :: rest =>
      match skipGap rest with
      | ']' :: after => some (.array [], after)
      | inside => readElements fuel [] inside
  | fuel + 1, '{' :: rest =>
      match skipGap rest with
      | '}' :: after => some (.object [], after)
      | inside => readMembers fuel [] inside
  | _ + 1, text => readNumber text

/-- Read elements up to the closing bracket; `read` holds the earlier ones,
newest first. -/
def readElements : Nat → List Json → List Char → Option (Json × List Char)
  | 0, _, _ => none
  | fuel + 1, read, text =>
      match readValue fuel text with
      | none => none
      | some (element, rest) =>
          match skipGap rest with
          | ']' :: after => some (.array (element :: read).reverse, after)
          | ',' :: after => readElements fuel (element :: read) (skipGap after)
          | _ => none

/-- Read members up to the closing brace; `read` holds the earlier ones,
newest first. -/
def readMembers : Nat → List (Option String × Json) → List Char → Option (Json × List Char)
  | 0, _, _ => none
  | fuel + 1, read, '"' :: text =>
      match readText text with
      | none => none
      | some (name?, rest) =>
          match skipGap rest with
          | ':' :: afterColon =>
              match readValue fuel (skipGap afterColon) with
              | none => none
              | some (value, afterValue) =>
                  match skipGap afterValue with
                  | '}' :: after => some (ofMembers [] ((name?, value) :: read), after)
                  | ',' :: after => readMembers fuel ((name?, value) :: read) (skipGap after)
                  | _ => none
          | _ => none
  | _ + 1, _, _ => none

end

/-- Read one value that fills the text, blanks aside. -/
def ofText? (text : List Char) : Option Json :=
  match readValue (2 * text.length + 1) (skipGap text) with
  | some (value, rest) => if skipGap rest = [] then some value else none
  | none => none

end PolicyWatch.Json
