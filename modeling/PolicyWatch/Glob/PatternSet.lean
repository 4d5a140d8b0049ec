import PolicyWatch.Glob.Parser

/-!
# Sets of path patterns

The patterns of a list are compiled together, as expressions in text, and an
expression that nests too deep is refused.  A pattern that is plain text, or all
that lies below a plain text, needs no expression; one that ends in a plain
extension is compiled alone, before the others are compiled together.
-/

namespace PolicyWatch.Glob

def greatestHeight : Nat := 250

def deepest (heights : List Nat) : Nat :=
  heights.foldl max 0

/-- The nesting depth of parts in a row or to choose from: several parts are one
level above the deepest of them. -/
def joinedHeight : List Nat → Nat
  | [] => 0
  | [only] => only
  | heights => deepest heights + 1

/-- The number of members that a range of a class is written with, where the
bytes of its ends stand alone but for the two that make up the range. -/
def classMembers (low high : Char) : Nat :=
  if low = high then (Text.bytesOf low).length
  else (Text.bytesOf low).length + (Text.bytesOf high).length - 1

mutual

/-- The nesting depths of the parts that a token is written with. -/
def Token.heights : Token → List Nat
  | .literal character => (Text.bytesOf character).map fun _ => 0
  | .anyByte => [1]
  | .star => [2]
  | .deepFront => [4]
  | .deepBack => [0, 1]
  | .deepBetween => [4]
  | .byteClass _ ranges =>
      [if (ranges.map fun range => classMembers range.1 range.2).foldl (· + ·) 0 ≤ 1 then 1 else 2]
  | .branches choices =>
      match choiceHeights choices with
      | [] => []
      | heights => [joinedHeight heights + 1]

/-- The nesting depths of the parts that tokens in a row are written with. -/
def rowHeights : List Token → List Nat
  | [] => []
  | token :: rest => token.heights ++ rowHeights rest

/-- The nesting depths of the choices that stand for text of their own. -/
def choiceHeights : List (List Token) → List Nat
  | [] => []
  | tokens :: rest =>
      if isBlankRow tokens then choiceHeights rest
      else joinedHeight (rowHeights tokens) :: choiceHeights rest

end

/-- The nesting depth of the expression of a pattern, which is always a row. -/
def height (tokens : List Token) : Nat :=
  deepest (rowHeights tokens) + 1

def nestsTooDeep (tokens : List Token) : Bool :=
  decide (greatestHeight < height tokens)

def metaCharacters : List Char :=
  "\\.+*?()|[]\x7b\x7d^$#&-~".toList

def byteText (byte : Nat) : String :=
  if 0x80 ≤ byte then "\\x" ++ String.ofList (Nat.toDigits 16 byte)
  else if metaCharacters.contains (Char.ofNat byte) then "\\" ++ String.singleton (Char.ofNat byte)
  else String.singleton (Char.ofNat byte)

def characterText (character : Char) : String :=
  String.join ((Text.bytesOf character).map byteText)

/-- A range of a class as it is written in an expression. -/
def rangeText (low high : Char) : String :=
  if low = high then characterText low else characterText low ++ "-" ++ characterText high

mutual

def Token.toText : Token → String
  | .literal character => characterText character
  | .anyByte => "[^/]"
  | .star => "[^/]*"
  | .deepFront => "(?:/?|.*/)"
  | .deepBack => "/.*"
  | .deepBetween => "(?:/|/.*/)"
  | .byteClass negated ranges =>
      (if negated then "[^" else "[") ++
        String.join (ranges.map fun range => rangeText range.1 range.2) ++ "]"
  | .branches choices =>
      match choiceTexts choices with
      | [] => ""
      | texts => "(?:" ++ String.intercalate "|" texts ++ ")"

def rowText : List Token → String
  | [] => ""
  | token :: rest => token.toText ++ rowText rest

def choiceTexts : List (List Token) → List String
  | [] => []
  | tokens :: rest =>
      if isBlankRow tokens then choiceTexts rest else rowText tokens :: choiceTexts rest

end

def toText (tokens : List Token) : String :=
  "(?-u)^" ++ rowText tokens ++ "$"

def Token.isLiteral : Token → Bool
  | .literal _ => true
  | _ => false

/-- Whether a pattern of absolute paths needs no expression. -/
def isPlain (tokens : List Token) : Bool :=
  match tokens.getLast? with
  | some .deepBack => tokens.dropLast.all Token.isLiteral
  | _ => tokens.all Token.isLiteral

/-- Whether a pattern, its last token first, ends in a plain extension. -/
def startsWithExtension : List Token → Bool
  | .literal character :: rest =>
      character == '.' || (character != '/' && startsWithExtension rest)
  | _ => false

/-- Whether a pattern ends in a plain extension. -/
def hasExtension (tokens : List Token) : Bool :=
  startsWithExtension tokens.reverse

/-- Why patterns cannot be compiled together. -/
def setFault? (patterns : List (List Token)) : Option Fault :=
  let (alone, together) := (patterns.filter fun tokens => !isPlain tokens).partition hasExtension
  match alone.find? nestsTooDeep with
  | some tokens => some (.tooDeepAlone (toText tokens))
  | none => (together.findIdx? nestsTooDeep).map Fault.tooDeepTogether

end PolicyWatch.Glob
