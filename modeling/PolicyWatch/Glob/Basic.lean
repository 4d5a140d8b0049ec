import PolicyWatch.Regex.Basic
import PolicyWatch.Text.Basic

/-!
# Path patterns

A pattern is a row of tokens.  It stands for an expression over the bytes of a
path: a question mark and a class take one byte, and stars stop at slashes
unless they make up a whole component.
-/

namespace PolicyWatch.Glob

inductive Token where
  | literal (character : Char)
  | anyByte
  | star
  /-- A recursive star that starts a pattern or a branch. -/
  | deepFront
  /-- A slash and a recursive star that end a pattern or a branch. -/
  | deepBack
  /-- A recursive star with the slashes around it. -/
  | deepBetween
  | byteClass (negated : Bool) (ranges : List (Char × Char))
  | branches (choices : List (List Token))
  deriving Inhabited

/-- The expression that covers any text. -/
def anything : Regex :=
  .repeated (.chars CharSet.full) 0 none

def slash : Regex :=
  .chars (CharSet.singleton '/')

def notSlash : Regex :=
  .chars (CharSet.singleton '/').complement

def inRow (parts : List Regex) : Regex :=
  parts.foldr Regex.seq .empty

def choice : List Regex → Regex
  | [] => .empty
  | [only] => only
  | first :: rest => .either first (choice rest)

def byte (value : Nat) : Regex :=
  .chars ⟨[(value, value)]⟩

/-- The bytes of a range in a class: the last byte of the lower end ranges to
the first byte of the upper end, and the other bytes stand alone. -/
def classRange (low high : Char) : CharSet :=
  let lower := Text.bytesOf low
  let upper := Text.bytesOf high
  if low = high then CharSet.empty.addCodes lower
  else
    ((CharSet.range (lower.getLast?.getD 0) (upper.head?.getD 0)).addCodes lower.dropLast).addCodes
      upper.tail

def classSet (negated : Bool) (ranges : List (Char × Char)) : CharSet :=
  let listed := ranges.foldl
    (fun grown range => grown.union (classRange range.1 range.2)) CharSet.empty
  if negated then listed.complement else listed

mutual

def isBlankRow : List Token → Bool
  | [] => true
  | .branches choices :: rest => allBlank choices && isBlankRow rest
  | _ :: _ => false

/-- Whether no choice stands for text of its own. -/
def allBlank : List (List Token) → Bool
  | [] => true
  | tokens :: rest => isBlankRow tokens && allBlank rest

end

mutual

def Token.toRegex : Token → Regex
  | .literal character => inRow ((Text.bytesOf character).map byte)
  | .anyByte => notSlash
  | .star => .repeated notSlash 0 none
  | .deepFront => .either (.repeated slash 0 (some 1)) (.seq anything slash)
  | .deepBack => .seq slash anything
  | .deepBetween => .either slash (.seq slash (.seq anything slash))
  | .byteClass negated ranges => .chars (classSet negated ranges)
  | .branches choices => choice (choicesToRegex choices)

def rowToRegex : List Token → Regex
  | [] => .empty
  | token :: rest => .seq token.toRegex (rowToRegex rest)

/-- The expressions of the choices that stand for text of their own; an empty
choice is no choice. -/
def choicesToRegex : List (List Token) → List Regex
  | [] => []
  | tokens :: rest =>
      if isBlankRow tokens then choicesToRegex rest else rowToRegex tokens :: choicesToRegex rest

end

/-- The expression of a whole pattern. -/
def toRegex (tokens : List Token) : Regex :=
  .seq (.anchor .textStart) (.seq (rowToRegex tokens) (.anchor .textEnd))

end PolicyWatch.Glob
