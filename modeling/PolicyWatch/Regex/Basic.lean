import PolicyWatch.Unicode.CharSet
import PolicyWatch.Unicode.Property

/-!
# Regular expressions

An expression consumes characters or tests the place between two characters.
`Matches` says which stretch of a text an expression covers, given what stands
before and after that stretch.
-/

namespace PolicyWatch

/-- The tests of a place at the edge of a word. -/
inductive WordEdge where
  | boundary
  | inside
  | start
  | stop
  | startHalf
  | stopHalf
  deriving DecidableEq, Repr

/-- The tests of a place between two characters. -/
inductive Anchor where
  | textStart
  | textEnd
  /-- A line starts after a line feed or, with `carriage`, after any of the
  two-character, line-feed and carriage-return ends. -/
  | lineStart (carriage : Bool)
  | lineEnd (carriage : Bool)
  /-- With `basic`, words are written with basic letters, digits and `_`. -/
  | word (edge : WordEdge) (basic : Bool)
  deriving DecidableEq, Repr

inductive Regex where
  | empty
  | anchor (test : Anchor)
  | chars (set : CharSet)
  | seq (first second : Regex)
  | either (first second : Regex)
  | repeated (body : Regex) (least : Nat) (most : Option Nat)
  /-- A group that remembers what it covered. -/
  | group (body : Regex)
  deriving Repr

/-- Letters, digits and the underscore of the basic alphabet. -/
def basicWordSet : CharSet :=
  ⟨[(0x30, 0x39), (0x41, 0x5A), (0x5F, 0x5F), (0x61, 0x7A)]⟩

/-- Whether the character at one side of a place belongs to a word. -/
def isWordAt (basic : Bool) (side : Option Char) : Bool :=
  match side with
  | some character =>
      if basic then basicWordSet.contains character else Unicode.wordSet.contains character
  | none => false

/-- Whether a word edge lies between two sides. -/
def WordEdge.holds (edge : WordEdge) (before after : Bool) : Bool :=
  match edge with
  | boundary => before != after
  | inside => before == after
  | start => !before && after
  | stop => before && !after
  | startHalf => !before
  | stopHalf => !after

/-- Whether a place passes a test, given its neighbours. -/
def Anchor.holds (test : Anchor) (before after : Option Char) : Bool :=
  match test with
  | textStart => before.isNone
  | textEnd => after.isNone
  | lineStart false => before.isNone || before == some '\n'
  | lineStart true =>
      before.isNone || before == some '\n' || (before == some '\r' && after != some '\n')
  | lineEnd false => after.isNone || after == some '\n'
  | lineEnd true =>
      after.isNone || after == some '\r' || (after == some '\n' && before != some '\r')
  | word edge basic => edge.holds (isWordAt basic before) (isWordAt basic after)

namespace Regex

/-- Whether an expression covers no character at all. -/
def isZeroWidth : Regex → Bool
  | .empty => true
  | .anchor _ => true
  | .chars _ => false
  | .seq first second => first.isZeroWidth && second.isZeroWidth
  | .either first second => first.isZeroWidth && second.isZeroWidth
  | .repeated body _ most => most == some 0 || body.isZeroWidth
  | .group body => body.isZeroWidth

/-- Repeat an expression.  One round of an expression that covers no character
says as much as many. -/
def repeatWithin (body : Regex) (least : Nat) (most : Option Nat) : Regex :=
  if body.isZeroWidth then .repeated body (min least 1) (some (min (most.getD 1) 1))
  else .repeated body least most

/-- `Matches regex before text after`: the expression covers `text` where
`before` stands in front of it, nearest character first, and `after` behind. -/
inductive Matches : Regex → List Char → List Char → List Char → Prop where
  | empty (before after : List Char) : Matches .empty before [] after
  | anchor {test : Anchor} {before after : List Char}
      (passes : test.holds before.head? after.head? = true) :
      Matches (.anchor test) before [] after
  | chars {set : CharSet} {character : Char} (before after : List Char)
      (member : set.contains character = true) :
      Matches (.chars set) before [character] after
  | seq {first second : Regex} {before left right after : List Char}
      (matchesFirst : Matches first before left (right ++ after))
      (matchesSecond : Matches second (left.reverse ++ before) right after) :
      Matches (.seq first second) before (left ++ right) after
  | eitherFirst {first : Regex} (second : Regex) {before text after : List Char}
      (covered : Matches first before text after) :
      Matches (.either first second) before text after
  | eitherSecond (first : Regex) {second : Regex} {before text after : List Char}
      (covered : Matches second before text after) :
      Matches (.either first second) before text after
  | done (body : Regex) (most : Option Nat) (before after : List Char) :
      Matches (.repeated body 0 most) before [] after
  | again {body : Regex} {least : Nat} {most : Option Nat}
      {before left right after : List Char}
      (room : most ≠ some 0)
      (once : Matches body before left (right ++ after))
      (more : Matches (.repeated body (least - 1) (most.map (· - 1)))
        (left.reverse ++ before) right after) :
      Matches (.repeated body least most) before (left ++ right) after
  | group {body : Regex} {before text after : List Char}
      (covered : Matches body before text after) :
      Matches (.group body) before text after

/-- Whether some stretch of a text is covered. -/
def FoundIn (regex : Regex) (text : List Char) : Prop :=
  ∃ before middle after, text = before ++ middle ++ after ∧
    regex.Matches before.reverse middle after

end Regex

/-- The expressions whose compiled program is within the limit on its size.  How large a program
is depends on how it is compiled, so the limit is a parameter of all that reads expressions. -/
class SizeLimit where
  admits : Regex → Bool

end PolicyWatch
