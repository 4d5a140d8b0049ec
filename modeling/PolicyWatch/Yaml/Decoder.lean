import PolicyWatch.Decoding
import PolicyWatch.Yaml.Reader

/-!
# YAML as a format of data

Any scalar is text as written.  Only plain scalars are truth values, numbers or
nothing, unless a tag says so; an empty plain scalar is also an empty list and an
empty record.
-/

namespace PolicyWatch.Yaml

def flagTag : String := "tag:yaml.org,2002:bool"

def integerTag : String := "tag:yaml.org,2002:int"

def nullTag : String := "tag:yaml.org,2002:null"

def isNullText (text : String) : Bool :=
  ["~", "null", "Null", "NULL"].contains text

/-- The truth value that a text says. -/
def flagOfText? (text : String) : Option Bool :=
  if ["true", "True", "TRUE"].contains text then some true
  else if ["false", "False", "FALSE"].contains text then some false
  else none

/-- Whether digits start with a zero that is not the whole number. -/
def hasLeadingZero (digits : List Char) : Bool :=
  digits.head? == some '0' && 1 < digits.length

def magnitudeOf? (base : Nat) (digits : List Char) : Option Nat :=
  if digits.isEmpty then none else Text.digitsValue? base digits

/-- The integer without a sign that a text says: in base ten, or in another base
after its mark. -/
def naturalOfText? (text : List Char) : Option Nat :=
  match (if text.head? = some '+' then text.tail else text) with
  | '0' :: 'x' :: digits => magnitudeOf? 16 digits
  | '0' :: 'o' :: digits => magnitudeOf? 8 digits
  | '0' :: 'b' :: digits => magnitudeOf? 2 digits
  | digits => if hasLeadingZero digits then none else magnitudeOf? 10 digits

/-- Whether a scalar may say more than text: it is plain, or literal and tagged
so. -/
def isTyped (tag : String) (style : ScalarStyle) (written : Option String) : Bool :=
  style == .plain || (style == .literal && written == some tag)

namespace Node

def isBlank : Node → Bool
  | .scalar "" .plain _ => true
  | _ => false

def text? : Node → Option String
  | .scalar text _ _ => some text
  | _ => none

def flag? : Node → Option Bool
  | .scalar text style tag => if isTyped flagTag style tag then flagOfText? text else none
  | _ => none

def integer? (bounds : Text.Bounds) : Node → Option Int
  | .scalar text style tag =>
      if isTyped integerTag style tag then
        (naturalOfText? text.toList).bind fun value =>
          if bounds.admits value then some (value : Int) else none
      else none
  | _ => none

def elements? : Node → Option (List Node)
  | .sequence elements => some elements
  | node => if node.isBlank then some [] else none

def pairs? : Node → Option (List (Node × Node))
  | .mapping pairs => some pairs
  | node => if node.isBlank then some [] else none

/-- A value that may be unset: nothing, or a plain scalar that says so.  A tag for
nothing admits no other text. -/
def settable? : Node → Option (Option Node)
  | node@(.scalar text .plain tag) =>
      match tag with
      | none => some (if text = "" || isNullText text then none else some node)
      | some tag =>
          if tag = nullTag then (if isNullText text then some none else none)
          else some (some node)
  | node => some (some node)

/-- The name that a scalar chooses: its text or, with a tag of the file's own,
the tag over nothing. -/
def choice? : Node → Option String
  | .scalar text style tag =>
      match tag.map String.toList with
      | some ('!' :: name) =>
          if style = .plain && (text = "" || isNullText text) then
            some (String.ofList (if name.isEmpty then ['!'] else name))
          else none
      | _ => some text
  | _ => none

end Node

/-- The only value under a name; the inner `none` is a missing one. -/
def entryNamed? (entries : List (String × Node)) (name : String) : Option (Option Node) :=
  match entries.filter fun entry => entry.1 = name with
  | [] => some none
  | [(_, value)] => some (some value)
  | _ => none

def entriesNamed? (entries : List (String × Node)) :
    List String → Option (List (Option Node))
  | [] => some []
  | name :: rest => do
      let first ← entryNamed? entries name
      let others ← entriesNamed? entries rest
      return first :: others

section Format

variable {m : Type → Type} [DecodeMonad m] (follow : Node → m Node)

/-- The pairs of a mapping with their keys as text. -/
def entriesOf : List (Node × Node) → m (List (String × Node))
  | [] => pure []
  | (key, value) :: rest => do
      let text ← Format.given (← follow key).text?
      let others ← entriesOf rest
      return (text, value) :: others

def entries (node : Node) : m (List (String × Node)) := do
  entriesOf follow (← Format.given (← follow node).pairs?)

/-- The format of data, given how aliases are followed. -/
def format : Format m Node where
  text node := do Format.given (← follow node).text?
  flag node := do Format.given (← follow node).flag?
  integer bounds node := do Format.given ((← follow node).integer? bounds)
  elements node := do Format.given (← follow node).elements?
  entries := entries follow
  fields names node := do Format.given (entriesNamed? (← entries follow node) names)
  settable node := do Format.given (← follow node).settable?
  choice node := do Format.given (← follow node).choice?

end Format

mutual

def Node.events : Node → Nat
  | .scalar .. => 1
  | .alias _ => 1
  | .sequence elements => elementEvents elements + 2
  | .mapping pairs => pairEvents pairs + 2

def Node.elementEvents : List Node → Nat
  | [] => 0
  | element :: rest => element.events + elementEvents rest

def Node.pairEvents : List (Node × Node) → Nat
  | [] => 0
  | (key, value) :: rest => key.events + value.events + pairEvents rest

end

def Anchors.follow (anchors : Anchors) : Node → StateT Nat Option Node
  | .alias slot => do
      modify (· + 1)
      return anchors.resolve (.alias slot)
  | node => return node

namespace Document

/-- The number of aliases that may be followed for each event of a document. -/
def followsPerEvent : Nat := 100

/-- The data of a document, unless so many aliases are followed for them that the document must
be meant to exhaust its reader. -/
def decode? {α : Type} (document : Document)
    (decode : {m : Type → Type} → [DecodeMonad m] → Format m Node → Node → m α) :
    Option α := do
  let (_, followed) ← (decode (format document.anchors.follow) document.root).run 0
  if followed ≤ followsPerEvent * document.root.events then
    decode (format fun node => some (document.anchors.resolve node)) document.root
  else none

end Document

end PolicyWatch.Yaml
