import PolicyWatch.CompileError
import PolicyWatch.Regex.Matcher
import PolicyWatch.Regex.Parser

/-!
# Values of policies

How each value that a policy lists for a field is read, and which values of an
event pass it.
-/

namespace PolicyWatch

/-- The ways to compare two numbers. -/
inductive Comparator where
  | equal
  | less
  | atMost
  | greater
  | atLeast
  deriving DecidableEq, Repr

/-- Whether a number stands in a relation to an operand. -/
def Comparator.holds (comparator : Comparator) (value operand : Int) : Bool :=
  match comparator with
  | equal => value == operand
  | less => value < operand
  | atMost => value ≤ operand
  | greater => operand < value
  | atLeast => operand ≤ value

/-- A condition on a number. -/
structure Comparison where
  comparator : Comparator
  operand : Int
  deriving DecidableEq, Repr

def Comparison.holds (comparison : Comparison) (value : Int) : Bool :=
  comparison.comparator.holds value comparison.operand

/-- The comparator at the front of a text and the text after it.  The longer
sign counts, and no sign asks for equality. -/
def Comparator.ofFront : List Char → Comparator × List Char
  | '>' :: '=' :: rest => (atLeast, rest)
  | '<' :: '=' :: rest => (atMost, rest)
  | '>' :: rest => (greater, rest)
  | '<' :: rest => (less, rest)
  | '=' :: rest => (equal, rest)
  | rest => (equal, rest)

/-- Read a condition on a number: a comparator and a numeral, with blanks
allowed around both. -/
def Comparison.ofText (text : List Char) : Except Text.NumeralFault Comparison :=
  let (comparator, rest) := Comparator.ofFront (Text.trim text)
  match Text.readNumeral Text.Bounds.signed64 (Text.trim rest) with
  | .ok operand => .ok ⟨comparator, operand⟩
  | .error fault => .error fault

/-- Read a truth value, in either case of the letters and between blanks. -/
def flagOfText? (text : List Char) : Option Bool :=
  let word := Text.lowerBasic (Text.trim text)
  if word = "true".toList then some true
  else if word = "false".toList then some false
  else none

/-- The expression that a value stands for: the value between a start, an end
and the brackets that keep its alternatives together. -/
def anchored (value : List Char) : List Char :=
  "^(?:".toList ++ value ++ ")$".toList

/-- Read a value as an expression; one that needs too large a program is none. -/
def regexOfValue? [SizeLimit] (ignoreCase : Bool) (value : String) : Option Regex :=
  (Regex.ofPattern? ignoreCase (anchored value.toList)).filter SizeLimit.admits

/-- A path as written, and the expression that it stands for as a pattern. -/
structure PathPattern where
  text : String
  expression : Regex

namespace PathPattern

def ofValue (field : Field) (value : String) : Except CompileError PathPattern :=
  if Text.startsWith ['/'] value.toList then
    match Glob.ofText value.toList with
    | .ok tokens => .ok ⟨value, Glob.toRegex tokens⟩
    | .error fault => .error (.invalidGlob field value fault)
  else .error (.invalidValue field value .notAbsolute)

/-- Whether a path passes: as the very text, or as a pattern over bytes. -/
def accepts (pattern : PathPattern) (path : String) : Bool :=
  path == pattern.text || pattern.expression.isFoundIn (Text.spread path.toList)

end PathPattern

/-- A condition that one value of a policy sets. -/
inductive Condition where
  | regex (expression : Regex)
  | path (pattern : PathPattern)
  | flag (wanted : Bool)
  | number (comparison : Comparison)
  | operation (wanted : FileOperation)

namespace Condition

/-- Read a value as the kind of its field says. -/
def ofValue [SizeLimit] (field : Field) (value : String) : Except CompileError Condition :=
  match field.kind with
  | .regex ignoreCase =>
      match regexOfValue? ignoreCase value with
      | some expression => .ok (.regex expression)
      | none => .error (.invalidRegex field value)
  | .path =>
      match PathPattern.ofValue field value with
      | .ok pattern => .ok (.path pattern)
      | .error error => .error error
  | .boolean =>
      match flagOfText? value.toList with
      | some wanted => .ok (.flag wanted)
      | none => .error (.invalidValue field value .notBoolean)
  | .numeric =>
      match Comparison.ofText value.toList with
      | .ok comparison => .ok (.number comparison)
      | .error fault => .error (.invalidValue field value (.notNumeral fault))
  | .fileOperation =>
      match FileOperation.ofText? value with
      | some wanted => .ok (.operation wanted)
      | none => .error (.invalidValue field value .unknownOperation)

/-- Whether a value of an event passes; a value of another type never does. -/
def accepts : Condition → FieldValue → Bool
  | regex expression, .text value => expression.isFoundIn value.toList
  | path pattern, .text value => pattern.accepts value
  | flag wanted, .flag value => value == wanted
  | number comparison, .integer value => comparison.holds value
  | operation wanted, .operation value => value == wanted
  | _, _ => false

end Condition

end PolicyWatch
