import PolicyWatch.Glob.Basic

/-!
# Reading path patterns

Tokens are read from the left.  Two stars are recursive only where they make up
a whole component of the path or of a branch; elsewhere they are two stars.
-/

namespace PolicyWatch.Glob

/-- Why a text is no pattern, or why patterns cannot be compiled. -/
inductive Fault where
  | unclosedClass
  | emptyRange (low high : Char)
  | unopenedBranches
  | unclosedBranches
  | danglingBackslash
  /-- An expression compiled alone nests too deep. -/
  | tooDeepAlone (expression : String)
  /-- Of expressions compiled together, the first that nests too deep. -/
  | tooDeepTogether (position : Nat)
  deriving DecidableEq, Repr

namespace Fault

def message : Fault → String
  | unclosedClass => "unclosed character class; missing ']'"
  | emptyRange low high =>
      "invalid range; '" ++ String.singleton low ++ "' > '" ++ String.singleton high ++ "'"
  | unopenedBranches =>
      "unopened alternate group; missing '\x7b' (maybe escape '\x7d' with '[\x7d]'?)"
  | unclosedBranches =>
      "unclosed alternate group; missing '\x7d' (maybe escape '\x7b' with '[\x7b]'?)"
  | danglingBackslash => "dangling '\\'"
  | tooDeepAlone _ => "error parsing pattern 0"
  | tooDeepTogether position => s!"error parsing pattern {position}"

/-- What is said of a fault of a value: the text that cannot be read comes first,
unless it is one of several. -/
def report (value : String) : Fault → String
  | fault@(tooDeepTogether _) => fault.message
  | fault@(tooDeepAlone expression) =>
      "error parsing glob '" ++ expression ++ "': " ++ fault.message
  | fault => "error parsing glob '" ++ value ++ "': " ++ fault.message

end Fault

/-- A group of branches being read: the finished branches, and the tokens of the
current one, both newest first. -/
structure Group where
  finished : List (List Token)
  current : List Token

/-- What has been read: the innermost group and the groups around it. -/
structure Reading where
  inner : Group
  outer : List Group

namespace Reading

def start : Reading := ⟨⟨[], []⟩, []⟩

def add (reading : Reading) (token : Token) : Reading :=
  { reading with inner := { reading.inner with current := token :: reading.inner.current } }

def replaceLast (reading : Reading) (token : Token → Token) : Reading :=
  match reading.inner.current with
  | last :: earlier =>
      { reading with inner := { reading.inner with current := token last :: earlier } }
  | [] => reading

def openGroup (reading : Reading) : Reading :=
  ⟨⟨[], []⟩, reading.inner :: reading.outer⟩

def endBranch (reading : Reading) : Reading :=
  { reading with inner := ⟨reading.inner.current.reverse :: reading.inner.finished, []⟩ }

def closeGroup? (reading : Reading) : Option Reading :=
  match reading.outer with
  | [] => none
  | around :: outer =>
      let choices := (reading.inner.current.reverse :: reading.inner.finished).reverse
      some ⟨{ around with current := .branches choices :: around.current }, outer⟩

def isOutermost (reading : Reading) : Bool :=
  reading.outer.isEmpty

end Reading

/-- Read the members of a class up to its closing bracket: the ranges read so
far, newest first, whether none was read, and whether a dash is pending. -/
def readClass : List (Char × Char) → Bool → Bool → List Char →
    Except Fault (List (Char × Char) × List Char)
  | _, _, _, [] => .error .unclosedClass
  | ranges, first, pending, character :: rest =>
      if character = ']' ∧ !first then
        .ok (((if pending then [('-', '-')] else []) ++ ranges).reverse, rest)
      else if pending then
        match ranges with
        | (low, _) :: earlier =>
            if character < low then .error (.emptyRange low character)
            else readClass ((low, character) :: earlier) false false rest
        | [] => readClass [(character, character)] false false rest
      else if character = '-' ∧ !first then readClass ranges false true rest
      else readClass ((character, character) :: ranges) false false rest

/-- Whether two stars between the given neighbours are recursive. -/
def isDeepAfter (reading : Reading) (previous : Option Char) : Bool :=
  previous == some '/' ||
    (!reading.isOutermost && (previous == some ',' || previous == some '\x7b'))

/-- Turn the token before two recursive stars into the recursive token; the
slash there is part of it. -/
def deepen (atEnd : Bool) : Token → Token
  | .deepFront => .deepFront
  | .deepBack => .deepBack
  | _ => if atEnd then .deepBack else .deepBetween

/-- Take two stars that have been read, with the character before them and the
text after them. -/
def readTwoStars (reading : Reading) (previous : Option Char) (rest : List Char) :
    Reading × Option Char × List Char :=
  let plain := ((reading.add .star).add .star, some '*', rest)
  if reading.inner.current.isEmpty then
    match rest with
    | [] => (reading.add .deepFront, some '*', [])
    | '/' :: after => (reading.add .deepFront, some '/', after)
    | _ => plain
  else if isDeepAfter reading previous then
    match rest with
    | [] => (reading.replaceLast (deepen true), some '*', [])
    | '/' :: after => (reading.replaceLast (deepen false), some '/', after)
    | next :: _ =>
        if !reading.isOutermost && (next == ',' || next == '\x7d') then
          (reading.replaceLast (deepen true), some '*', rest)
        else plain
  else plain

def readTokens : Nat → Reading → Option Char → List Char → Except Fault (List Token)
  | 0, _, _, _ => .error .unclosedBranches
  | _ + 1, reading, _, [] =>
      if reading.isOutermost then .ok reading.inner.current.reverse else .error .unclosedBranches
  | fuel + 1, reading, previous, character :: rest =>
      match character with
      | '?' => readTokens fuel (reading.add .anyByte) (some '?') rest
      | '*' =>
          match rest with
          | '*' :: after =>
              let (grown, last, remaining) := readTwoStars reading previous after
              readTokens fuel grown last remaining
          | _ => readTokens fuel (reading.add .star) (some '*') rest
      | '[' =>
          let (negated, inside) :=
            match rest with
            | '!' :: inside => (true, inside)
            | '^' :: inside => (true, inside)
            | inside => (false, inside)
          match readClass [] true false inside with
          | .ok (ranges, after) =>
              readTokens fuel (reading.add (.byteClass negated ranges)) (some ']') after
          | .error fault => .error fault
      | '\x7b' => readTokens fuel reading.openGroup (some '\x7b') rest
      | '\x7d' =>
          match reading.closeGroup? with
          | some grown => readTokens fuel grown (some '\x7d') rest
          | none => .error .unopenedBranches
      | ',' =>
          let grown := if reading.isOutermost then reading.add (.literal ',') else reading.endBranch
          readTokens fuel grown (some ',') rest
      | '\\' =>
          match rest with
          | escaped :: after =>
              readTokens fuel (reading.add (.literal escaped)) (some escaped) after
          | [] => .error .danglingBackslash
      | _ => readTokens fuel (reading.add (.literal character)) (some character) rest

def ofText (text : List Char) : Except Fault (List Token) :=
  readTokens (text.length + 1) Reading.start none text

end PolicyWatch.Glob
