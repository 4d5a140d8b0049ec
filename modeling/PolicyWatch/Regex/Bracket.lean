import PolicyWatch.Regex.Escape

/-!
# Bracketed classes

A class lists characters, ranges, named sets and nested classes, and may
combine lists by intersection, difference and symmetric difference, from the
left.
-/

namespace PolicyWatch.Regex

/-- An operator between the lists of a class. -/
inductive SetOperator where
  | intersection
  | difference
  | symmetricDifference

def SetOperator.combine : SetOperator → CharSet → CharSet → CharSet
  | intersection => CharSet.inter
  | difference => CharSet.difference
  | symmetricDifference => CharSet.symmetricDifference

/-- A set with the nesting depth of the text it was read from. -/
structure Nested where
  set : CharSet
  height : Nat

/-- What has been read of a class: the members of the current list, their
number and greatest depth, and what stands before the current list. -/
structure ClassReading where
  set : CharSet
  count : Nat
  height : Nat
  earlier : Option (SetOperator × Nested)

namespace ClassReading

def start : ClassReading := ⟨CharSet.empty, 0, 0, none⟩

def add (reading : ClassReading) (member : Nested) : ClassReading :=
  { reading with
    set := reading.set.union member.set
    count := reading.count + 1
    height := max reading.height member.height }

/-- The current list; several members nest one level deeper than one. -/
def list (reading : ClassReading) : Nested :=
  ⟨reading.set, if reading.count < 2 then reading.height else reading.height + 1⟩

/-- All that has been read, with the current list as the right operand of the
operator before it.  Both operands are folded first. -/
def combined (flags : Flags) (reading : ClassReading) : Nested :=
  match reading.earlier with
  | none => reading.list
  | some (operator, left) =>
      ⟨operator.combine (flags.fold left.set) (flags.fold reading.list.set),
        max left.height reading.list.height + 1⟩

/-- Start a new list after an operator. -/
def operate (flags : Flags) (reading : ClassReading) (operator : SetOperator) : ClassReading :=
  ⟨CharSet.empty, 0, 0, some (operator, reading.combined flags)⟩

end ClassReading

/-- The named sets of the basic alphabet. -/
def posixRanges? (name : List Char) : Option (List (Nat × Nat)) :=
  let named : List (String × List (Nat × Nat)) :=
    [ ("alnum", [(0x30, 0x39), (0x41, 0x5A), (0x61, 0x7A)]),
      ("alpha", [(0x41, 0x5A), (0x61, 0x7A)]),
      ("ascii", [(0x00, 0x7F)]),
      ("blank", [(0x09, 0x09), (0x20, 0x20)]),
      ("cntrl", [(0x00, 0x1F), (0x7F, 0x7F)]),
      ("digit", [(0x30, 0x39)]),
      ("graph", [(0x21, 0x7E)]),
      ("lower", [(0x61, 0x7A)]),
      ("print", [(0x20, 0x7E)]),
      ("punct", [(0x21, 0x2F), (0x3A, 0x40), (0x5B, 0x60), (0x7B, 0x7E)]),
      ("space", [(0x09, 0x0D), (0x20, 0x20)]),
      ("upper", [(0x41, 0x5A)]),
      ("word", [(0x30, 0x39), (0x41, 0x5A), (0x5F, 0x5F), (0x61, 0x7A)]),
      ("xdigit", [(0x30, 0x39), (0x41, 0x46), (0x61, 0x66)]) ]
  (named.find? fun entry => entry.1.toList = name).map (·.2)

/-- Read a named set of the basic alphabet after its `[`: whether it is negated,
its ranges, and the rest.  Anything else is left to be read as a class. -/
def readPosix (text : List Char) : Option (Bool × List (Nat × Nat) × List Char) :=
  match text with
  | ':' :: rest =>
      let (negated, inside) :=
        match rest with
        | '^' :: tail => (true, tail)
        | tail => (false, tail)
      match inside.dropWhile (· != ':') with
      | ':' :: ']' :: after =>
          (posixRanges? (inside.takeWhile (· != ':'))).map (negated, ·, after)
      | _ => none
  | _ => none

/-- Read one end of a range, or a whole member. -/
def readMember (flags : Flags) : List Char → Option (Escaped × List Char)
  | '\\' :: rest => readEscaped flags rest
  | character :: rest => some (.character character, rest)
  | [] => none

/-- Whether a character may be listed: without the `u` flag only the first 128. -/
def admitsCharacter (flags : Flags) (character : Char) : Bool :=
  flags.unicode || character.toNat ≤ 0x7F

def memberSet? (flags : Flags) : Escaped → Option CharSet
  | .character value =>
      if admitsCharacter flags value then some (CharSet.singleton value) else none
  | .set value => some value
  | .anchor _ => none

def readRange (flags : Flags) (text : List Char) : Option (CharSet × List Char) :=
  match readMember flags text with
  | none => none
  | some (first, rest) =>
      match flags.skip rest with
      | [] => none
      | '-' :: tail =>
          if flags.peek tail = some ']' ∨ flags.peek tail = some '-' then
            (memberSet? flags first).map (·, '-' :: tail)
          else
            match flags.skip tail with
            | [] => none
            | tail =>
                match first, readMember flags tail with
                | .character low, some (.character high, after) =>
                    if admitsCharacter flags low && admitsCharacter flags high &&
                        decide (low.toNat ≤ high.toNat) then
                      some (CharSet.range low.toNat high.toNat, after)
                    else none
                | _, _ => none
      | tail => (memberSet? flags first).map (·, tail)

def readDashes (flags : Flags) : Nat → ClassReading → List Char → ClassReading × List Char
  | fuel + 1, reading, '-' :: rest =>
      readDashes flags fuel (reading.add ⟨CharSet.singleton '-', 0⟩) (flags.skip rest)
  | _, reading, text => (reading, text)

/-- Read what opens a class after its bracket: `^`, dashes, and a closing
bracket that stands for itself. -/
def readOpening (flags : Flags) (text : List Char) : Bool × ClassReading × List Char :=
  let text := flags.skip text
  let (negated, text) :=
    match text with
    | '^' :: rest => (true, flags.skip rest)
    | text => (false, text)
  let (reading, text) := readDashes flags text.length ClassReading.start text
  match reading.count, text with
  | 0, ']' :: rest => (negated, reading.add ⟨CharSet.singleton ']', 0⟩, flags.skip rest)
  | _, _ => (negated, reading, text)

def closeClass (flags : Flags) (negated : Bool) (reading : ClassReading) : Option Nested :=
  let whole := reading.combined flags
  (flags.foldAndNegate? negated whole.set).map fun set => ⟨set, whole.height + 1⟩

def readClass (flags : Flags) :
    Nat → Bool → ClassReading → List Char → Option (Nested × List Char)
  | 0, _, _, _ => none
  | fuel + 1, negated, reading, text =>
      match flags.skip text with
      | [] => none
      | ']' :: rest => (closeClass flags negated reading).map (·, rest)
      | '&' :: '&' :: rest =>
          readClass flags fuel negated (reading.operate flags .intersection) rest
      | '-' :: '-' :: rest => readClass flags fuel negated (reading.operate flags .difference) rest
      | '~' :: '~' :: rest =>
          readClass flags fuel negated (reading.operate flags .symmetricDifference) rest
      | '[' :: rest =>
          match readPosix rest with
          | some (inverse, ranges, after) =>
              match flags.foldAndNegate? inverse (CharSet.ofRanges ranges) with
              | some set => readClass flags fuel negated (reading.add ⟨set, 0⟩) after
              | none => none
          | none =>
              let (innerNegated, opening, inside) := readOpening flags rest
              match readClass flags fuel innerNegated opening inside with
              | some (inner, after) => readClass flags fuel negated (reading.add inner) after
              | none => none
      | text =>
          match readRange flags text with
          | some (set, after) => readClass flags fuel negated (reading.add ⟨set, 0⟩) after
          | none => none

/-- Read a class after its opening bracket. -/
def readBracket (flags : Flags) (text : List Char) : Option (Nested × List Char) :=
  let (negated, opening, inside) := readOpening flags text
  readClass flags (text.length + 1) negated opening inside

end PolicyWatch.Regex
