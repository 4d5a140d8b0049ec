import PolicyWatch.Regex.Bracket

/-!
# Reading regular expressions

A pattern is a choice of sequences.  A group ends at the first closing
parenthesis that its own groups leave over, so a text put between parentheses
can end them early.
-/

namespace PolicyWatch.Regex

/-- A part of a sequence, with its nesting depth.  A part that only sets flags
cannot be repeated. -/
structure Part where
  regex : Regex
  height : Nat
  repeatable : Bool

namespace Part

def leaf (regex : Regex) : Part := ⟨regex, 0, true⟩

def setting : Part := ⟨.empty, 0, false⟩

/-- Parts in a row, given last first. -/
def sequence : List Part → Part
  | [] => leaf .empty
  | [part] => part
  | parts =>
      ⟨parts.foldl (fun rest part => .seq part.regex rest) .empty,
        parts.foldl (fun height part => max height part.height) 0 + 1, true⟩

/-- Parts to choose from, given last first. -/
def choice : List Part → Part
  | [] => leaf .empty
  | [part] => part
  | last :: earlier =>
      ⟨earlier.foldl (fun rest part => .either part.regex rest) last.regex,
        (last :: earlier).foldl (fun height part => max height part.height) 0 + 1, true⟩

def repetition (part : Part) (least : Nat) (most : Option Nat) : Part :=
  ⟨part.regex.repeatWithin least most, part.height + 1, true⟩

end Part

/-- The greatest number of rounds that can be written. -/
def greatestCount : Nat := 4294967295

def readCountDigits (flags : Flags) : Nat → List Char → List Char → List Char × List Char
  | fuel + 1, read, digit :: rest =>
      if digit.isDigit then readCountDigits flags fuel (digit :: read) (flags.skip rest)
      else (read.reverse, digit :: rest)
  | _, read, text => (read.reverse, text)

/-- Read a count between blanks: the inner `none` is a missing count. -/
def readCount (flags : Flags) (text : List Char) : Option (Option Nat × List Char) :=
  let (digits, rest) := readCountDigits flags text.length [] (Text.trimStart text)
  let rest := if rest.head?.any Text.isBlank then flags.skip (Text.trimStart rest) else rest
  match digits with
  | [] => some (none, rest)
  | digits =>
      match Text.digitsValue? 10 digits with
      | some count => if count ≤ greatestCount then some (some count, rest) else none
      | none => none

/-- Read a counted repetition after its opening brace. -/
def readCounts (flags : Flags) (text : List Char) : Option (Nat × Option Nat × List Char) :=
  match flags.skip text with
  | [] => none
  | text =>
      match readCount flags text with
      | some (some least, '\x7d' :: rest) => some (least, some least, rest)
      | some (some least, ',' :: rest) =>
          match flags.skip rest with
          | '\x7d' :: after => some (least, none, after)
          | rest =>
              match readCount flags rest with
              | some (some most, '\x7d' :: after) =>
                  if least ≤ most then some (least, some most, after) else none
              | _ => none
      | _ => none

def isNameCharacter (first : Bool) (character : Char) : Bool :=
  character == '_' || Unicode.alphabeticSet.contains character ||
    (!first && (character == '.' || character == '[' || character == ']' ||
      Unicode.numericSet.contains character))

def readName (read : List Char) : List Char → Option (List Char × List Char)
  | [] => none
  | '>' :: rest => if read.isEmpty then none else some (read.reverse, rest)
  | character :: rest =>
      if isNameCharacter read.isEmpty character then readName (character :: read) rest else none

/-- What an opening parenthesis introduces. -/
inductive Opening where
  /-- Flags for the rest of the surrounding group. -/
  | setting (flags : Flags)
  /-- A group, its flags, and whether it remembers what it covered. -/
  | group (flags : Flags) (remembers : Bool) (name : Option (List Char))

/-- Read what follows an opening parenthesis.  Conditions on the text around
are refused. -/
def readGroupOpening (flags : Flags) (text : List Char) : Option (Opening × List Char) :=
  match flags.skip text with
  | '?' :: 'P' :: '<' :: rest =>
      (readName [] rest).map fun (name, after) => (.group flags true (some name), after)
  | '?' :: '<' :: '=' :: _ => none
  | '?' :: '<' :: '!' :: _ => none
  | '?' :: '<' :: rest =>
      (readName [] rest).map fun (name, after) => (.group flags true (some name), after)
  | '?' :: rest =>
      match readFlags flags [] false rest with
      | some (changed, _, ':' :: after) => some (.group changed false none, after)
      | some (changed, false, ')' :: after) => some (.setting changed, after)
      | _ => none
  | text => some (.group flags true none, text)

/-- The state between two parts: flags, names of groups, and the parts of the
current sequence, last first. -/
structure Progress where
  flags : Flags
  names : List (List Char)
  parts : List Part

namespace Progress

def add (progress : Progress) (part : Part) : Progress :=
  { progress with parts := part :: progress.parts }

def repeatLast? (progress : Progress) (least : Nat) (most : Option Nat) : Option Progress :=
  match progress.parts with
  | part :: earlier =>
      if part.repeatable then
        some { progress with parts := part.repetition least most :: earlier }
      else none
  | [] => none

end Progress

/-- Drop the mark after a repetition that asks for few rounds. -/
def dropLazyMark : List Char → List Char
  | '?' :: rest => rest
  | text => text

def readLeaf (flags : Flags) : List Char → Option (Part × List Char)
  | [] => none
  | '\\' :: rest =>
      match readEscaped flags rest with
      | some (.character value, after) => some (Part.leaf (flags.literal value), after)
      | some (.set value, after) => some (Part.leaf (.chars value), after)
      | some (.anchor test, after) => some (Part.leaf (.anchor test), after)
      | none => none
  | '.' :: rest => flags.dot?.map fun regex => (Part.leaf regex, rest)
  | '^' :: rest => some (Part.leaf (.anchor flags.caret), rest)
  | '$' :: rest => some (Part.leaf (.anchor flags.dollar), rest)
  | '[' :: rest =>
      (readBracket flags rest).map
        fun (inner, after) => (⟨.chars inner.set, inner.height, true⟩, after)
  | character :: rest => some (Part.leaf (flags.literal character), rest)

mutual

/-- Read sequences parted by `|`, up to a closing parenthesis or the end. -/
def readChoice :
    Nat → List Part → Flags → List (List Char) → List Char →
      Option (Part × List (List Char) × List Char)
  | 0, _, _, _, _ => none
  | fuel + 1, branches, flags, names, text =>
      match readSequence fuel ⟨flags, names, []⟩ text with
      | some (progress, '|' :: rest) =>
          readChoice fuel (Part.sequence progress.parts :: branches)
            progress.flags progress.names rest
      | some (progress, rest) =>
          some (Part.choice (Part.sequence progress.parts :: branches), progress.names, rest)
      | none => none

/-- Read parts up to `|`, a closing parenthesis or the end. -/
def readSequence : Nat → Progress → List Char → Option (Progress × List Char)
  | 0, _, _ => none
  | fuel + 1, progress, text =>
      match progress.flags.skip text with
      | [] => some (progress, [])
      | ')' :: rest => some (progress, ')' :: rest)
      | '|' :: rest => some (progress, '|' :: rest)
      | '?' :: rest =>
          match progress.repeatLast? 0 (some 1) with
          | some grown => readSequence fuel grown (dropLazyMark rest)
          | none => none
      | '*' :: rest =>
          match progress.repeatLast? 0 none with
          | some grown => readSequence fuel grown (dropLazyMark rest)
          | none => none
      | '+' :: rest =>
          match progress.repeatLast? 1 none with
          | some grown => readSequence fuel grown (dropLazyMark rest)
          | none => none
      | '\x7b' :: rest =>
          match readCounts progress.flags rest with
          | some (least, most, after) =>
              match progress.repeatLast? least most with
              | some grown =>
                  readSequence fuel grown (dropLazyMark (progress.flags.skip after))
              | none => none
          | none => none
      | '(' :: rest =>
          match readGroupOpening progress.flags rest with
          | some (.setting changed, after) =>
              readSequence fuel ⟨changed, progress.names, Part.setting :: progress.parts⟩ after
          | some (.group inner remembers name?, inside) =>
              if name?.any progress.names.contains then none
              else
                match readChoice fuel [] inner (name?.toList ++ progress.names) inside with
                | some (part, names, ')' :: after) =>
                    let regex := if remembers then .group part.regex else part.regex
                    let group := ⟨regex, part.height + 1, true⟩
                    readSequence fuel ⟨progress.flags, names, group :: progress.parts⟩ after
                | _ => none
          | none => none
      | text =>
          match readLeaf progress.flags text with
          | some (part, after) => readSequence fuel (progress.add part) after
          | none => none

end

def greatestHeight : Nat := 250

def ofPattern? (ignoreCase : Bool) (pattern : List Char) : Option Regex :=
  match readChoice (2 * pattern.length + 4) [] (Flags.initial ignoreCase) [] pattern with
  | some (part, _, []) => if part.height ≤ greatestHeight then some part.regex else none
  | _ => none

end PolicyWatch.Regex
