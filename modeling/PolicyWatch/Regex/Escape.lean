import PolicyWatch.Regex.Flags

/-!
# Escapes of regular expressions

What a backslash introduces: a character, a set of characters or a test of a
place.
-/

namespace PolicyWatch.Regex

inductive Escaped where
  | character (value : Char)
  | set (value : CharSet)
  | anchor (test : Anchor)

/-- The characters with a meaning of their own, which a backslash takes away. -/
def metaCharacters : List Char :=
  ['\\', '.', '+', '*', '?', '(', ')', '|', '[', ']', '\x7b', '\x7d', '^', '$', '#', '&', '-', '~']

/-- Whether a backslash in front leaves a character as it is. -/
def isPlainWhenEscaped (character : Char) : Bool :=
  metaCharacters.contains character ||
    (character.toNat ≤ 0x7F && !character.isAlphanum && character != '<' && character != '>')

def characterOf? (code : Nat) : Option Char :=
  if code < 0xD800 ∨ (0xDFFF < code ∧ code ≤ 0x10FFFF) then some (Char.ofNat code) else none

/-- Read a number of hexadecimal digits.  Blanks may follow each digit where
the flags allow them. -/
def readHexDigits (flags : Flags) : Nat → List Char → List Char → Option (List Char × List Char)
  | 0, read, text => some (read.reverse, text)
  | count + 1, read, digit :: rest =>
      if (Text.digitValue? 16 digit).isSome then
        readHexDigits flags count (digit :: read) (flags.skip rest)
      else none
  | _ + 1, _, [] => none

/-- Read hexadecimal digits up to a closing brace. -/
def readHexBraces (flags : Flags) : Nat → List Char → List Char → Option (List Char × List Char)
  | 0, _, _ => none
  | fuel + 1, read, text =>
      match flags.skip text with
      | '\x7d' :: rest => some (read.reverse, rest)
      | digit :: rest =>
          if (Text.digitValue? 16 digit).isSome then readHexBraces flags fuel (digit :: read) rest
          else none
      | [] => none

/-- Read a character given by its code, after `x`, `u` or `U`.  Without the `u`
flag a two-digit code names a byte, and only those below 128 stand alone. -/
def readHex (flags : Flags) (width : Nat) (text : List Char) : Option (Char × List Char) :=
  match flags.skip text with
  | '\x7b' :: rest =>
      match readHexBraces flags (rest.length + 1) [] rest with
      | some ([], _) => none
      | some (digits, after) =>
          ((Text.digitsValue? 16 digits).bind characterOf?).map (·, flags.skip after)
      | none => none
  | text =>
      match readHexDigits flags width [] text with
      | some (digits, after) =>
          match Text.digitsValue? 16 digits with
          | some code =>
              if width = 2 ∧ !flags.unicode ∧ 0x7F < code then none
              else (characterOf? code).map (·, after)
          | none => none
      | none => none

def readPropertyName (flags : Flags) :
    Nat → List Char → List Char → Option (List Char × List Char)
  | 0, _, _ => none
  | fuel + 1, read, text =>
      match flags.skip text with
      | '\x7d' :: rest => some (read.reverse, rest)
      | character :: rest => readPropertyName flags fuel (character :: read) rest
      | [] => none

/-- Cut a text at the first place where a mark starts. -/
def cutAt (mark : List Char) : List Char → List Char → Option (List Char × List Char)
  | _, [] => none
  | before, character :: rest =>
      match Text.dropFront? mark (character :: rest) with
      | some after => some (before.reverse, after)
      | none => cutAt mark (character :: before) rest

/-- The set that the inside of the braces names, and whether it is negated. -/
def namedProperty (name : List Char) : Option (CharSet × Bool) :=
  match cutAt ['!', '='] [] name with
  | some (property, value) => (Unicode.valueSet? property value).map (·, true)
  | none =>
      match cutAt [':'] [] name with
      | some (property, value) => (Unicode.valueSet? property value).map (·, false)
      | none =>
          match cutAt ['='] [] name with
          | some (property, value) => (Unicode.valueSet? property value).map (·, false)
          | none => (Unicode.propertySet? name).map (·, false)

/-- Read a property after `p` or `P`. -/
def readProperty (flags : Flags) (negated : Bool) (text : List Char) :
    Option (CharSet × List Char) :=
  if !flags.unicode then none
  else
    match flags.skip text with
    | [] => none
    | '\x7b' :: rest =>
        match readPropertyName flags (rest.length + 1) [] rest with
        | some (name, after) =>
            match namedProperty name with
            | some (set, unequal) =>
                (flags.foldAndNegate? (negated != unequal) set).map (·, after)
            | none => none
        | none => none
    | letter :: rest =>
        if letter = '\\' then none
        else
          match Unicode.propertySet? [letter] with
          | some set => (flags.foldAndNegate? negated set).map (·, flags.skip rest)
          | none => none

def isEdgeNameCharacter (character : Char) : Bool :=
  character.isAlpha || character == '-'

/-- Read the name of a word edge up to its closing brace. -/
def readEdgeName (flags : Flags) : Nat → List Char → List Char → Option (List Char × List Char)
  | 0, _, _ => none
  | _ + 1, read, '\x7d' :: rest => some (read.reverse, rest)
  | fuel + 1, read, character :: rest =>
      if isEdgeNameCharacter character then
        readEdgeName flags fuel (character :: read) (flags.skip rest)
      else none
  | _ + 1, _, [] => none

def edgeNamed? (name : List Char) : Option WordEdge :=
  if name = "start".toList then some .start
  else if name = "end".toList then some .stop
  else if name = "start-half".toList then some .startHalf
  else if name = "end-half".toList then some .stopHalf
  else none

/-- Read what may follow `\b`: the name of an edge in braces, or nothing.  A
brace that holds something else belongs to a repetition. -/
def readEdge (flags : Flags) (text : List Char) : Option (WordEdge × List Char) :=
  match text with
  | '\x7b' :: rest =>
      match flags.skip rest with
      | [] => none
      | character :: tail =>
          if isEdgeNameCharacter character then
            match readEdgeName flags (tail.length + 2) [] (character :: tail) with
            | some (name, after) => (edgeNamed? name).map (·, after)
            | none => none
          else some (.boundary, text)
  | _ => some (.boundary, text)

def readEscaped (flags : Flags) : List Char → Option (Escaped × List Char)
  | [] => none
  | letter :: rest =>
      if letter.isDigit then none
      else if letter = 'x' then (readHex flags 2 rest).map
        fun (value, after) => (.character value, after)
      else if letter = 'u' then (readHex flags 4 rest).map
        fun (value, after) => (.character value, after)
      else if letter = 'U' then (readHex flags 8 rest).map
        fun (value, after) => (.character value, after)
      else if letter = 'p' then (readProperty flags false rest).map
        fun (set, after) => (.set set, after)
      else if letter = 'P' then (readProperty flags true rest).map
        fun (set, after) => (.set set, after)
      else if ['d', 's', 'w', 'D', 'S', 'W'].contains letter then
        (flags.shorthand? letter).map fun set => (.set set, rest)
      else if isPlainWhenEscaped letter then some (.character letter, rest)
      else
        let basic := !flags.unicode
        match letter with
        | 'a' => some (.character '\x07', rest)
        | 'f' => some (.character '\x0c', rest)
        | 't' => some (.character '\t', rest)
        | 'n' => some (.character '\n', rest)
        | 'r' => some (.character '\r', rest)
        | 'v' => some (.character '\x0b', rest)
        | 'A' => some (.anchor .textStart, rest)
        | 'z' => some (.anchor .textEnd, rest)
        | 'b' => (readEdge flags rest).map fun (edge, after) => (.anchor (.word edge basic), after)
        | 'B' => some (.anchor (.word .inside basic), rest)
        | '<' => some (.anchor (.word .start basic), rest)
        | '>' => some (.anchor (.word .stop basic), rest)
        | _ => none

end PolicyWatch.Regex
