import PolicyWatch.Yaml.Cursor

/-!
# Plain and quoted scalars

Both run over several lines.  One line end between two lines is read as a space,
and of several line ends all but the first are kept.
-/

namespace PolicyWatch.Yaml

/-- The gap between two words: blanks while no line has ended, and then the
first line end and the later ones. -/
structure WordGap where
  blanks : List Char
  isBroken : Bool
  firstBreak : List Char
  laterBreaks : List Char

namespace WordGap

def none : WordGap := ⟨[], false, [], []⟩

/-- A gap that starts with a line end which does not count. -/
def continued : WordGap := ⟨[], true, [], []⟩

def toText (gap : WordGap) : List Char :=
  if gap.isBroken then
    if gap.firstBreak = ['\n'] then
      if gap.laterBreaks.isEmpty then [' '] else gap.laterBreaks
    else gap.firstBreak ++ gap.laterBreaks
  else gap.blanks

def addBlank (gap : WordGap) (character : Char) : WordGap :=
  if gap.isBroken then gap else { gap with blanks := gap.blanks ++ [character] }

def addBreak (gap : WordGap) (read : List Char) : WordGap :=
  if gap.isBroken then { gap with laterBreaks := gap.laterBreaks ++ read }
  else ⟨[], true, read, []⟩

/-- Read a gap.  After a line end, a tab left of a column is refused. -/
def read? (leastTab : Nat) : Nat → WordGap → Cursor → Option (WordGap × Cursor)
  | 0, gap, cursor => some (gap, cursor)
  | fuel + 1, gap, cursor =>
      match cursor.peek with
      | some character =>
          if isGap character then
            if gap.isBroken && character == '\t' && cursor.column < leastTab then Option.none
            else read? leastTab fuel (gap.addBlank character) (cursor.skip 1)
          else if isBreak character then
            let (read, after) := cursor.takeBreak
            read? leastTab fuel (gap.addBreak read) after
          else some (gap, cursor)
      | Option.none => some (gap, cursor)

end WordGap

/-! ## Plain scalars -/

/-- Whether a character bounds a flow collection or its entries. -/
def isFlowMark (character : Char) : Bool :=
  character == ',' || character == '[' || character == ']' || character == '\x7b' ||
    character == '\x7d'

/-- Whether a plain scalar in a flow collection has a colon that is neither part
of it nor a sign of its own. -/
def isStrayColon (isFlow : Bool) (cursor : Cursor) : Bool :=
  isFlow && cursor.sees ':' &&
    cursor.test 1 false fun character => isFlowMark character || character == '?'

def isWordEnd (isFlow : Bool) (cursor : Cursor) : Bool :=
  cursor.isBlankAt 0 || (cursor.sees ':' && cursor.isBlankAt 1) ||
    (isFlow && cursor.test 0 false isFlowMark)

/-- Read a word of a plain scalar, newest character first. -/
def readWord? (isFlow : Bool) : Nat → List Char → Cursor → Option (List Char × Cursor)
  | 0, read, cursor => some (read, cursor)
  | fuel + 1, read, cursor =>
      if isStrayColon isFlow cursor then none
      else if isWordEnd isFlow cursor then some (read, cursor)
      else
        match cursor.peek with
        | some character => readWord? isFlow fuel (character :: read) (cursor.skip 1)
        | none => some (read, cursor)

/-- A plain scalar that was read: its text, and whether it is followed by a line
end. -/
structure PlainScalar where
  text : List Char
  endsLine : Bool

/-- Read a plain scalar whose further lines start at a column at least.  The
text read is newest first. -/
def readPlain? (isFlow : Bool) (leastColumn : Nat) :
    Nat → List Char → WordGap → Cursor → Option (PlainScalar × Cursor)
  | 0, _, _, _ => none
  | fuel + 1, read, gap, cursor =>
      let finished : PlainScalar := ⟨read.reverse, gap.isBroken⟩
      if cursor.isAtDocumentMark || cursor.sees '#' then some (finished, cursor)
      else
        match readWord? isFlow cursor.rest.length [] cursor with
        | none => none
        | some (word, after) =>
            if word.isEmpty then some (finished, cursor)
            else
              let grown := word ++ gap.toText.reverse ++ read
              if after.isAtGap || after.isAtBreak then
                match WordGap.read? leastColumn after.rest.length WordGap.none after with
                | none => none
                | some (next, later) =>
                    if !isFlow && later.column < leastColumn then
                      some (⟨grown.reverse, next.isBroken⟩, later)
                    else readPlain? isFlow leastColumn fuel grown next later
              else some (⟨grown.reverse, false⟩, after)

/-! ## Quoted scalars -/

def escapedCharacter? : Char → Option Char
  | '0' => some '\x00'
  | 'a' => some '\x07'
  | 'b' => some '\x08'
  | 't' => some '\t'
  | '\t' => some '\t'
  | 'n' => some '\n'
  | 'v' => some '\x0b'
  | 'f' => some '\x0c'
  | 'r' => some '\r'
  | 'e' => some '\x1b'
  | ' ' => some ' '
  | '"' => some '"'
  | '/' => some '/'
  | '\\' => some '\\'
  | 'N' => some '\u0085'
  | '_' => some '\u00a0'
  | 'L' => some '\u2028'
  | 'P' => some '\u2029'
  | _ => none

/-- The number of digits after a letter that stands for a code. -/
def codeWidth? : Char → Option Nat
  | 'x' => some 2
  | 'u' => some 4
  | 'U' => some 8
  | _ => none

/-- The character of a code, unless the code stands for none. -/
def characterOfCode? (code : Nat) : Option Char :=
  if code.isValidChar then some (Char.ofNat code) else none

def readEscape? (cursor : Cursor) : Option (Char × Cursor) :=
  match cursor.peek with
  | none => none
  | some letter =>
      match codeWidth? letter with
      | some width =>
          let digits := (cursor.rest.drop 1).take width
          if digits.length = width then
            ((Text.digitsValue? 16 digits).bind characterOfCode?).map fun character =>
              (character, cursor.skip (width + 1))
          else none
      | none => (escapedCharacter? letter).map fun character => (character, cursor.skip 1)

/-- Read characters of a quoted scalar up to a gap or the end quote, newest
first.  The flag tells of an escaped line end. -/
def readQuotedWord? (isSingle : Bool) :
    Nat → List Char → Cursor → Option (List Char × Bool × Cursor)
  | 0, read, cursor => some (read, false, cursor)
  | fuel + 1, read, cursor =>
      if cursor.isBlankAt 0 then some (read, false, cursor)
      else
        match isSingle, cursor.peek with
        | _, none => some (read, false, cursor)
        | true, some character =>
            if character = '\'' then
              if cursor.peekAt 1 = some '\'' then
                readQuotedWord? isSingle fuel ('\'' :: read) (cursor.skip 2)
              else some (read, false, cursor)
            else readQuotedWord? isSingle fuel (character :: read) (cursor.skip 1)
        | false, some character =>
            if character = '"' then some (read, false, cursor)
            else if character = '\\' then
              let after := cursor.skip 1
              if after.isAtBreak then some (read, true, after.skipBreak)
              else
                match readEscape? after with
                | some (escaped, later) => readQuotedWord? isSingle fuel (escaped :: read) later
                | none => none
            else readQuotedWord? isSingle fuel (character :: read) (cursor.skip 1)

/-- Read a quoted scalar after its first quote, past its last.  The text read is
newest first. -/
def readQuoted? (isSingle : Bool) : Nat → List Char → Cursor → Option (List Char × Cursor)
  | 0, _, _ => none
  | fuel + 1, read, cursor =>
      if cursor.isAtDocumentMark || cursor.isAtEnd then none
      else
        match readQuotedWord? isSingle cursor.rest.length read cursor with
        | none => none
        | some (grown, continued, after) =>
            if after.sees (if isSingle then '\'' else '"') then some (grown.reverse, after.skip 1)
            else
              let gap := if continued then WordGap.continued else WordGap.none
              match WordGap.read? 0 after.rest.length gap after with
              | none => none
              | some (gap, later) =>
                  readQuoted? isSingle fuel (gap.toText.reverse ++ grown) later

end PolicyWatch.Yaml
