import PolicyWatch.Text.Basic

/-!
# Places in a file

A cursor is the text from a place on, with the index of the place in the file,
its line and its column.
-/

namespace PolicyWatch.Yaml

def isAllowed (character : Char) : Bool :=
  let code := character.toNat
  code == 0x09 || code == 0x0A || code == 0x0D || (0x20 ≤ code && code ≤ 0x7E) || code == 0x85 ||
    (0xA0 ≤ code && code ≤ 0xD7FF) || (0xE000 ≤ code && code ≤ 0xFFFD) || 0x10000 ≤ code

def isBreak (character : Char) : Bool :=
  let code := character.toNat
  code == 0x0A || code == 0x0D || code == 0x85 || code == 0x2028 || code == 0x2029

def isGap (character : Char) : Bool :=
  character == ' ' || character == '\t'

def isNameCharacter (character : Char) : Bool :=
  character.isAlphanum || character == '_' || character == '-'

/-- A place in a file. -/
structure Cursor where
  rest : List Char
  index : Nat
  line : Nat
  column : Nat

namespace Cursor

def start (text : List Char) : Cursor := ⟨text, 0, 0, 0⟩

/-- The character some way on. -/
def peekAt (cursor : Cursor) (distance : Nat) : Option Char :=
  (cursor.rest.drop distance).head?

def peek (cursor : Cursor) : Option Char :=
  cursor.rest.head?

def sees (cursor : Cursor) (character : Char) : Bool :=
  cursor.peek == some character

/-- Whether the character some way on satisfies a test; at the end it does as
told. -/
def test (cursor : Cursor) (distance : Nat) (atEnd : Bool) (holds : Char → Bool) : Bool :=
  match cursor.peekAt distance with
  | some character => holds character
  | none => atEnd

/-- Whether a space or a tab stands at the place. -/
def isAtGap (cursor : Cursor) : Bool :=
  cursor.test 0 false isGap

/-- Whether a line ends at the place. -/
def isAtBreak (cursor : Cursor) : Bool :=
  cursor.test 0 false isBreak

def isAtLineEnd (cursor : Cursor) : Bool :=
  cursor.test 0 true isBreak

/-- Whether a gap, a line end or the end of the file stands some way on. -/
def isBlankAt (cursor : Cursor) (distance : Nat) : Bool :=
  cursor.test distance true fun character => isGap character || isBreak character

def isAtEnd (cursor : Cursor) : Bool :=
  cursor.rest.isEmpty

/-- The place after some characters of the same line. -/
def skip (cursor : Cursor) (count : Nat) : Cursor :=
  ⟨cursor.rest.drop count, cursor.index + count, cursor.line, cursor.column + count⟩

/-- The place after a line end, with the line end as it is read. -/
def takeBreak (cursor : Cursor) : List Char × Cursor :=
  match cursor.rest with
  | '\r' :: '\n' :: rest => (['\n'], ⟨rest, cursor.index + 2, cursor.line + 1, 0⟩)
  | character :: rest =>
      if isBreak character then
        let read := if 0x2028 ≤ character.toNat then character else '\n'
        ([read], ⟨rest, cursor.index + 1, cursor.line + 1, 0⟩)
      else ([], cursor)
  | [] => ([], cursor)

/-- The place after a line end, if one is there. -/
def skipBreak (cursor : Cursor) : Cursor :=
  cursor.takeBreak.2

/-- The place after all characters that satisfy a test, none of them a line
end, with those characters. -/
def takeWhile (cursor : Cursor) (holds : Char → Bool) : List Char × Cursor :=
  let taken := cursor.rest.takeWhile holds
  (taken, cursor.skip taken.length)

/-- The place after all characters that satisfy a test. -/
def skipWhile (cursor : Cursor) (holds : Char → Bool) : Cursor :=
  (cursor.takeWhile holds).2

def skipComment (cursor : Cursor) : Cursor :=
  if cursor.sees '#' then cursor.skipWhile fun character => !isBreak character else cursor

/-- Whether a mark of three characters stands alone at the start of a line. -/
def isAtMark (cursor : Cursor) (character : Char) : Bool :=
  cursor.column == 0 && cursor.rest.take 3 == [character, character, character] &&
    cursor.isBlankAt 3

/-- Whether a document starts or ends at the place. -/
def isAtDocumentMark (cursor : Cursor) : Bool :=
  cursor.isAtMark '-' || cursor.isAtMark '.'

/-- Go on to the end of the line, past a comment; nothing else may be there. -/
def finishLine? (cursor : Cursor) : Option Cursor :=
  let after := (cursor.skipWhile isGap).skipComment
  if after.isAtLineEnd then some after.skipBreak else none

end Cursor

end PolicyWatch.Yaml
