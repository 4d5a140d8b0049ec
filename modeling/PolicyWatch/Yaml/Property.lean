import PolicyWatch.Yaml.Basic
import PolicyWatch.Yaml.Cursor

/-!
# Anchors, tags and directives

What may be said of a node before the node itself, and of a document before the
document itself.
-/

namespace PolicyWatch.Yaml

/-! ## Anchors -/

def endsAnchor (character : Char) : Bool :=
  isGap character || isBreak character || "?:,]\x7d%@\x60".toList.contains character

/-- Read the name of an anchor or an alias after its sign. -/
def readAnchorName? (cursor : Cursor) : Option (String × Cursor) :=
  let (name, after) := cursor.takeWhile isNameCharacter
  if !name.isEmpty && after.test 0 true endsAnchor then some (String.ofList name, after) else none

/-! ## Tags -/

/-- Whether a character may stand in a tag; some may only between angles. -/
def isTagCharacter (isVerbatim : Bool) (character : Char) : Bool :=
  isNameCharacter character || ";/?:@&=+$.%!~*'()".toList.contains character ||
    (isVerbatim && ",[]".toList.contains character)

/-- Read a byte written as a percent sign and two digits. -/
def readByte? : List Char → Option (Nat × List Char)
  | '%' :: first :: second :: rest =>
      (Text.digitsValue? 16 [first, second]).map fun value => (value, rest)
  | _ => none

/-- The number of bytes that a first byte announces, and its share of the code. -/
def byteLead? (byte : Nat) : Option (Nat × Nat) :=
  if byte < 0x80 then some (0, byte)
  else if 0xC0 ≤ byte ∧ byte < 0xE0 then some (1, byte - 0xC0)
  else if 0xE0 ≤ byte ∧ byte < 0xF0 then some (2, byte - 0xE0)
  else if 0xF0 ≤ byte ∧ byte < 0xF8 then some (3, byte - 0xF0)
  else none

/-- Read the further bytes of a character. -/
def readTrail? : Nat → Nat → List Char → Option (Nat × List Char)
  | 0, code, text => some (code, text)
  | count + 1, code, text =>
      match readByte? text with
      | some (byte, rest) =>
          if 0x80 ≤ byte ∧ byte < 0xC0 then readTrail? count (code * 0x40 + (byte - 0x80)) rest
          else none
      | none => none

def readByteCharacter? (text : List Char) : Option (Char × List Char) := do
  let (byte, rest) ← readByte? text
  let (count, share) ← byteLead? byte
  let (code, rest) ← readTrail? count share rest
  return (Char.ofNat code, rest)

def readTagCharacters? (isVerbatim : Bool) :
    Nat → List Char → Cursor → Option (List Char × Cursor)
  | 0, read, cursor => some (read, cursor)
  | fuel + 1, read, cursor =>
      if cursor.test 0 false (isTagCharacter isVerbatim) then
        if cursor.sees '%' then
          match readByteCharacter? cursor.rest with
          | some (character, rest) =>
              readTagCharacters? isVerbatim fuel (character :: read)
                (cursor.skip (cursor.rest.length - rest.length))
          | none => none
        else readTagCharacters? isVerbatim fuel (cursor.rest.take 1 ++ read) (cursor.skip 1)
      else some (read, cursor)

/-- Read the rest of a tag, of which some characters may have been read. -/
def readTagText? (isVerbatim : Bool) (read : List Char) (cursor : Cursor) :
    Option (List Char × Cursor) :=
  (readTagCharacters? isVerbatim cursor.rest.length read.reverse cursor).map
    fun (read, after) => (read.reverse, after)

/-- Read a handle: an exclamation mark, a name and perhaps a second mark. -/
def readHandle? (cursor : Cursor) : Option (List Char × Cursor) :=
  if cursor.sees '!' then
    let (name, after) := (cursor.skip 1).takeWhile isNameCharacter
    if after.sees '!' then some ('!' :: name ++ ['!'], after.skip 1) else some ('!' :: name, after)
  else none

/-- Read a tag as its handle and its suffix, without regard to what follows. -/
def readTagParts? (cursor : Cursor) : Option (List Char × List Char × Cursor) :=
  if cursor.peekAt 1 = some '<' then do
    let (suffix, after) ← readTagText? true [] (cursor.skip 2)
    if !suffix.isEmpty && after.sees '>' then some ([], suffix, after.skip 1) else none
  else do
    let (handle, after) ← readHandle? cursor
    if 1 < handle.length && handle.getLast? = some '!' then
      let (suffix, later) ← readTagText? false [] after
      if suffix.isEmpty then none else some (handle, suffix, later)
    else
      let (suffix, later) ← readTagText? false handle.tail after
      if suffix.isEmpty then some ([], ['!'], later) else some (['!'], suffix, later)

/-- Read a tag.  A blank follows it or, in a flow collection, a comma. -/
def readTag? (isFlow : Bool) (cursor : Cursor) : Option (Token × Cursor) := do
  let (handle, suffix, after) ← readTagParts? cursor
  if after.isBlankAt 0 || (isFlow && after.sees ',') then
    some (.tag (String.ofList handle) (String.ofList suffix), after)
  else none

/-! ## Directives -/

/-- Read a number of a version: at most nine digits. -/
def readVersionNumber? (cursor : Cursor) : Option (Nat × Cursor) :=
  let (digits, after) := cursor.takeWhile Char.isDigit
  if digits.isEmpty || 9 < digits.length then none
  else (Text.digitsValue? 10 digits).map fun value => (value, after)

def readVersion? (cursor : Cursor) : Option (Token × Cursor) := do
  let (major, after) ← readVersionNumber? (cursor.skipWhile isGap)
  if after.sees '.' then
    let (minor, later) ← readVersionNumber? (after.skip 1)
    some (.versionDirective major minor, later)
  else none

/-- Read the handle that a directive declares and what it stands for. -/
def readTagDeclaration? (cursor : Cursor) : Option (Token × Cursor) := do
  let (handle, after) ← readHandle? (cursor.skipWhile isGap)
  if (handle.length = 1 || handle.getLast? = some '!') && after.isAtGap then
    let (front, later) ← readTagText? true [] (after.skipWhile isGap)
    if !front.isEmpty && later.isBlankAt 0 then
      some (.tagDirective (String.ofList handle) (String.ofList front), later)
    else none
  else none

/-- Read a directive after its sign, past the end of its line. -/
def readDirective? (cursor : Cursor) : Option (Token × Cursor) := do
  let (name, after) := cursor.takeWhile isNameCharacter
  if after.isBlankAt 0 then
    let (token, later) ←
      if name = "YAML".toList then readVersion? after
      else if name = "TAG".toList then readTagDeclaration? after
      else none
    return (token, ← later.finishLine?)
  else none

end PolicyWatch.Yaml
