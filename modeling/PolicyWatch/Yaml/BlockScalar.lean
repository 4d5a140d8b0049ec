import PolicyWatch.Yaml.Cursor

/-!
# Block scalars

A block scalar is a header and the lines below it, as far as they are indented.
A literal one keeps its line ends; a folded one reads one line end between two
lines that start with text as a space.
-/

namespace PolicyWatch.Yaml

/-- Which line ends after the last line of text are kept. -/
inductive Chomping where
  | strip
  | clip
  | keep
  deriving DecidableEq, Repr

/-- What the header of a block scalar asks for. -/
structure BlockHeader where
  chomping : Chomping
  indentation : Option Nat

def chompingOf? : Option Char → Option Chomping
  | some '+' => some .keep
  | some '-' => some .strip
  | _ => none

/-- Read the indentation that a digit asks for, if a digit is there; the zero is
refused. -/
def readIndentation? (cursor : Cursor) : Option (Option Nat × Cursor) :=
  match cursor.peek.bind (Text.digitValue? 10) with
  | some 0 => none
  | some digit => some (some digit, cursor.skip 1)
  | none => some (none, cursor)

/-- Read a header: a sign and a digit in either order. -/
def readBlockHeader? (cursor : Cursor) : Option (BlockHeader × Cursor) :=
  match chompingOf? cursor.peek with
  | some chomping =>
      (readIndentation? (cursor.skip 1)).map fun (indentation, after) =>
        (⟨chomping, indentation⟩, after)
  | none =>
      match readIndentation? cursor with
      | none => none
      | some (none, after) => some (⟨.clip, none⟩, after)
      | some (some digit, after) =>
          match chompingOf? after.peek with
          | some chomping => some (⟨chomping, some digit⟩, after.skip 1)
          | none => some (⟨.clip, some digit⟩, after)

def skipIndentation (column : Option Nat) (cursor : Cursor) : Cursor :=
  let spaces := (cursor.rest.takeWhile (· == ' ')).length
  match column with
  | some column => cursor.skip (min spaces (column - cursor.column))
  | none => cursor.skip spaces

/-- Whether a place lies left of a column; it does if no column is set. -/
def isLeftOf (column : Option Nat) (cursor : Cursor) : Bool :=
  column.all fun column => cursor.column < column

/-- Read empty lines, and find the column at which the first line with text
starts; the greatest column met is reported.  A tab in the indentation is
refused. -/
def readEmptyLines? (column : Option Nat) :
    Nat → Nat → List Char → Cursor → Option (List Char × Nat × Cursor)
  | 0, greatest, breaks, cursor => some (breaks, greatest, cursor)
  | fuel + 1, greatest, breaks, cursor =>
      let inner := skipIndentation column cursor
      let reached := max greatest inner.column
      if isLeftOf column inner && inner.sees '\t' then none
      else if inner.isAtBreak then
        let (read, after) := inner.takeBreak
        readEmptyLines? column fuel reached (breaks ++ read) after
      else some (breaks, reached, inner)

/-- What has been read of a block scalar: the text, newest first, the end of the
last line and the empty lines after it. -/
structure BlockReading where
  text : List Char
  lastBreak : List Char
  emptyLines : List Char
  /-- Whether the last line starts with a blank. -/
  wasIndented : Bool

namespace BlockReading

/-- What the line ends before the next line are read as. -/
def separator (reading : BlockReading) (isLiteral isIndented : Bool) : List Char :=
  if !isLiteral && reading.lastBreak == ['\n'] && !reading.wasIndented && !isIndented then
    if reading.emptyLines.isEmpty then [' '] else reading.emptyLines
  else reading.lastBreak ++ reading.emptyLines

def finish (reading : BlockReading) (chomping : Chomping) : List Char :=
  let body := reading.text.reverse
  match chomping with
  | .strip => body
  | .clip => body ++ reading.lastBreak
  | .keep => body ++ reading.lastBreak ++ reading.emptyLines

end BlockReading

def readBlockLines? (isLiteral : Bool) (column : Nat) :
    Nat → BlockReading → Cursor → Option (BlockReading × Cursor)
  | 0, reading, cursor => some (reading, cursor)
  | fuel + 1, reading, cursor =>
      if cursor.column == column && !cursor.isAtEnd then
        let isIndented := cursor.isAtGap
        let (line, after) := cursor.takeWhile fun character => !isBreak character
        let text := line.reverse ++ (reading.separator isLiteral isIndented).reverse ++ reading.text
        let (lastBreak, next) := after.takeBreak
        match readEmptyLines? (some column) next.rest.length 0 [] next with
        | none => none
        | some (emptyLines, _, later) =>
            readBlockLines? isLiteral column fuel ⟨text, lastBreak, emptyLines, isIndented⟩ later
      else some (reading, cursor)

/-- Read a block scalar after its sign, given the column that it must at least
be indented to. -/
def readBlock? (isLiteral : Bool) (leastColumn : Nat) (cursor : Cursor) :
    Option (List Char × Cursor) :=
  match readBlockHeader? cursor with
  | none => none
  | some (header, after) =>
      match after.finishLine? with
      | none => none
      | some body =>
          let asked := header.indentation.map fun indentation => leastColumn - 1 + indentation
          match readEmptyLines? asked (body.rest.length + 1) 0 [] body with
          | none => none
          | some (emptyLines, reached, first) =>
              let column := asked.getD (max (max reached leastColumn) 1)
              (readBlockLines? isLiteral column (first.rest.length + 1)
                ⟨[], [], emptyLines, false⟩ first).map fun (reading, later) =>
                  (reading.finish header.chomping, later)

end PolicyWatch.Yaml
