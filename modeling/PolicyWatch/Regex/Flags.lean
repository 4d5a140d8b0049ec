import PolicyWatch.Text.Basic
import PolicyWatch.Unicode.CaseFolding
import PolicyWatch.Unicode.Property
import PolicyWatch.Regex.Basic

/-!
# Flags of regular expressions

Flags change how the characters after them are read, up to the end of their
group.
-/

namespace PolicyWatch.Regex

/-- The flags in force at a place of a pattern. -/
structure Flags where
  ignoreCase : Bool
  multiLine : Bool
  dotMatchesLineFeed : Bool
  unicode : Bool
  carriageReturn : Bool
  verbose : Bool
  deriving DecidableEq, Repr

namespace Flags

def initial (ignoreCase : Bool) : Flags :=
  ⟨ignoreCase, false, false, true, false, false⟩

/-- Set or clear the flag with a letter.  The flag `U` swaps which repetitions
prefer few rounds; which texts match does not depend on it. -/
def put? (flags : Flags) (letter : Char) (value : Bool) : Option Flags :=
  match letter with
  | 'i' => some { flags with ignoreCase := value }
  | 'm' => some { flags with multiLine := value }
  | 's' => some { flags with dotMatchesLineFeed := value }
  | 'u' => some { flags with unicode := value }
  | 'R' => some { flags with carriageReturn := value }
  | 'x' => some { flags with verbose := value }
  | 'U' => some flags
  | _ => none

/-- Close a set under case where case is ignored. -/
def fold (flags : Flags) (set : CharSet) : CharSet :=
  if flags.ignoreCase then
    if flags.unicode then Unicode.foldCase set else Unicode.foldBasicCase set
  else set

/-- Whether a set may stand where only whole characters may match: without the
`u` flag it must stay within the first 128 characters. -/
def admits (flags : Flags) (set : CharSet) : Bool :=
  flags.unicode || set.isWithin 0x7F

/-- Fold a set and take its complement if asked. -/
def foldAndNegate? (flags : Flags) (negated : Bool) (set : CharSet) : Option CharSet :=
  let folded := flags.fold set
  let chosen := if negated then folded.complement else folded
  if flags.admits chosen then some chosen else none

def literal (flags : Flags) (character : Char) : Regex :=
  .chars (flags.fold (CharSet.singleton character))

/-- The expression for a dot; without the `u` flag it could match part of a
character and is refused. -/
def dot? (flags : Flags) : Option Regex :=
  if flags.unicode then
    if flags.dotMatchesLineFeed then some (.chars CharSet.full)
    else if flags.carriageReturn then
      some (.chars (CharSet.ofRanges [(0x0A, 0x0A), (0x0D, 0x0D)]).complement)
    else some (.chars (CharSet.range 0x0A 0x0A).complement)
  else none

def caret (flags : Flags) : Anchor :=
  if flags.multiLine then .lineStart flags.carriageReturn else .textStart

def dollar (flags : Flags) : Anchor :=
  if flags.multiLine then .lineEnd flags.carriageReturn else .textEnd

/-- The set of a one-letter class such as `d`, and of its complement such as
`D`. -/
def shorthand? (flags : Flags) (letter : Char) : Option CharSet :=
  let digits := if flags.unicode then Unicode.digitSet else CharSet.range 0x30 0x39
  let blanks :=
    if flags.unicode then Unicode.blankSet
    else CharSet.ofRanges [(0x09, 0x0D), (0x20, 0x20)]
  let words := if flags.unicode then Unicode.wordSet else basicWordSet
  let chosen? :=
    match letter with
    | 'd' => some digits
    | 's' => some blanks
    | 'w' => some words
    | 'D' => some digits.complement
    | 'S' => some blanks.complement
    | 'W' => some words.complement
    | _ => none
  chosen?.filter flags.admits

/-- Drop blanks and comments, which a verbose pattern may hold anywhere. -/
def skipComments : Bool → List Char → List Char
  | _, [] => []
  | true, character :: rest => skipComments (character != '\n') rest
  | false, character :: rest =>
      if Text.isBlank character then skipComments false rest
      else if character = '#' then skipComments true rest
      else character :: rest

/-- Drop what the flags make insignificant. -/
def skip (flags : Flags) (text : List Char) : List Char :=
  if flags.verbose then skipComments false text else text

/-- Look past blanks and one comment mark for the next character. -/
def peekPast : Bool → List Char → Option Char
  | _, [] => none
  | comment, character :: rest =>
      if Text.isBlank character then peekPast comment rest
      else if !comment && character == '#' then peekPast true rest
      else some character

/-- The next character that counts in a class.  Where nothing but blanks is
left, that is the next blank. -/
def peek (flags : Flags) (text : List Char) : Option Char :=
  if flags.verbose then (peekPast false text).or text.head? else text.head?

end Flags

/-- Read flags up to the `:` or `)` behind them.  A flag may be named once,
`-` starts the flags to clear, may come once and not last. -/
def readFlags : Flags → List Char → Bool → List Char → Option (Flags × Bool × List Char)
  | flags, seen, dangling, ':' :: rest =>
      if dangling then none else some (flags, seen.isEmpty, ':' :: rest)
  | flags, seen, dangling, ')' :: rest =>
      if dangling then none else some (flags, seen.isEmpty, ')' :: rest)
  | _, _, _, [] => none
  | flags, seen, _, letter :: rest =>
      if seen.contains letter then none
      else if letter = '-' then readFlags flags ('-' :: seen) true rest
      else
        match flags.put? letter (!seen.contains '-') with
        | some changed => readFlags changed (letter :: seen) false rest
        | none => none

end PolicyWatch.Regex
