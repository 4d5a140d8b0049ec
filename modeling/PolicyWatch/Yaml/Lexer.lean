import PolicyWatch.Yaml.BlockScalar
import PolicyWatch.Yaml.FlowScalar
import PolicyWatch.Yaml.Property

/-!
# The tokens of a file

Blocks start and end with the column of their first token.  That a node is a key
shows only at the colon after it, so tokens for a key are put in front of the
node afterwards; a key without a sign of its own stands on one line and is not
long.
-/

namespace PolicyWatch.Yaml

/-- A node that may turn out to be a key: the number of tokens before it, and
its place.  Where a key is needed it must turn out to be one. -/
structure KeyCandidate where
  isNeeded : Bool
  tokensBefore : Nat
  index : Nat
  line : Nat
  column : Nat

/-- The greatest distance between a key and its colon. -/
def greatestKeyLength : Nat := 1024

/-- What has been read of a file: the tokens, newest first, and their number;
the columns of the open blocks, innermost first; and the candidate at each level
of flow collections, innermost first. -/
structure Lexer where
  cursor : Cursor
  tokens : List Token
  count : Nat
  blocks : List Nat
  candidates : List (Option KeyCandidate)
  /-- Whether a key may start at the place. -/
  mayStartKey : Bool

namespace Lexer

def start (text : List Char) : Lexer :=
  ⟨Cursor.start text, [], 0, [], [none], true⟩

/-- Whether the place is inside a flow collection. -/
def isFlow (lexer : Lexer) : Bool :=
  1 < lexer.candidates.length

/-- The least column of what is inside the innermost block. -/
def leastColumn (lexer : Lexer) : Nat :=
  match lexer.blocks with
  | column :: _ => column + 1
  | [] => 0

def push (lexer : Lexer) (token : Token) : Lexer :=
  { lexer with tokens := token :: lexer.tokens, count := lexer.count + 1 }

def insertAt (lexer : Lexer) (tokensBefore : Nat) (added : List Token) : Lexer :=
  let after := lexer.count - tokensBefore
  { lexer with
    tokens := lexer.tokens.take after ++ added.reverse ++ lexer.tokens.drop after
    count := lexer.count + added.length }

def goTo (lexer : Lexer) (cursor : Cursor) : Lexer :=
  { lexer with cursor }

def allowKey (lexer : Lexer) (mayStartKey : Bool) : Lexer :=
  { lexer with mayStartKey }

/-- Whether a candidate is too far away to be a key. -/
def isStale (cursor : Cursor) (candidate : KeyCandidate) : Bool :=
  candidate.line < cursor.line || candidate.index + greatestKeyLength < cursor.index

def giveUp? : Option KeyCandidate → Option (Option KeyCandidate)
  | some candidate => if candidate.isNeeded then none else some none
  | none => some none

/-- Give up the candidates that are too far away. -/
def giveUpStale? (cursor : Cursor) :
    List (Option KeyCandidate) → Option (List (Option KeyCandidate))
  | [] => some []
  | first :: rest => do
      let kept ← if first.any (isStale cursor) then giveUp? first else some first
      let others ← giveUpStale? cursor rest
      return kept :: others

def dropCandidate? (lexer : Lexer) : Option Lexer :=
  match lexer.candidates with
  | first :: rest => (giveUp? first).map fun dropped =>
      { lexer with candidates := dropped :: rest }
  | [] => some lexer

/-- Note a candidate at the place, if a key may start there. -/
def noteCandidate? (lexer : Lexer) : Option Lexer :=
  if lexer.mayStartKey then do
    let cleared ← lexer.dropCandidate?
    let isNeeded := !lexer.isFlow && lexer.blocks.head? == some lexer.cursor.column
    let candidate : KeyCandidate :=
      ⟨isNeeded, lexer.count, lexer.cursor.index, lexer.cursor.line, lexer.cursor.column⟩
    return { cleared with candidates := some candidate :: cleared.candidates.tail }
  else some lexer

/-- Whether a block that starts at a column lies inside the innermost one. -/
def opensBlock (lexer : Lexer) (column : Nat) : Bool :=
  !lexer.isFlow && lexer.leastColumn ≤ column

/-- Open a block at the place, if there is none at that column. -/
def openBlock (lexer : Lexer) (token : Token) : Lexer :=
  let column := lexer.cursor.column
  if lexer.opensBlock column then { lexer.push token with blocks := column :: lexer.blocks }
  else lexer

def closeBlocks (leastColumn : Nat) : List Nat → Lexer → Lexer
  | column :: rest, lexer =>
      if leastColumn < column then
        closeBlocks leastColumn rest { lexer.push .blockEnd with blocks := rest }
      else lexer
  | [], lexer => lexer

def closeAll : List Nat → Lexer → Lexer
  | _ :: rest, lexer => closeAll rest { lexer.push .blockEnd with blocks := rest }
  | [], lexer => lexer

/-- Close the blocks that the place lies left of. -/
def unwind (lexer : Lexer) : Lexer :=
  if lexer.isFlow then lexer else closeBlocks lexer.cursor.column lexer.blocks lexer

/-- Close all blocks, as a document starts or ends. -/
def unwindAll (lexer : Lexer) : Lexer :=
  if lexer.isFlow then lexer else closeAll lexer.blocks lexer

/-! ## Between tokens -/

/-- Skip blanks, comments and line ends.  A tab counts as a blank only where no
key may start or inside flow collections. -/
def skipGaps : Nat → Lexer → Lexer
  | 0, lexer => lexer
  | fuel + 1, lexer =>
      let cursor :=
        if lexer.cursor.index = 0 ∧ lexer.cursor.sees '\ufeff' then lexer.cursor.skip 1
        else lexer.cursor
      let allowsTab := lexer.isFlow || !lexer.mayStartKey
      let after := (cursor.skipWhile fun character =>
        character == ' ' || (allowsTab && character == '\t')).skipComment
      if after.isAtBreak then
        skipGaps fuel
          ((lexer.goTo after.skipBreak).allowKey (!lexer.isFlow || lexer.mayStartKey))
      else lexer.goTo after

/-! ## Tokens -/

def readDocumentMark? (lexer : Lexer) (token : Token) : Option Lexer := do
  let closed ← lexer.unwindAll.dropCandidate?
  return ((closed.goTo (closed.cursor.skip 3)).push token).allowKey false

def readDirectiveLine? (lexer : Lexer) : Option Lexer := do
  let closed ← lexer.unwindAll.dropCandidate?
  let (token, after) ← readDirective? (closed.cursor.skip 1)
  return ((closed.goTo after).push token).allowKey false

def openFlow? (lexer : Lexer) (token : Token) : Option Lexer := do
  let noted ← lexer.noteCandidate?
  let opened := { noted with candidates := none :: noted.candidates }
  return ((opened.goTo (opened.cursor.skip 1)).push token).allowKey true

def closeFlow? (lexer : Lexer) (token : Token) : Option Lexer := do
  let dropped ← lexer.dropCandidate?
  let closed :=
    if dropped.isFlow then { dropped with candidates := dropped.candidates.tail } else dropped
  return ((closed.goTo (closed.cursor.skip 1)).push token).allowKey false

/-- The comma between entries of a flow collection. -/
def readFlowEntry? (lexer : Lexer) : Option Lexer := do
  let dropped ← lexer.dropCandidate?
  return ((dropped.goTo (dropped.cursor.skip 1)).push .flowEntry).allowKey true

/-- The dash before an entry of a block sequence. -/
def readBlockEntry? (lexer : Lexer) : Option Lexer :=
  if lexer.isFlow || lexer.mayStartKey then do
    let dropped ← (lexer.openBlock .blockSequenceStart).dropCandidate?
    return ((dropped.goTo (dropped.cursor.skip 1)).push .blockEntry).allowKey true
  else none

def readKey? (lexer : Lexer) : Option Lexer :=
  if lexer.isFlow || lexer.mayStartKey then do
    let dropped ← (lexer.openBlock .blockMappingStart).dropCandidate?
    return ((dropped.goTo (dropped.cursor.skip 1)).push .key).allowKey !lexer.isFlow
  else none

/-- The colon before a value.  If a candidate is there, it is a key. -/
def readValue? (lexer : Lexer) : Option Lexer :=
  match lexer.candidates with
  | some candidate :: rest =>
      let opens := lexer.opensBlock candidate.column
      let keyed := lexer.insertAt candidate.tokensBefore
        (if opens then [.blockMappingStart, .key] else [.key])
      let settled := { keyed with
        candidates := none :: rest
        blocks := if opens then candidate.column :: keyed.blocks else keyed.blocks }
      some (((settled.goTo (settled.cursor.skip 1)).push .value).allowKey false)
  | _ =>
      if lexer.isFlow || lexer.mayStartKey then
        let opened := lexer.openBlock .blockMappingStart
        some (((opened.goTo (opened.cursor.skip 1)).push .value).allowKey !lexer.isFlow)
      else none

def readAnchor? (lexer : Lexer) (token : String → Token) : Option Lexer := do
  let noted ← lexer.noteCandidate?
  let (name, after) ← readAnchorName? (noted.cursor.skip 1)
  return ((noted.goTo after).push (token name)).allowKey false

def readTagToken? (lexer : Lexer) : Option Lexer := do
  let noted ← lexer.noteCandidate?
  let (token, after) ← readTag? noted.isFlow noted.cursor
  return ((noted.goTo after).push token).allowKey false

def readBlockScalar? (lexer : Lexer) (isLiteral : Bool) : Option Lexer := do
  let dropped ← lexer.dropCandidate?
  let (text, after) ← readBlock? isLiteral dropped.leastColumn (dropped.cursor.skip 1)
  let token := Token.scalar (String.ofList text) (if isLiteral then .literal else .folded)
  return ((dropped.goTo after).push token).allowKey true

def readQuotedScalar? (lexer : Lexer) (isSingle : Bool) : Option Lexer := do
  let noted ← lexer.noteCandidate?
  let inside := noted.cursor.skip 1
  let (text, after) ← readQuoted? isSingle (inside.rest.length + 1) [] inside
  let style := if isSingle then ScalarStyle.singleQuoted else .doubleQuoted
  return ((noted.goTo after).push (.scalar (String.ofList text) style)).allowKey false

def readPlainScalar? (lexer : Lexer) : Option Lexer := do
  let noted ← lexer.noteCandidate?
  let (read, after) ← readPlain? noted.isFlow noted.leastColumn (noted.cursor.rest.length + 1) []
    WordGap.none noted.cursor
  return ((noted.goTo after).push (.scalar (String.ofList read.text) .plain)).allowKey
    read.endsLine

def startsPlain (lexer : Lexer) : Bool :=
  let cursor := lexer.cursor
  let isSign := cursor.test 0 false fun character =>
    "-?:,[]\x7b\x7d#&*!|>'\"%@\x60".toList.contains character
  (!cursor.isBlankAt 0 && !isSign) ||
    (cursor.sees '-' && !cursor.test 1 false isGap) ||
    (!lexer.isFlow && (cursor.sees '?' || cursor.sees ':') && !cursor.isBlankAt 1)

/-- Read the token at the place, where one starts. -/
def readToken? (lexer : Lexer) : Option Lexer :=
  let cursor := lexer.cursor
  let isSignAlone (sign : Char) : Bool :=
    cursor.sees sign && (lexer.isFlow || cursor.isBlankAt 1)
  if cursor.column == 0 && cursor.sees '%' then lexer.readDirectiveLine?
  else if cursor.isAtMark '-' then lexer.readDocumentMark? .documentStart
  else if cursor.isAtMark '.' then lexer.readDocumentMark? .documentEnd
  else if cursor.sees '[' then lexer.openFlow? .flowSequenceStart
  else if cursor.sees '\x7b' then lexer.openFlow? .flowMappingStart
  else if cursor.sees ']' then lexer.closeFlow? .flowSequenceEnd
  else if cursor.sees '\x7d' then lexer.closeFlow? .flowMappingEnd
  else if cursor.sees ',' then lexer.readFlowEntry?
  else if cursor.sees '-' && cursor.isBlankAt 1 then lexer.readBlockEntry?
  else if isSignAlone '?' then lexer.readKey?
  else if isSignAlone ':' then lexer.readValue?
  else if cursor.sees '*' then lexer.readAnchor? .alias
  else if cursor.sees '&' then lexer.readAnchor? .anchor
  else if cursor.sees '!' then lexer.readTagToken?
  else if cursor.sees '|' && !lexer.isFlow then lexer.readBlockScalar? true
  else if cursor.sees '>' && !lexer.isFlow then lexer.readBlockScalar? false
  else if cursor.sees '\'' then lexer.readQuotedScalar? true
  else if cursor.sees '"' then lexer.readQuotedScalar? false
  else if lexer.startsPlain then lexer.readPlainScalar?
  else none

/-- Read tokens to the end of the file. -/
def run? : Nat → Lexer → Option (List Token)
  | 0, _ => none
  | fuel + 1, lexer =>
      let reached := skipGaps (lexer.cursor.rest.length + 1) lexer
      match giveUpStale? reached.cursor reached.candidates with
      | none => none
      | some candidates =>
          let ready := { reached with candidates }.unwind
          if ready.cursor.isAtEnd then
            ready.unwindAll.dropCandidate?.map fun final => final.tokens.reverse
          else
            match ready.readToken? with
            | some next => run? fuel next
            | none => none

end Lexer

def tokensOf? (text : List Char) : Option (List Token) :=
  if text.all isAllowed then (Lexer.start text).run? (text.length + 1) else none

end PolicyWatch.Yaml
