import PolicyWatch.Yaml.Lexer

/-!
# The nodes of a file

A file holds one document, or nothing.  An alias stands for the node that holds
its slot when all is read: an anchor takes the slot numbered by how many names
there are before it, so that after a name is used again a later anchor may take
over a slot.
-/

namespace PolicyWatch.Yaml

/-- The anchors met so far: the slot of each name, the turn that holds each slot,
and the nodes anchored at each turn, newest first. -/
structure Anchors where
  slots : List (String × Nat)
  turns : List (Nat × Nat)
  nodes : List (Nat × Node)
  nextTurn : Nat

namespace Anchors

def empty : Anchors := ⟨[], [], [], 0⟩

/-- Give a name a slot, for the node that starts now. -/
def add (anchors : Anchors) (name : String) : Anchors :=
  let slot := anchors.slots.length
  { anchors with
    slots := (name, slot) :: anchors.slots.filter fun entry => entry.1 != name
    turns := (slot, anchors.nextTurn) :: anchors.turns
    nextTurn := anchors.nextTurn + 1 }

def add? (anchors : Anchors) : Option String → Anchors
  | some name => anchors.add name
  | none => anchors

def keep (anchors : Anchors) (turn : Nat) (node : Node) : Anchors :=
  { anchors with nodes := (turn, node) :: anchors.nodes }

def keep? (anchors : Anchors) (name : Option String) (turn : Nat) (node : Node) : Anchors :=
  if name.isSome then anchors.keep turn node else anchors

/-- The node that an alias stands for; any other node stands for itself. -/
def resolve (anchors : Anchors) (node : Node) : Node :=
  match node with
  | .alias slot =>
      ((anchors.turns.lookup slot).bind fun turn => anchors.nodes.lookup turn).getD Node.empty
  | other => other

end Anchors

/-- What may be said of a node before it. -/
structure Properties where
  anchor : Option String
  tag : Option String

/-- What has not been read, with the anchors met so far. -/
structure Remainder where
  tokens : List Token
  anchors : Anchors

def expandTag? (handles : List (String × String)) (handle suffix : String) : Option String :=
  if handle = "" then some suffix else (handles.lookup handle).map (· ++ suffix)

/-- Read the anchor and the tag before a node, in either order. -/
def readProperties? (handles : List (String × String)) :
    List Token → Option (Properties × List Token)
  | .anchor name :: .tag handle suffix :: rest =>
      (expandTag? handles handle suffix).map fun tag => (⟨some name, some tag⟩, rest)
  | .tag handle suffix :: .anchor name :: rest =>
      (expandTag? handles handle suffix).map fun tag => (⟨some name, some tag⟩, rest)
  | .anchor name :: rest => some (⟨some name, none⟩, rest)
  | .tag handle suffix :: rest =>
      (expandTag? handles handle suffix).map fun tag => (⟨none, some tag⟩, rest)
  | tokens => some (⟨none, none⟩, tokens)

/-- Whether a token leaves the place of a node in a block mapping empty. -/
def endsBlockPair : Token → Bool
  | .key | .value | .blockEnd => true
  | _ => false

/-- Whether a token leaves the place of an entry of a sequence empty. -/
def endsEntry (isIndented : Bool) : Token → Bool
  | .blockEntry | .blockEnd => true
  | .key | .value => !isIndented
  | _ => false

/-- Whether a token leaves the place of a node in a flow mapping empty. -/
def endsFlowPair (isKey : Bool) : Token → Bool
  | .value => isKey
  | .flowEntry | .flowMappingEnd => true
  | _ => false

/-- Whether a token leaves the place of a node of a pair in a flow sequence
empty. -/
def endsFlowEntryPair (isKey : Bool) : Token → Bool
  | .value => isKey
  | .flowEntry | .flowSequenceEnd => true
  | _ => false

/-- The next token satisfies a test; the end of the file never does. -/
def nextIs (tokens : List Token) (holds : Token → Bool) : Bool :=
  tokens.head?.any holds

/-- The place of a node in the file, which bounds what it may be. -/
inductive NodePlace where
  | flow
  | block
  /-- In a block mapping, where a sequence need not be indented. -/
  | blockPair
  deriving DecidableEq, Repr

/-- The tag of a scalar; the bare exclamation mark is no tag. -/
def scalarTag (tag : Option String) : Option String :=
  tag.filter (· != "!")

section Nodes

variable (handles : List (String × String))

mutual

def readNode? : Nat → NodePlace → Remainder → Option (Node × Remainder)
  | 0, _, _ => none
  | fuel + 1, place, ⟨tokens, anchors⟩ =>
      match tokens with
      | .alias name :: rest =>
          (anchors.slots.lookup name).map fun slot => (.alias slot, ⟨rest, anchors⟩)
      | _ => do
          let (properties, tokens) ← readProperties? handles tokens
          let named := anchors.add? properties.anchor
          let (node, after) ← readBody? fuel place properties ⟨tokens, named⟩
          return (node, { after with
            anchors := after.anchors.keep? properties.anchor anchors.nextTurn node })

def readBody? : Nat → NodePlace → Properties → Remainder → Option (Node × Remainder)
  | 0, _, _, _ => none
  | fuel + 1, place, properties, ⟨tokens, anchors⟩ =>
      match place, tokens with
      | .blockPair, .blockEntry :: _ => do
          let (elements, after) ← readElements? fuel false [] ⟨tokens, anchors⟩
          return (.sequence elements, after)
      | _, .scalar text style :: rest =>
          some (.scalar text style (scalarTag properties.tag), ⟨rest, anchors⟩)
      | _, .flowSequenceStart :: rest => do
          let (elements, after) ← readFlowElements? fuel true [] ⟨rest, anchors⟩
          return (.sequence elements, after)
      | _, .flowMappingStart :: rest => do
          let (pairs, after) ← readFlowPairs? fuel true [] ⟨rest, anchors⟩
          return (.mapping pairs, after)
      | .flow, _ => readAbsent? properties ⟨tokens, anchors⟩
      | _, .blockSequenceStart :: rest => do
          let (elements, after) ← readElements? fuel true [] ⟨rest, anchors⟩
          return (.sequence elements, after)
      | _, .blockMappingStart :: rest => do
          let (pairs, after) ← readPairs? fuel [] ⟨rest, anchors⟩
          return (.mapping pairs, after)
      | _, _ => readAbsent? properties ⟨tokens, anchors⟩

/-- Only a node with properties may be left out where a node is needed. -/
def readAbsent? (properties : Properties) (remainder : Remainder) : Option (Node × Remainder) :=
  if properties.anchor.isSome || properties.tag.isSome then
    some (.scalar "" .plain properties.tag, remainder)
  else none

/-- Read the entries of a block sequence, newest first.  One that is not indented
ends with the first other token. -/
def readElements? :
    Nat → Bool → List Node → Remainder → Option (List Node × Remainder)
  | 0, _, _, _ => none
  | fuel + 1, isIndented, read, ⟨tokens, anchors⟩ =>
      match tokens with
      | .blockEntry :: rest =>
          if nextIs rest (endsEntry isIndented) then
            readElements? fuel isIndented (Node.empty :: read) ⟨rest, anchors⟩
          else do
            let (node, after) ← readNode? fuel .block ⟨rest, anchors⟩
            readElements? fuel isIndented (node :: read) after
      | _ =>
          if isIndented then
            match tokens with
            | .blockEnd :: rest => some (read.reverse, ⟨rest, anchors⟩)
            | _ => none
          else some (read.reverse, ⟨tokens, anchors⟩)

/-- Read the pairs of a block mapping, newest first. -/
def readPairs? :
    Nat → List (Node × Node) → Remainder → Option (List (Node × Node) × Remainder)
  | 0, _, _ => none
  | fuel + 1, read, ⟨tokens, anchors⟩ =>
      match tokens with
      | .key :: rest => do
          let (key, after) ←
            if nextIs rest endsBlockPair then some (Node.empty, ⟨rest, anchors⟩)
            else readNode? fuel .blockPair ⟨rest, anchors⟩
          let (value, later) ← readBlockValue? fuel after
          readPairs? fuel ((key, value) :: read) later
      | .blockEnd :: rest => some (read.reverse, ⟨rest, anchors⟩)
      | _ => none

def readBlockValue? : Nat → Remainder → Option (Node × Remainder)
  | 0, _ => none
  | fuel + 1, ⟨tokens, anchors⟩ =>
      match tokens with
      | .value :: rest =>
          if nextIs rest endsBlockPair then some (Node.empty, ⟨rest, anchors⟩)
          else readNode? fuel .blockPair ⟨rest, anchors⟩
      | _ => some (Node.empty, ⟨tokens, anchors⟩)

/-- Read the entries of a flow sequence, newest first. -/
def readFlowElements? :
    Nat → Bool → List Node → Remainder → Option (List Node × Remainder)
  | 0, _, _, _ => none
  | fuel + 1, isFirst, read, ⟨tokens, anchors⟩ =>
      match tokens with
      | .flowSequenceEnd :: rest => some (read.reverse, ⟨rest, anchors⟩)
      | _ => do
          let entry ←
            match isFirst, tokens with
            | true, _ => some tokens
            | false, .flowEntry :: rest => some rest
            | false, _ => none
          match entry with
          | .flowSequenceEnd :: rest => some (read.reverse, ⟨rest, anchors⟩)
          | .key :: rest =>
              let (pair, after) ← readFlowEntryPair? fuel ⟨rest, anchors⟩
              readFlowElements? fuel false (.mapping [pair] :: read) after
          | _ =>
              let (node, after) ← readNode? fuel .flow ⟨entry, anchors⟩
              readFlowElements? fuel false (node :: read) after

/-- Read a pair that is an entry of a flow sequence, after the sign of its key.
A token that leaves the key empty is passed over. -/
def readFlowEntryPair? : Nat → Remainder → Option ((Node × Node) × Remainder)
  | 0, _ => none
  | fuel + 1, ⟨tokens, anchors⟩ => do
      let (key, after) ←
        if nextIs tokens (endsFlowEntryPair true) then
          some (Node.empty, ⟨tokens.tail, anchors⟩)
        else readNode? fuel .flow ⟨tokens, anchors⟩
      match after.tokens with
      | .value :: rest =>
          if nextIs rest (endsFlowEntryPair false) then
            return ((key, Node.empty), ⟨rest, after.anchors⟩)
          else
            let (value, later) ← readNode? fuel .flow ⟨rest, after.anchors⟩
            return ((key, value), later)
      | _ => return ((key, Node.empty), after)

/-- Read the pairs of a flow mapping, newest first. -/
def readFlowPairs? :
    Nat → Bool → List (Node × Node) → Remainder → Option (List (Node × Node) × Remainder)
  | 0, _, _, _ => none
  | fuel + 1, isFirst, read, ⟨tokens, anchors⟩ =>
      match tokens with
      | .flowMappingEnd :: rest => some (read.reverse, ⟨rest, anchors⟩)
      | _ => do
          let entry ←
            match isFirst, tokens with
            | true, _ => some tokens
            | false, .flowEntry :: rest => some rest
            | false, _ => none
          match entry with
          | .flowMappingEnd :: rest => some (read.reverse, ⟨rest, anchors⟩)
          | .key :: rest =>
              let (key, after) ←
                if nextIs rest (endsFlowPair true) then some (Node.empty, ⟨rest, anchors⟩)
                else readNode? fuel .flow ⟨rest, anchors⟩
              let (value, later) ← readFlowValue? fuel after
              readFlowPairs? fuel false ((key, value) :: read) later
          | _ =>
              let (key, after) ← readNode? fuel .flow ⟨entry, anchors⟩
              readFlowPairs? fuel false ((key, Node.empty) :: read) after

def readFlowValue? : Nat → Remainder → Option (Node × Remainder)
  | 0, _ => none
  | fuel + 1, ⟨tokens, anchors⟩ =>
      match tokens with
      | .value :: rest =>
          if nextIs rest (endsFlowPair false) then some (Node.empty, ⟨rest, anchors⟩)
          else readNode? fuel .flow ⟨rest, anchors⟩
      | _ => some (Node.empty, ⟨tokens, anchors⟩)

end

end Nodes

/-! ## Documents -/

/-- The directives of a document: whether a version was given, and what handles
of tags stand for. -/
structure Directives where
  isVersioned : Bool
  handles : List (String × String)

/-- Read the directives before a document.  A version is given at most once, and
so is a handle. -/
def readDirectives? : Directives → List Token → Option (Directives × List Token)
  | directives, .versionDirective major minor :: rest =>
      if directives.isVersioned || major != 1 || (minor != 1 && minor != 2) then none
      else readDirectives? { directives with isVersioned := true } rest
  | directives, .tagDirective handle front :: rest =>
      if (directives.handles.lookup handle).isSome then none
      else
        readDirectives? { directives with handles := directives.handles ++ [(handle, front)] } rest
  | directives, tokens => some (directives, tokens)

/-- What handles stand for unless a document says otherwise. -/
def commonHandles : List (String × String) :=
  [("!", "!"), ("!!", "tag:yaml.org,2002:")]

def endsDocument : Token → Bool
  | .versionDirective .. | .tagDirective .. | .documentStart | .documentEnd => true
  | _ => false

/-- A file that was read: its node, and the anchors in it. -/
structure Document where
  root : Node
  anchors : Anchors

def readDocument? (tokens : List Token) : Option (Document × List Token) := do
  let (directives, body) ← readDirectives? ⟨false, []⟩ tokens
  let handles := directives.handles ++ commonHandles
  let fuel := 3 * tokens.length + 3
  let content? := match body with
    | .documentStart :: rest => some (rest, true)
    | _ => if body.length = tokens.length then some (body, false) else none
  let (content, isMarked) ← content?
  if isMarked && (content.isEmpty || nextIs content endsDocument) then
    return (⟨Node.empty, Anchors.empty⟩, content)
  else
    let (root, after) ← readNode? handles fuel .block ⟨content, Anchors.empty⟩
    return (⟨root, after.anchors⟩, after.tokens)

/-- Whether nothing but ends of documents is left. -/
def isFinished (tokens : List Token) : Bool :=
  tokens.all (· == .documentEnd)

/-- Read a file.  One without a document is read as nothing. -/
def Document.ofText? (text : List Char) : Option Document := do
  let tokens ← tokensOf? text
  if tokens.isEmpty then return ⟨Node.empty, Anchors.empty⟩
  else
    let (document, rest) ← readDocument? tokens
    if isFinished rest then some document else none

end PolicyWatch.Yaml
