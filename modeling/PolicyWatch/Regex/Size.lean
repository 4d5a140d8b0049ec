import PolicyWatch.Regex.Basic
import PolicyWatch.Text.Basic

/-!
# The size of a compiled expression

An expression is compiled into two automata over bytes, one for each reading
direction, and is refused if either needs more memory than the limit.  The
sizes are computed without building the automata.
-/

namespace PolicyWatch.Regex

def stateSize : Nat := 32

/-- The bytes of one transition of a state with several. -/
def transitionSize : Nat := 8

def branchSize : Nat := 4

def sizeLimit : Nat := 10 * 1024 * 1024

/-- Byte ranges that stand for a range of characters of one length. -/
abbrev ByteSequence := List (Nat × Nat)

/-- The first place where a range of code points has to be cut, so that each
part has one length and its bytes vary independently. -/
def cutPoint? (low high : Nat) : Option Nat :=
  let atLength := [0x7F, 0x7FF, 0xFFFF].find? fun last => low ≤ last && decide (last < high)
  match atLength with
  | some last => some last
  | none =>
      if high ≤ 0x7F then none
      else
        [0x40, 0x1000, 0x40000].findSome? fun block =>
          if low / block = high / block then none
          else if low % block ≠ 0 then some (low / block * block + (block - 1))
          else if high % block ≠ block - 1 then some (high / block * block - 1)
          else none

/-- The byte sequences of a range of code points, in ascending order. -/
def byteSequences : Nat → Nat → Nat → List ByteSequence
  | 0, _, _ => []
  | fuel + 1, low, high =>
      match cutPoint? low high with
      | some last => byteSequences fuel low last ++ byteSequences fuel (last + 1) high
      | none => [(Text.bytesOfCode low).zip (Text.bytesOfCode high)]

def withoutSurrogates (range : Nat × Nat) : List (Nat × Nat) :=
  let (low, high) := range
  if high < 0xD800 ∨ 0xDFFF < low then [range]
  else
    (if low < 0xD800 then [(low, 0xD7FF)] else []) ++
      (if 0xDFFF < high then [(0xE000, high)] else [])

def setSequences (set : CharSet) : List ByteSequence :=
  (set.ranges.flatMap withoutSurrogates).flatMap fun (low, high) => byteSequences 64 low high

/-- A tree of byte ranges that shares fronts: the children of a node with the
ranges that lead to them, latest first. -/
inductive ByteTree where
  | node (children : List ((Nat × Nat) × ByteTree))
  deriving BEq, Inhabited

namespace ByteTree

def path : ByteSequence → ByteTree
  | [] => .node []
  | range :: rest => .node [(range, path rest)]

/-- Add a sequence that follows all others in order. -/
def insert : ByteTree → ByteSequence → ByteTree
  | tree, [] => tree
  | .node [], range :: rest => .node [(range, path rest)]
  | .node ((last, child) :: earlier), range :: rest =>
      if last = range then .node ((last, child.insert rest) :: earlier)
      else .node ((range, path rest) :: (last, child) :: earlier)

mutual

/-- The number of nodes below the root. -/
def count : ByteTree → Nat
  | .node children => countChildren children

/-- The number of nodes among children and below them. -/
def countChildren : List ((Nat × Nat) × ByteTree) → Nat
  | [] => 0
  | (_, child) :: rest => child.count + 1 + countChildren rest

end

mutual

/-- The distinct inner nodes of a tree, added to those already seen. -/
def distinct (seen : List ByteTree) : ByteTree → List ByteTree
  | .node [] => seen
  | .node children =>
      let seen := distinctChildren seen children
      if seen.contains (.node children) then seen else .node children :: seen

/-- The distinct inner nodes below children, added to those already seen. -/
def distinctChildren (seen : List ByteTree) :
    List ((Nat × Nat) × ByteTree) → List ByteTree
  | [] => seen
  | (_, child) :: rest => distinct (distinctChildren seen rest) child

end

def width : ByteTree → Nat
  | .node children => children.length

def ofSequences (sequences : List ByteSequence) : ByteTree :=
  sequences.foldl insert (.node [])

end ByteTree

/-- Sizes for reading forward and backward. -/
structure Sizes where
  forward : Nat
  backward : Nat

namespace Sizes

def both (size : Nat) : Sizes := ⟨size, size⟩

def add (left right : Sizes) : Sizes :=
  ⟨left.forward + right.forward, left.backward + right.backward⟩

def times (count : Nat) (sizes : Sizes) : Sizes :=
  ⟨count * sizes.forward, count * sizes.backward⟩

end Sizes

/-- The size of a set: one state for each byte of a single character, a
state with a transition for each range of basic characters, and otherwise a
tree of byte ranges, which shares its ends forward and its fronts backward. -/
def setSizes (set : CharSet) : Sizes :=
  match set.ranges with
  | [] => Sizes.both stateSize
  | [(low, high)] =>
      if low = high then Sizes.both (stateSize * (Text.bytesOfCode low).length) else rangesSizes set
  | _ => rangesSizes set
where
  rangesSizes (set : CharSet) : Sizes :=
    if set.isWithin 0x7F then
      Sizes.both (2 * stateSize + transitionSize * set.ranges.length)
    else
      let sequences := setSequences set
      let tree := ByteTree.ofSequences sequences
      let size (node : ByteTree) : Nat := stateSize + transitionSize * node.width
      let nodes := (tree.distinct []).foldl (fun total node => total + size node) 0
      ⟨stateSize + nodes,
        2 * stateSize + branchSize * sequences.length + stateSize * tree.count⟩

/-- Whether every stretch that an expression covers has a character. -/
def consumes : Regex → Bool
  | .empty => false
  | .anchor _ => false
  | .chars set => !set.ranges.isEmpty
  | .seq first second => first.consumes || second.consumes
  | .either first second => first.consumes && second.consumes
  | .repeated body least _ => decide (0 < least) && body.consumes
  | .group body => body.consumes

/-- The bytes that an expression spells out, if it does nothing else. -/
def spelling? : Regex → Option (List Nat)
  | .chars set =>
      match set.ranges with
      | [(low, high)] => if low = high then some (Text.bytesOfCode low) else none
      | _ => none
  | .seq first .empty => first.spelling?
  | .seq first second =>
      match first.spelling?, second.spelling? with
      | some left, some right => some (left ++ right)
      | _, _ => none
  | _ => none

/-- The size of a tree of spellings, by length of the longest. -/
def spellingsSize : Nat → List (List Nat) → Nat
  | 0, _ => 0
  | fuel + 1, spellings =>
      let heads := (spellings.filterMap List.head?).eraseDups
      if heads.isEmpty then 0
      else
        let ends := if spellings.any List.isEmpty then stateSize + 2 * branchSize else 0
        let below := heads.map fun head =>
          spellingsSize fuel
            (spellings.filterMap fun spelling =>
              if spelling.head? = some head then some spelling.tail else none)
        stateSize + transitionSize * heads.length + ends + below.sum

def branches : Regex → List Regex
  | .either first second => first.branches ++ second.branches
  | regex => [regex]

/-- The set of an expression that covers one character. -/
def set? : Regex → Option CharSet
  | .chars set => some set
  | .seq first .empty => first.set?
  | _ => none

/-- All results of a list of options, or none. -/
def allSome {α β : Type} (f : α → Option β) : List α → Option (List β)
  | [] => some []
  | first :: rest =>
      match f first, allSome f rest with
      | some value, some values => some (value :: values)
      | _, _ => none

def choiceSizes (branches : List Regex) (total : Sizes) : Sizes :=
  match allSome set? branches with
  | some sets => setSizes (sets.foldl CharSet.union CharSet.empty)
  | none =>
      match allSome spelling? branches with
      | some spellings =>
          let longest := (spellings.map List.length).foldl max 0
          ⟨stateSize + spellingsSize (longest + 1) spellings,
            stateSize + spellingsSize (longest + 1) (spellings.map List.reverse)⟩
      | none => total.add (Sizes.both (2 * stateSize + branchSize * branches.length))

def repeatedSizes (consuming : Bool) (body : Sizes) (least : Nat) : Option Nat → Sizes
  | none =>
      let choice := stateSize + 2 * branchSize
      if least = 0 then
        if consuming then body.add (Sizes.both choice)
        else body.add (Sizes.both (2 * choice + stateSize))
      else (body.times least).add (Sizes.both choice)
  | some most =>
      let choice := stateSize + 2 * branchSize
      if most = 0 then Sizes.both stateSize
      else if least = most then body.times least
      else
        let front := if least = 0 ∧ 1 < most then Sizes.both stateSize else body.times least
        (front.add (Sizes.both stateSize)).add
          ((body.add (Sizes.both choice)).times (most - least))

/-- The sizes of an expression.  A choice that is itself a branch counts as its
branches.  A group that remembers takes two states, forward only. -/
def sizesWithin : Regex → Bool → Sizes
  | .empty, _ => Sizes.both stateSize
  | .anchor _, _ => Sizes.both stateSize
  | .chars set, _ => setSizes set
  | .seq first .empty, _ => first.sizesWithin false
  | .seq first second, _ => (first.sizesWithin false).add (second.sizesWithin false)
  | .either first second, isBranch =>
      let total := (first.sizesWithin true).add (second.sizesWithin true)
      if isBranch then total else choiceSizes (first.branches ++ second.branches) total
  | .repeated body least most, _ => repeatedSizes body.consumes (body.sizesWithin false) least most
  | .group body, _ => (body.sizesWithin false).add ⟨2 * stateSize, 0⟩

/-- Whether a compiled expression stays within the limit.  The whole
expression is one more group, and takes an entry and an end. -/
def isWithinLimit (regex : Regex) : Bool :=
  let total := regex.sizesWithin false
  decide (total.forward + 4 * stateSize ≤ sizeLimit) &&
    decide (total.backward + 2 * stateSize ≤ sizeLimit)

/-- The limit of a run, on sizes that are computed and not measured. -/
instance : SizeLimit := ⟨isWithinLimit⟩

end PolicyWatch.Regex
