/-!
# Sets of characters

A set is a list of ranges of code points, in ascending order and apart from
each other.  The operations keep that form.
-/

namespace PolicyWatch

/-- A set of characters as ascending ranges that do not touch. -/
structure CharSet where
  ranges : List (Nat × Nat)
  deriving DecidableEq, Repr

namespace CharSet

def lastCode : Nat := 0x10FFFF

def empty : CharSet := ⟨[]⟩

def full : CharSet := ⟨[(0, lastCode)]⟩

def range (low high : Nat) : CharSet :=
  if low ≤ high then ⟨[(low, high)]⟩ else empty

def singleton (character : Char) : CharSet := ⟨[(character.toNat, character.toNat)]⟩

/-- Whether ascending ranges hold a code point. -/
def holds (code : Nat) : List (Nat × Nat) → Bool
  | [] => false
  | (low, high) :: rest => if code < low then false else code ≤ high || holds code rest

def contains (set : CharSet) (character : Char) : Bool :=
  holds character.toNat set.ranges

/-- Interleave two ascending lists of ranges by their lower ends. -/
def interleave : Nat → List (Nat × Nat) → List (Nat × Nat) → List (Nat × Nat)
  | 0, _, _ => []
  | _ + 1, [], right => right
  | _ + 1, left, [] => left
  | fuel + 1, first :: left, second :: right =>
      if first.1 ≤ second.1 then first :: interleave fuel left (second :: right)
      else second :: interleave fuel (first :: left) right

/-- Join the ranges that touch or overlap the current one. -/
def joinFrom (current : Nat × Nat) : List (Nat × Nat) → List (Nat × Nat)
  | [] => [current]
  | next :: rest =>
      if next.1 ≤ current.2 + 1 then joinFrom (current.1, max current.2 next.2) rest
      else current :: joinFrom next rest

/-- Join ascending ranges that touch or overlap. -/
def join : List (Nat × Nat) → List (Nat × Nat)
  | [] => []
  | first :: rest => joinFrom first rest

def union (left right : CharSet) : CharSet :=
  ⟨join (interleave (left.ranges.length + right.ranges.length + 1) left.ranges right.ranges)⟩

/-- The gaps of ascending ranges from a code point on. -/
def gapsFrom (code : Nat) : List (Nat × Nat) → List (Nat × Nat)
  | [] => if code ≤ lastCode then [(code, lastCode)] else []
  | (low, high) :: rest =>
      if code < low then (code, low - 1) :: gapsFrom (high + 1) rest
      else gapsFrom (high + 1) rest

def complement (set : CharSet) : CharSet :=
  ⟨gapsFrom 0 set.ranges⟩

def inter (left right : CharSet) : CharSet :=
  (left.complement.union right.complement).complement

/-- The characters of the first set outside the second. -/
def difference (left right : CharSet) : CharSet :=
  left.inter right.complement

/-- The characters of exactly one of two sets. -/
def symmetricDifference (left right : CharSet) : CharSet :=
  (left.difference right).union (right.difference left)

/-- The set of ascending ranges, joined where they touch. -/
def ofRanges (ranges : List (Nat × Nat)) : CharSet :=
  ⟨join ranges⟩

/-- Whether every character of a set has a code point of at most `code`. -/
def isWithin (code : Nat) (set : CharSet) : Bool :=
  set.ranges.all fun range => range.2 ≤ code

/-- Whether a set holds some code point of a list. -/
def meets (set : CharSet) (codes : List Nat) : Bool :=
  codes.any fun code => holds code set.ranges

def addCodes (set : CharSet) (codes : List Nat) : CharSet :=
  codes.foldl (fun grown code => grown.union ⟨[(code, code)]⟩) set

end CharSet

end PolicyWatch
