import PolicyWatch.Regex.Basic

/-!
# Finding an expression in a text

Marks move through an expression: a mark on a set of characters says that the
text read so far can end there.  Each character moves all marks at once, so a
search takes one pass.
-/

namespace PolicyWatch

/-- An expression whose sets of characters carry marks. -/
inductive Marked where
  | empty
  | anchor (test : Anchor)
  | chars (set : CharSet) (mark : Bool)
  | seq (first second : Marked)
  | either (first second : Marked)
  | star (body : Marked)

namespace Marked

/-- A number of rounds in a row, then the rest. -/
def times (body : Marked) (rest : Marked) : Nat → Marked
  | 0 => rest
  | count + 1 => .seq body (times body rest count)

def atMost (body : Marked) : Nat → Marked
  | 0 => .empty
  | count + 1 => .either .empty (.seq body (atMost body count))

def ofRegex : Regex → Marked
  | .empty => .empty
  | .anchor test => .anchor test
  | .chars set => .chars set false
  | .seq first second => .seq (ofRegex first) (ofRegex second)
  | .either first second => .either (ofRegex first) (ofRegex second)
  | .repeated body least none =>
      let body := ofRegex body
      times body (.star body) least
  | .repeated body least (some most) =>
      let body := ofRegex body
      times body (atMost body (most - least)) least
  | .group body => ofRegex body

/-- What an expression allows at a place: to be crossed without a character,
and to be left from some mark. -/
structure Exits where
  empty : Bool
  marked : Bool

/-- The exits at the place between two neighbours. -/
def exits (before after : Option Char) : Marked → Exits
  | .empty => ⟨true, false⟩
  | .anchor test => ⟨test.holds before after, false⟩
  | .chars _ mark => ⟨false, mark⟩
  | .seq first second =>
      let left := exits before after first
      let right := exits before after second
      ⟨left.empty && right.empty, right.marked || (left.marked && right.empty)⟩
  | .either first second =>
      let left := exits before after first
      let right := exits before after second
      ⟨left.empty || right.empty, left.marked || right.marked⟩
  | .star body => ⟨true, (exits before after body).marked⟩

/-- Move the marks over a character.  `entry` says that the expression may be
entered at the place before the character.  The exits are those of that place. -/
def step (before : Option Char) (character : Char) : Marked → Bool → Marked × Exits
  | .empty, _ => (.empty, ⟨true, false⟩)
  | .anchor test, _ => (.anchor test, ⟨test.holds before (some character), false⟩)
  | .chars set mark, entry => (.chars set (entry && set.contains character), ⟨false, mark⟩)
  | .seq first second, entry =>
      let (first, left) := step before character first entry
      let (second, right) := step before character second (left.marked || (entry && left.empty))
      (.seq first second,
        ⟨left.empty && right.empty, right.marked || (left.marked && right.empty)⟩)
  | .either first second, entry =>
      let (first, left) := step before character first entry
      let (second, right) := step before character second entry
      (.either first second, ⟨left.empty || right.empty, left.marked || right.marked⟩)
  | .star body, entry =>
      let marked := (exits before (some character) body).marked
      ((.star (step before character body (entry || marked)).1), ⟨true, marked⟩)

/-- Whether the expression is covered somewhere from a place on. -/
def foundFrom (before : Option Char) (marked : Marked) : List Char → Bool
  | [] =>
      let here := exits before none marked
      here.empty || here.marked
  | character :: rest =>
      let (moved, here) := step before character marked true
      here.empty || here.marked || foundFrom (some character) moved rest

end Marked

namespace Regex

/-- Whether an expression covers some stretch of a text. -/
def isFoundIn (regex : Regex) (text : List Char) : Bool :=
  Marked.foundFrom none (Marked.ofRegex regex) text

end Regex

end PolicyWatch
