import PolicyWatch.Text.Basic

/-!
# Written ranges

Sets of code points are written as hexadecimal numbers: blanks part the
members, and a dash parts the numbers of one member.
-/

namespace PolicyWatch.Unicode

open PolicyWatch.Text

/-- A set of code points under the names it is known by. -/
structure NamedRanges where
  names : List String
  text : String

/-- What has been read: finished members, the finished numbers of the current
member, and the number being read, newest first throughout. -/
structure Reading where
  members : List (List Nat)
  numbers : List Nat
  number : Option Nat

namespace Reading

def start : Reading := ⟨[], [], none⟩

/-- The numbers of the current member, newest first. -/
def current (reading : Reading) : List Nat :=
  reading.number.toList ++ reading.numbers

def endNumber (reading : Reading) : Reading :=
  ⟨reading.members, reading.current, none⟩

def endMember (reading : Reading) : Reading :=
  match reading.current with
  | [] => reading
  | numbers => ⟨numbers.reverse :: reading.members, [], none⟩

def next (reading : Reading) (character : Char) : Reading :=
  match digitValue? 16 character with
  | some digit => ⟨reading.members, reading.numbers, some (reading.number.getD 0 * 16 + digit)⟩
  | none => if character = '-' then reading.endNumber else reading.endMember

end Reading

/-- The members of a written set, each as its numbers. -/
def readMembers (text : String) : List (List Nat) :=
  (text.foldl Reading.next Reading.start).endMember.members.reverse

/-- A member as a range: one number stands for itself. -/
def rangeOf : List Nat → Nat × Nat
  | [] => (1, 0)
  | [low] => (low, low)
  | low :: high :: _ => (low, high)

def readRanges (text : String) : List (Nat × Nat) :=
  (readMembers text).map rangeOf

def NamedRanges.find? (table : List NamedRanges) (name : String) : Option (List (Nat × Nat)) :=
  (List.find? (fun entry => entry.names.contains name) table).map fun entry =>
    readRanges entry.text

end PolicyWatch.Unicode
