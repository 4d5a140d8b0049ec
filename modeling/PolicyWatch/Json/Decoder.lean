import PolicyWatch.Json.Reader
import PolicyWatch.Decoding

/-!
# JSON as a format of data

A record is an object, or an array of its fields in order; a choice is its
name, or an object with that name over nothing.
-/

namespace PolicyWatch.Json

def text? : Json → Option String
  | .string text => some text
  | _ => none

def flag? : Json → Option Bool
  | .bool value => some value
  | _ => none

def integer? (bounds : Text.Bounds) : Json → Option Int
  | .integer value => if bounds.admits value then some value else none
  | _ => none

def elements? : Json → Option (List Json)
  | .array elements => some elements
  | _ => none

def members? : Json → Option (List (String × Json))
  | .object members => some members
  | _ => none

/-- The value of the only member with a name; the inner `none` is a missing
member. -/
def member? (members : List (String × Json)) (name : String) : Option (Option Json) :=
  match members.filter fun member => member.1 = name with
  | [] => some none
  | [(_, value)] => some (some value)
  | _ => none

def membersNamed? (members : List (String × Json)) : List String → Option (List (Option Json))
  | [] => some []
  | name :: rest => do
      let first ← member? members name
      let others ← membersNamed? members rest
      return first :: others

/-- The elements for names in order; there may be fewer, but not more. -/
def elementsNamed? : List Json → List String → Option (List (Option Json))
  | [], names => some (names.map fun _ => none)
  | _ :: _, [] => none
  | element :: elements, _ :: names => (elementsNamed? elements names).map (some element :: ·)

def fields? (names : List String) : Json → Option (List (Option Json))
  | .object members => membersNamed? members names
  | .array elements => elementsNamed? elements names
  | _ => none

def settable? : Json → Option (Option Json)
  | .null => some none
  | value => some (some value)

/-- The name that a value chooses.  With `lenient`, an empty object also counts
as nothing under the name. -/
def choice? (lenient : Bool) : Json → Option String
  | .string name => some name
  | .object [(name, .null)] => some name
  | .object [(name, .object [])] => if lenient then some name else none
  | _ => none

def format (lenient : Bool) : Format Option Json :=
  ⟨text?, flag?, integer?, elements?, members?, fields?, settable?, choice? lenient⟩

/-- Decode an event: an object with the kind under `type`, or an array that
starts with the kind. -/
def event? : Json → Option Event
  | .object members => do
      let kind ← (← member? members "type").bind text?
      Event.decodeKind (format true) kind
        (.object (members.filter fun member => member.1 != "type"))
  | .array (kind :: elements) => do
      Event.decodeKind (format true) (← kind.text?) (.array elements)
  | _ => none

def greatestDepth : Nat := 127

/-- Read an event.  All of it must be readable, also what is not used. -/
def readEvent? (text : List Char) : Option Event := do
  let value ← ofText? text
  if value.depth ≤ greatestDepth && value.isReadable then event? value else none

def policy? : Json → Option Policy :=
  Policy.decode (format false)

def deployment? : Json → Option Deployment :=
  Deployment.decode (format false)

def readPolicy? (text : List Char) : Option Policy :=
  (ofText? text).bind policy?

def readDeployment? (text : List Char) : Option Deployment :=
  (ofText? text).bind deployment?

end PolicyWatch.Json
