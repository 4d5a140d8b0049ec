/-!
# JSON values

A value keeps the members of an object in written order and with repeats, and
tells an integer from a number written with a fraction or an exponent.
-/

namespace PolicyWatch

/-- A value as written. -/
inductive Json where
  | null
  | bool (value : Bool)
  | integer (value : Int)
  /-- A number with a fraction, an exponent or too many digits. -/
  | decimal (significand : Int) (exponent : Int)
  | string (text : String)
  | array (elements : List Json)
  | object (members : List (String × Json))
  /-- A string with half a surrogate pair, or an object with such a name: it can
  be skipped and not read. -/
  | unreadable
  deriving Inhabited

namespace Json

mutual

/-- The number of containers around the innermost value. -/
def depth : Json → Nat
  | .array elements => depthOfElements elements + 1
  | .object members => depthOfMembers members + 1
  | _ => 0

def depthOfElements : List Json → Nat
  | [] => 0
  | element :: rest => max element.depth (depthOfElements rest)

def depthOfMembers : List (String × Json) → Nat
  | [] => 0
  | (_, value) :: rest => max value.depth (depthOfMembers rest)

end

/-- The least magnitude that no finite double-precision number is nearest to. -/
def overflowMagnitude : Nat := Nat.pow 2 1024 - Nat.pow 2 970

/-- Whether a decimal number is too large for double precision. -/
def overflows (significand exponent : Int) : Bool :=
  let magnitude := significand.natAbs
  if magnitude = 0 then false
  else
    let digits : Int := (Nat.toDigits 10 magnitude).length
    if digits + exponent ≤ 308 then false
    else if 310 ≤ digits + exponent then true
    else if 0 ≤ exponent then overflowMagnitude ≤ magnitude * Nat.pow 10 exponent.toNat
    else overflowMagnitude * Nat.pow 10 (-exponent).toNat ≤ magnitude

mutual

/-- Whether every part of a value can be read: strings are text and numbers
are within double precision. -/
def isReadable : Json → Bool
  | .unreadable => false
  | .decimal significand exponent => !overflows significand exponent
  | .array elements => allReadable elements
  | .object members => membersReadable members
  | _ => true

def allReadable : List Json → Bool
  | [] => true
  | element :: rest => element.isReadable && allReadable rest

def membersReadable : List (String × Json) → Bool
  | [] => true
  | (_, value) :: rest => value.isReadable && membersReadable rest

end

end Json

end PolicyWatch
