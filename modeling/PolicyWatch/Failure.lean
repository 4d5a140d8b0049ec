/-!
# Failures

A failure says what went wrong, from the outermost circumstance to the cause.
Failures of one pass are collected in a list.
-/

namespace PolicyWatch

/-- What went wrong, outermost first. -/
structure Failure where
  messages : List String
  deriving DecidableEq, Repr

namespace Failure

/-- A failure without further circumstances. -/
def ofMessage (message : String) : Failure := ⟨[message]⟩

def within (failure : Failure) (circumstance : String) : Failure :=
  ⟨circumstance :: failure.messages⟩

def toText (failure : Failure) : String :=
  String.intercalate ": " failure.messages

end Failure

structure FailureList where
  context : String
  failures : List Failure
  deriving DecidableEq, Repr

namespace FailureList

def isEmpty (list : FailureList) : Bool :=
  list.failures.isEmpty

def size (list : FailureList) : Nat :=
  list.failures.length

def push (list : FailureList) (failure : Failure) : FailureList :=
  { list with failures := list.failures ++ [failure] }

/-- Succeed if nothing went wrong. -/
def toExcept (list : FailureList) : Except FailureList Unit :=
  if list.isEmpty then .ok () else .error list

def toText (list : FailureList) : String :=
  list.context ++ " errors: [" ++ String.intercalate ", " (list.failures.map Failure.toText) ++ "]"

end FailureList

end PolicyWatch
