/-!
# The admission gate

A gate has a fixed number of slots.  Requests get them in order of arrival; a
slot that is given back goes to the request that has waited longest.  A request
that is cancelled, that waits too long or that finds the gate closed gets none,
and gives back a slot that it was just given.
-/

namespace PolicyWatch.Reprocess

/-- Why a request is not admitted. -/
inductive AdmissionError where
  /-- It waited so many milliseconds. -/
  | timedOut (waited : Nat)
  | cancelled
  | closed
  deriving DecidableEq, Repr

def dropEndZeros (digits : List Char) : List Char :=
  (digits.reverse.dropWhile (· == '0')).reverse

/-- A time of milliseconds: in milliseconds below a second, and else in seconds
with the fewest digits. -/
def durationText (milliseconds : Nat) : String :=
  if milliseconds < 1000 then toString milliseconds ++ "ms"
  else
    let fraction := dropEndZeros ((toString (1000 + milliseconds % 1000)).toList.drop 1)
    let seconds := toString (milliseconds / 1000)
    if fraction.isEmpty then seconds ++ "s" else seconds ++ "." ++ String.ofList fraction ++ "s"

def AdmissionError.message : AdmissionError → String
  | timedOut waited => "timed out after " ++ durationText waited ++
      " waiting for a reprocessing slot"
  | cancelled => "cancelled while waiting for a reprocessing slot"
  | closed => "admission gate is closed"

/-- The gate: its number of slots, the time in milliseconds that a request waits
at most (none waits for ever), the slots that are free, the requests that wait,
in order of arrival, those that were given a slot and do not know it yet, and the
counts of requests that wait, hold a slot and have waited too long. -/
structure Gate where
  capacity : Nat
  waitLimit : Nat
  free : Nat
  waiters : List Nat
  granted : List Nat
  isClosed : Bool
  queueDepth : Nat
  holding : Nat
  timeouts : Nat
  deriving DecidableEq, Repr

/-- The end of a request for a slot. -/
inductive Verdict where
  | admitted
  | refused (error : AdmissionError)
  deriving DecidableEq, Repr

namespace Gate

/-- The greatest number of slots that a gate can have. -/
def greatestCapacity : Nat := (Nat.pow 2 64 - 1) / 8

/-- The number of slots of a gate for some requests at once.  No slots would
admit nobody, so there is at least one. -/
def capacityFor (maxConcurrency : Nat) : Nat :=
  if maxConcurrency = 0 then 1 else maxConcurrency

/-- Build a gate.  There is none with too many slots. -/
def build? (maxConcurrency waitLimit : Nat) : Option Gate :=
  let capacity := capacityFor maxConcurrency
  if capacity ≤ greatestCapacity then
    some ⟨capacity, waitLimit, capacity, [], [], false, 0, 0, 0⟩
  else none

/-- Whether a request waits only for some time. -/
def hasDeadline (gate : Gate) : Bool :=
  gate.waitLimit != 0

/-- A slot comes free: the request that has waited longest is given it. -/
def giveSlot (gate : Gate) : Option Nat × Gate :=
  match gate.waiters with
  | [] => (none, { gate with free := gate.free + 1 })
  | first :: rest =>
      (some first, { gate with waiters := rest, granted := gate.granted ++ [first] })

/-- A request goes away without a slot. -/
def withdraw (gate : Gate) (request : Nat) : Option Nat × Gate :=
  let left := { gate with queueDepth := gate.queueDepth - 1 }
  if gate.granted.contains request then
    giveSlot { left with granted := gate.granted.erase request }
  else (none, { left with waiters := gate.waiters.erase request })

/-- A request arrives.  One that need not wait is answered at once. -/
def arrive (gate : Gate) (request : Nat) (isCancelled : Bool) : Option Verdict × Gate :=
  if isCancelled then (some (.refused .cancelled), gate)
  else if gate.isClosed then (some (.refused .closed), gate)
  else if gate.free = 0 then
    (none, { gate with
      waiters := gate.waiters ++ [request]
      queueDepth := gate.queueDepth + 1 })
  else (some .admitted, { gate with free := gate.free - 1, holding := gate.holding + 1 })

/-- What becomes of a waiting request when it looks again, and who is given the
slot that it does not take.  Cancellation comes before everything else, and a
slot before the deadline. -/
def resume (gate : Gate) (request : Nat) (isCancelled isLate : Bool) :
    Option Verdict × Option Nat × Gate :=
  if isCancelled then
    let (next, left) := gate.withdraw request
    (some (.refused .cancelled), next, left)
  else if gate.isClosed then
    let (next, left) := gate.withdraw request
    (some (.refused .closed), next, left)
  else if gate.granted.contains request then
    (some .admitted, none, { gate with
      granted := gate.granted.erase request
      queueDepth := gate.queueDepth - 1
      holding := gate.holding + 1 })
  else if isLate then
    let (next, left) := gate.withdraw request
    (some (.refused (.timedOut gate.waitLimit)), next, { left with timeouts := left.timeouts + 1 })
  else (none, none, gate)

/-- A slot is given back. -/
def release (gate : Gate) : Option Nat × Gate :=
  giveSlot { gate with holding := gate.holding - 1 }

/-- Admit nobody any more.  The requests that waited are reported. -/
def close (gate : Gate) : List Nat × Gate :=
  (gate.waiters, { gate with waiters := [], isClosed := true })

/-- The slots that nobody holds or was given. -/
def available (gate : Gate) : Nat :=
  gate.free

end Gate

end PolicyWatch.Reprocess
