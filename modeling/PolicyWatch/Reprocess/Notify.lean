/-!
# Notification of waiters

To notify one wakes the waiter that has waited longest or, if nobody waits, stores a permit for the
next that is about to; at most one permit is stored.  To notify all wakes everybody who listens, and
stores nothing.
-/

namespace PolicyWatch.Reprocess

/-- A notifier: whether a permit is stored, who waits, in order, who was notified alone and who with
all others without having seen it yet, and how often all were notified. -/
structure Notify where
  hasPermit : Bool
  waiters : List Nat
  notifiedOne : List Nat
  notifiedAll : List Nat
  broadcasts : Nat
  deriving DecidableEq, Repr

namespace Notify

/-- A notifier nobody waits for. -/
def idle : Notify := ⟨false, [], [], [], 0⟩

/-- Notify one waiter, which is reported, or store a permit. -/
def notifyOne (notify : Notify) : Option Nat × Notify :=
  match notify.waiters with
  | [] => (none, { notify with hasPermit := true })
  | first :: rest =>
      (some first, { notify with waiters := rest, notifiedOne := notify.notifiedOne ++ [first] })

/-- Notify all waiters, which are reported. -/
def notifyWaiters (notify : Notify) : List Nat × Notify :=
  (notify.waiters, { notify with
    waiters := []
    notifiedAll := notify.notifiedAll ++ notify.waiters
    broadcasts := notify.broadcasts + 1 })

/-- Begin to wait, having listened since a number of broadcasts.  Who finds a permit or has missed a
broadcast does not. -/
def poll (notify : Notify) (waiter since : Nat) : Bool × Notify :=
  if notify.hasPermit then (false, { notify with hasPermit := false })
  else if notify.broadcasts ≠ since then (false, notify)
  else (true, { notify with waiters := notify.waiters ++ [waiter] })

def isNotified (notify : Notify) (waiter : Nat) : Bool :=
  notify.notifiedOne.contains waiter || notify.notifiedAll.contains waiter

/-- A waiter that was notified waits no longer. -/
def complete (notify : Notify) (waiter : Nat) : Notify :=
  { notify with
    notifiedOne := notify.notifiedOne.erase waiter
    notifiedAll := notify.notifiedAll.erase waiter }

/-- A waiter goes away.  If it was notified alone, the next is notified. -/
def leave (notify : Notify) (waiter : Nat) : Option Nat × Notify :=
  if notify.notifiedOne.contains waiter then notifyOne (notify.complete waiter)
  else (none, { notify.complete waiter with waiters := notify.waiters.erase waiter })

end Notify

end PolicyWatch.Reprocess
