import PolicyWatch.Reprocess.Notify
import PolicyWatch.Reprocess.Queue

/-!
# The inbox

The queue of IDs with the notifier of those who wait for one.  Whoever puts an ID into the queue
notifies one waiter; whoever closes the queue notifies all.  A popper listens before it looks into
the queue, so that it does not miss what is put there after it looked.
-/

namespace PolicyWatch.Reprocess

/-- The queue and its notifier. -/
structure Inbox where
  queue : Queue
  notify : Notify
  deriving DecidableEq, Repr

/-- Where a procedure stands: under way in some state, or over with a result. -/
inductive Progress (σ α : Type) where
  | going (state : σ)
  | over (result : α)
  deriving DecidableEq, Repr

/-- Where somebody stands who waits for an ID. -/
inductive Popper where
  | starting
  /-- It has listened since a number of broadcasts. -/
  | listening (broadcasts : Nat)
  /-- It has listened since a number of broadcasts, and has found nothing. -/
  | foundNone (broadcasts : Nat)
  | waiting
  deriving DecidableEq, Repr

namespace Inbox

def empty : Inbox := ⟨Queue.empty, Notify.idle⟩

/-- Put an ID into the queue.  If it is taken, one popper is notified and reported. -/
def push (inbox : Inbox) (id : String) : Bool × Option Nat × Inbox :=
  match inbox.queue.push id with
  | (false, queue) => (false, none, { inbox with queue })
  | (true, queue) =>
      let (woken, notify) := inbox.notify.notifyOne
      (true, woken, ⟨queue, notify⟩)

/-- The queue takes an ID as it would without a notifier. -/
theorem push_queue (inbox : Inbox) (id : String) :
    (inbox.push id).1 = (inbox.queue.push id).1 ∧
      (inbox.push id).2.2.queue = (inbox.queue.push id).2 := by
  unfold push
  split <;> simp_all

/-- Close the queue and notify all poppers, which are reported. -/
def close (inbox : Inbox) : List Nat × Inbox :=
  let (woken, notify) := inbox.notify.notifyWaiters
  (woken, ⟨inbox.queue.close, notify⟩)

end Inbox

namespace Popper

/-- The next step of a popper, unless it waits on.  In the end it has an ID, or
none from a queue that is closed and drained. -/
def step? (name : Nat) (inbox : Inbox) :
    Popper → Option (Progress Popper (Option String) × Inbox)
  | starting => some (.going (.listening inbox.notify.broadcasts), inbox)
  | listening broadcasts =>
      match inbox.queue.pop with
      | (some id, queue) => some (.over (some id), { inbox with queue })
      | (none, _) =>
          if inbox.queue.isClosed then some (.over none, inbox)
          else some (.going (.foundNone broadcasts), inbox)
  | foundNone broadcasts =>
      match inbox.notify.poll name broadcasts with
      | (true, notify) => some (.going .waiting, { inbox with notify })
      | (false, notify) => some (.going .starting, { inbox with notify })
  | waiting =>
      if inbox.notify.isNotified name then
        some (.going .starting, { inbox with notify := inbox.notify.complete name })
      else none

/-- A popper goes away.  Its notification goes to the next. -/
def leave (name : Nat) (inbox : Inbox) : Popper → Option Nat × Inbox
  | waiting =>
      let (woken, notify) := inbox.notify.leave name
      (woken, { inbox with notify })
  | _ => (none, inbox)

end Popper

end PolicyWatch.Reprocess
