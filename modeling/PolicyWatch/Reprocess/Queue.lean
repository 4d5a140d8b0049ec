/-!
# The queue of deployments

A first-in first-out queue of IDs, none of which waits twice.  A closed queue
takes no more IDs and still gives those that wait.
-/

namespace PolicyWatch.Reprocess

/-- The queue: the IDs that wait, in order and as a set. -/
structure Queue where
  order : List String
  waiting : List String
  isClosed : Bool
  deriving DecidableEq, Repr

namespace Queue

def empty : Queue := ⟨[], [], false⟩

def size (queue : Queue) : Nat :=
  queue.order.length

/-- Put an ID at the end, unless it waits already or the queue is closed. -/
def push (queue : Queue) (id : String) : Bool × Queue :=
  if queue.isClosed || queue.waiting.contains id then (false, queue)
  else (true, ⟨queue.order ++ [id], id :: queue.waiting, queue.isClosed⟩)

theorem order_push (queue : Queue) (id : String) :
    (queue.push id).2.order =
      if (queue.push id).1 then queue.order ++ [id] else queue.order := by
  unfold push
  split <;> simp_all

/-- Put IDs at the end, and count those that were taken. -/
def extend : List String → Queue → Nat × Queue
  | [], queue => (0, queue)
  | id :: rest, queue =>
      let (taken, grown) := queue.push id
      let (count, final) := extend rest grown
      (if taken then count + 1 else count, final)

/-- Take the ID at the front. -/
def pop (queue : Queue) : Option String × Queue :=
  match queue.order with
  | [] => (none, queue)
  | id :: rest => (some id, ⟨rest, queue.waiting.erase id, queue.isClosed⟩)

theorem order_pop (queue : Queue) : queue.pop.1.toList ++ queue.pop.2.order = queue.order := by
  unfold pop
  split <;> simp_all

/-- Take no more IDs. -/
def close (queue : Queue) : Queue :=
  { queue with isClosed := true }

end Queue

end PolicyWatch.Reprocess
