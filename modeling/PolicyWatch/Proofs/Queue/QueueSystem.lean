import PolicyWatch.Reprocess.Inbox

/-!
# A queue and its callers

Any number of callers who use one queue at the same time, each of whom takes one step after
another while the others take theirs, and the history of what was done to the queue.  Main
statements: what one step of a caller does to the queue, and what each caller has done so
far.
-/

namespace PolicyWatch.Reprocess

/-! ## What single operations do -/

namespace Queue

theorem pop_of_nil {queue : Queue} (isEmpty : queue.order = []) : queue.pop = (none, queue) := by
  unfold pop
  rw [isEmpty]

theorem pop_of_cons {queue : Queue} {id : String} {rest : List String}
    (waits : queue.order = id :: rest) :
    queue.pop = (some id, ⟨rest, queue.waiting.erase id, queue.isClosed⟩) := by
  unfold pop
  rw [waits]

/-- Whether the set holds just the IDs that wait in order, none of which waits twice. -/
structure InStep (queue : Queue) : Prop where
  distinct : queue.order.Nodup
  same : queue.waiting.Perm queue.order

theorem inStep_empty : InStep empty := ⟨.nil, .refl _⟩

namespace InStep

variable {queue : Queue}

theorem push_fst (inStep : queue.InStep) (id : String) :
    (queue.push id).1 = true ↔ queue.isClosed = false ∧ id ∉ queue.order := by
  unfold push
  rw [← inStep.same.mem_iff, ← List.contains_iff_mem]
  cases queue.isClosed <;> cases queue.waiting.contains id <;> simp

theorem push (inStep : queue.InStep) (id : String) : (queue.push id).2.InStep := by
  have taken := inStep.push_fst id
  unfold Queue.push at taken ⊢
  split
  · exact inStep
  · rename_i isNew
    rw [if_neg isNew] at taken
    have last := List.perm_append_singleton id queue.order
    refine ⟨?_, (inStep.same.cons id).trans last.symm⟩
    exact last.nodup_iff.2 (List.nodup_cons.2 ⟨(taken.1 rfl).2, inStep.distinct⟩)

theorem pop (inStep : queue.InStep) : queue.pop.2.InStep := by
  cases waits : queue.order with
  | nil =>
      rw [pop_of_nil waits]
      exact inStep
  | cons first rest =>
      have distinct := inStep.distinct
      have same := inStep.same
      rw [waits] at distinct same
      rw [pop_of_cons waits]
      refine ⟨(List.nodup_cons.1 distinct).2, ?_⟩
      have erased := same.erase first
      rwa [List.erase_cons_head] at erased

theorem close (inStep : queue.InStep) : queue.close.InStep :=
  ⟨inStep.distinct, inStep.same⟩

end InStep

theorem isClosed_push (queue : Queue) (id : String) :
    (queue.push id).2.isClosed = queue.isClosed := by
  unfold push
  split <;> rfl

theorem isClosed_pop (queue : Queue) : queue.pop.2.isClosed = queue.isClosed := by
  unfold pop
  split <;> rfl

theorem push_of_refused {queue : Queue} {id : String} (refused : (queue.push id).1 = false) :
    queue.push id = (false, queue) := by
  unfold push at refused ⊢
  split
  · rfl
  · rename_i isTaken
    rw [if_neg isTaken] at refused
    cases refused

def newAmong (queue : Queue) (ids : List String) : List String :=
  ids.filter fun id => !queue.order.contains id

theorem mem_newAmong {queue : Queue} {ids : List String} {id : String} :
    id ∈ queue.newAmong ids ↔ id ∈ ids ∧ id ∉ queue.order := by
  simp [newAmong]

theorem newAmong_cons_of_mem {queue : Queue} {id : String} (waits : id ∈ queue.order)
    (rest : List String) : queue.newAmong (id :: rest) = queue.newAmong rest := by
  simp [newAmong, waits]

/-- When an ID was put at the end, another does not wait just if it did not before. -/
theorem newAmong_cons_of_not_mem {queue grown : Queue} {id : String} (isNew : id ∉ queue.order)
    (order : grown.order = queue.order ++ [id]) {rest : List String} (isOnce : id ∉ rest) :
    queue.newAmong (id :: rest) = id :: grown.newAmong rest := by
  have others : queue.newAmong rest = grown.newAmong rest := by
    refine List.filter_congr fun other member => ?_
    have apart : other ≠ id := fun same => isOnce (same ▸ member)
    simp [order, apart]
  rw [← others]
  simp [newAmong, isNew]

/-- What it means that IDs were put into an open queue: those that did not wait come last, in
order, and are counted. -/
structure Extended (queue : Queue) (ids : List String) (count : Nat) (after : Queue) : Prop where
  inStep : after.InStep
  isOpen : after.isClosed = false
  order : after.order = queue.order ++ queue.newAmong ids
  count_eq : count = (queue.newAmong ids).length

theorem Extended.waits {queue after : Queue} {ids : List String} {count : Nat}
    (extended : Extended queue ids count after) (id : String) (member : id ∈ ids) :
    id ∈ after.order := by
  rw [extended.order, List.mem_append, mem_newAmong]
  by_cases waits : id ∈ queue.order
  · exact .inl waits
  · exact .inr ⟨member, waits⟩

/-- Distinct IDs that are put into an open queue are taken but for those that wait. -/
theorem InStep.extend {queue : Queue} {ids : List String} (inStep : queue.InStep)
    (isOpen : queue.isClosed = false) (distinct : ids.Nodup) :
    Extended queue ids (Queue.extend ids queue).1 (Queue.extend ids queue).2 := by
  induction ids generalizing queue with
  | nil => exact ⟨inStep, isOpen, (List.append_nil _).symm, rfl⟩
  | cons id rest ih =>
      obtain ⟨isOnce, restDistinct⟩ := List.nodup_cons.1 distinct
      have taken := inStep.push_fst id
      have order := queue.order_push id
      have left := ih (inStep.push id) ((queue.isClosed_push id).trans isOpen) restDistinct
      unfold Queue.extend
      cases pushed : queue.push id with
      | mk isTaken grown =>
          rw [pushed] at taken order left
          cases isTaken with
          | false =>
              have waits : id ∈ queue.order := by
                refine Classical.byContradiction fun isNew => ?_
                cases taken.2 ⟨isOpen, isNew⟩
              cases (push_of_refused (congrArg Prod.fst pushed)).symm.trans pushed
              refine ⟨left.inStep, left.isOpen, ?_, ?_⟩
              · rw [newAmong_cons_of_mem waits]
                exact left.order
              · rw [newAmong_cons_of_mem waits]
                exact left.count_eq
          | true =>
              have parts := newAmong_cons_of_not_mem (taken.1 rfl).2 order isOnce
              refine ⟨left.inStep, left.isOpen, ?_, ?_⟩
              · rw [parts, left.order]
                exact (congrArg (· ++ _) order).trans (List.append_assoc _ _ _)
              · rw [parts]
                exact congrArg Nat.succ left.count_eq

/-- Popping takes the first ID, if there is one. -/
theorem pop_fst (queue : Queue) : queue.pop.1 = queue.order.head? := by
  unfold pop
  split <;> simp_all

theorem order_pop_snd (queue : Queue) : queue.pop.2.order = queue.order.tail := by
  unfold pop
  split <;> simp_all

end Queue

/-- A popper that looks into the queue is told what waits first, or that nothing does if the
queue is closed. -/
theorem Popper.step?_listening {inbox : Inbox}
    (serves : inbox.queue.order ≠ [] ∨ inbox.queue.isClosed = true) (name broadcasts : Nat) :
    (listening broadcasts).step? name inbox =
      some (.over inbox.queue.order.head?, { inbox with queue := inbox.queue.pop.2 }) := by
  cases waits : inbox.queue.order with
  | nil =>
      have isClosed := serves.resolve_left (not_not_intro waits)
      rw [step?, Queue.pop_of_nil waits]
      exact if_pos isClosed
  | cons first rest =>
      rw [step?, Queue.pop_of_cons waits]
      rfl

/-- A popper that looks into the queue pops it and has its answer, unless the queue is open
and empty; all its other steps leave the queue as it was. -/
theorem Popper.queue_of_step? {popper : Popper} {name : Nat} {inbox changed : Inbox}
    {progress : Progress Popper (Option String)}
    (moved : popper.step? name inbox = some (progress, changed)) :
    (∃ next, progress = .going next ∧ changed.queue = inbox.queue) ∨
      (progress = .over inbox.queue.pop.1 ∧ changed.queue = inbox.queue.pop.2 ∧
        (inbox.queue.pop.1 = none → inbox.queue.isClosed = true)) := by
  cases popper with
  | starting =>
      cases moved
      exact .inl ⟨_, rfl, rfl⟩
  | listening broadcasts =>
      by_cases serves : inbox.queue.order ≠ [] ∨ inbox.queue.isClosed = true
      · rw [step?_listening serves] at moved
        cases moved
        rw [inbox.queue.pop_fst, List.head?_eq_none_iff]
        exact .inr ⟨rfl, rfl, fun isEmpty => serves.resolve_left (not_not_intro isEmpty)⟩
      · obtain ⟨isEmpty, isOpen⟩ := not_or.1 serves
        rw [step?, Queue.pop_of_nil (Classical.not_not.1 isEmpty)] at moved
        dsimp only at moved
        rw [if_neg isOpen] at moved
        cases moved
        exact .inl ⟨_, rfl, rfl⟩
  | foundNone broadcasts =>
      rw [step?] at moved
      split at moved <;> cases moved <;> exact .inl ⟨_, rfl, rfl⟩
  | waiting =>
      rw [step?] at moved
      split at moved
      · cases moved
        exact .inl ⟨_, rfl, rfl⟩
      · cases moved

/-! ## Callers -/

/-- What a caller asks of the queue. -/
inductive Operation where
  | push (id : String)
  | extend (ids : List String)
  | pop
  | close
  deriving DecidableEq, Repr

/-- What a caller is told in the end. -/
inductive Reply where
  | pushed (isTaken : Bool)
  | extended (count : Nat)
  | popped (id? : Option String)
  | closed
  deriving DecidableEq, Repr

inductive Caller where
  | pushing (id : String)
  /-- It has pushed some IDs, so many of which were taken, and is to push others. -/
  | extending (ids : List String) (count : Nat)
  /-- Its ID was taken, and it is to notify one waiter before it goes on. -/
  | notifying (next : Caller)
  | popping (popper : Popper)
  | closing
  /-- It has closed the queue, and is to notify all waiters. -/
  | notifyingAll
  | told (reply : Reply)
  /-- It went away while it waited for an ID. -/
  | away
  deriving DecidableEq, Repr

def Operation.begin : Operation → Caller
  | push id => .pushing id
  | extend ids => .extending ids 0
  | pop => .popping .starting
  | close => .closing

/-- What is done to the queue: a caller pushes an ID, which is taken or not, a caller has the
answer to its pop, or the queue is closed. -/
inductive Occurrence where
  | pushed (caller : Nat) (id : String) (isTaken : Bool)
  | popped (caller : Nat) (id? : Option String)
  | closed
  deriving DecidableEq, Repr

/-- The next step of a caller, unless it waits on or is done, with what it does to the
queue.  The queue is locked for a single look at it, so to push an ID and to notify a waiter are two
steps. -/
def Caller.step? (name : Nat) (inbox : Inbox) : Caller → Option (Caller × Option Occurrence × Inbox)
  | pushing id =>
      let pushed := inbox.queue.push id
      let reply := told (.pushed pushed.1)
      some (if pushed.1 then notifying reply else reply, some (.pushed name id pushed.1),
        { inbox with queue := pushed.2 })
  | extending [] count => some (told (.extended count), none, inbox)
  | extending (id :: rest) count =>
      let pushed := inbox.queue.push id
      some (if pushed.1 then notifying (extending rest (count + 1)) else extending rest count,
        some (.pushed name id pushed.1), { inbox with queue := pushed.2 })
  | notifying next => some (next, none, { inbox with notify := inbox.notify.notifyOne.2 })
  | popping popper =>
      match popper.step? name inbox with
      | none => none
      | some (.going next, changed) => some (popping next, none, changed)
      | some (.over id?, changed) => some (told (.popped id?), some (.popped name id?), changed)
  | closing => some (notifyingAll, some .closed, { inbox with queue := inbox.queue.close })
  | notifyingAll => some (told .closed, none, { inbox with notify := inbox.notify.notifyWaiters.2 })
  | told _ => none
  | away => none

namespace Caller

/-- A caller who has another ID to push goes on to the next, and notifies a waiter first if it was
taken. -/
theorem step?_extending {name : Nat} {inbox : Inbox} {id : String} {isTaken : Bool} {queue : Queue}
    (pushed : inbox.queue.push id = (isTaken, queue)) (rest : List String) (count : Nat) :
    (extending (id :: rest) count).step? name inbox =
      some (if isTaken then notifying (extending rest (count + 1)) else extending rest count,
        some (.pushed name id isTaken), { inbox with queue }) := by
  rw [step?, pushed]

/-- A caller who looks into the queue is told what waits first, or that nothing does if the
queue is closed. -/
theorem step?_listening {inbox : Inbox} (name broadcasts : Nat)
    (serves : inbox.queue.order ≠ [] ∨ inbox.queue.isClosed = true) :
    (popping (.listening broadcasts)).step? name inbox =
      some (told (.popped inbox.queue.order.head?), some (.popped name inbox.queue.order.head?),
        { inbox with queue := inbox.queue.pop.2 }) := by
  rw [step?, Popper.step?_listening serves]

end Caller

/-- The inbox with all callers so far, each known by its place, and what was done to the
queue so far, oldest first. -/
structure QueueSystem where
  inbox : Inbox
  callers : List (Operation × Caller)
  history : List Occurrence

namespace QueueSystem

def opened : QueueSystem := ⟨.empty, [], []⟩

def queue (system : QueueSystem) : Queue := system.inbox.queue

/-- The system when a caller has come. -/
def joined (system : QueueSystem) (operation : Operation) : QueueSystem :=
  { system with callers := system.callers ++ [(operation, operation.begin)] }

/-- The system when a caller has taken a step. -/
def moved (system : QueueSystem) (number : Nat) (operation : Operation) (next : Caller)
    (occurred? : Option Occurrence) (inbox : Inbox) : QueueSystem :=
  ⟨inbox, system.callers.set number (operation, next), system.history ++ occurred?.toList⟩

/-- One step of anybody: a caller comes, takes a step, or goes away while it waits for an ID. -/
inductive Step (system : QueueSystem) : QueueSystem → Prop where
  | come (operation : Operation) : Step system (system.joined operation)
  | turn {number : Nat} {operation : Operation}
      {caller next : Caller} {occurred? : Option Occurrence}
      {inbox : Inbox} (here : system.callers[number]? = some (operation, caller))
      (taken : caller.step? number system.inbox = some (next, occurred?, inbox)) :
      Step system (system.moved number operation next occurred? inbox)
  | leave {number : Nat} {operation : Operation} {popper : Popper}
      (here : system.callers[number]? = some (operation, .popping popper)) :
      Step system (system.moved number operation .away none (popper.leave number system.inbox).2)

/-- What can become of a new queue and its callers. -/
inductive Reachable : QueueSystem → Prop where
  | start : Reachable opened
  | step {system next : QueueSystem} (reached : Reachable system) (taken : Step system next) :
      Reachable next

/-! ## What a history tells -/

def accepted (history : List Occurrence) : List String :=
  history.filterMap fun
    | .pushed _ id true => some id
    | _ => none

/-- The IDs that were popped, in order. -/
def given (history : List Occurrence) : List String :=
  history.filterMap fun
    | .popped _ id? => id?
    | _ => none

/-- The IDs that wait after a history: those that were accepted, less those that were popped
before them. -/
def waitingAfter (history : List Occurrence) : List String :=
  (accepted history).drop (given history).length

/-- The pushes of a caller, in order, each with its ID and whether that was taken. -/
def pushesOf (number : Nat) (history : List Occurrence) : List (String × Bool) :=
  history.filterMap fun
    | .pushed caller id isTaken => if caller = number then some (id, isTaken) else none
    | _ => none

/-- The answers to the pops of a caller, in order. -/
def popsOf (number : Nat) (history : List Occurrence) : List (Option String) :=
  history.filterMap fun
    | .popped caller id? => if caller = number then some id? else none
    | _ => none

end QueueSystem

end PolicyWatch.Reprocess
