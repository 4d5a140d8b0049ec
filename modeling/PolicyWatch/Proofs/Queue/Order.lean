import PolicyWatch.Proofs.Queue.QueueSystem

/-!
# First in, first out

Whatever callers do at a queue, in whatever order their steps come, no ID waits twice and
none is lost.  Main statement: in every state the IDs that were popped, with
those that wait, are those that were accepted, in the same order, and every answer that a
caller was given was right when it was given.
-/

namespace PolicyWatch.Reprocess

namespace QueueSystem

/-! ## Histories -/

/-- Whether something holds of everything in a history, given what came before it. -/
def Throughout (holds : List Occurrence → Occurrence → Prop) (history : List Occurrence) : Prop :=
  ∀ before occurred after, history = before ++ occurred :: after → holds before occurred

section Histories

variable {holds : List Occurrence → Occurrence → Prop} {history : List Occurrence}
  {occurred : Occurrence}

theorem throughout_nil : Throughout holds [] := by
  intro before occurred after impossible
  cases before <;> cases impossible

theorem Throughout.snoc (earlier : Throughout holds history) (last : holds history occurred) :
    Throughout holds (history ++ [occurred]) := by
  intro before other after split
  rcases List.eq_nil_or_concat after with rfl | ⟨front, back, rfl⟩
  · obtain ⟨rfl, same⟩ := List.append_inj' split rfl
    cases same
    exact last
  · rw [List.concat_eq_append, ← List.cons_append, ← List.append_assoc] at split
    obtain ⟨same, _⟩ := List.append_inj' split rfl
    exact earlier before other front same

theorem accepted_snoc (history : List Occurrence) (occurred : Occurrence) :
    accepted (history ++ [occurred]) = accepted history ++ accepted [occurred] :=
  List.filterMap_append

theorem given_snoc (history : List Occurrence) (occurred : Occurrence) :
    given (history ++ [occurred]) = given history ++ given [occurred] :=
  List.filterMap_append

theorem pushesOf_snoc (number : Nat) (history : List Occurrence) (occurred : Occurrence) :
    pushesOf number (history ++ [occurred]) =
      pushesOf number history ++ pushesOf number [occurred] :=
  List.filterMap_append

theorem popsOf_snoc (number : Nat) (history : List Occurrence) (occurred : Occurrence) :
    popsOf number (history ++ [occurred]) = popsOf number history ++ popsOf number [occurred] :=
  List.filterMap_append

theorem pushesOf_pushed (number : Nat) (id : String) (isTaken : Bool) :
    pushesOf number [.pushed number id isTaken] = [(id, isTaken)] := by
  simp [pushesOf]

theorem popsOf_popped (number : Nat) (id? : Option String) :
    popsOf number [.popped number id?] = [id?] := by
  simp [popsOf]

end Histories

/-! ## The queue and its history -/

/-- Whether an answer is right, given what was done to the queue before: an ID is taken just if
the queue is open and the ID does not wait, a pop takes the ID that has waited longest, and
there is none only if the queue is closed. -/
def IsRight (before : List Occurrence) : Occurrence → Prop
  | .pushed _ id isTaken => isTaken = true ↔ .closed ∉ before ∧ id ∉ waitingAfter before
  | .popped _ id? => id? = (waitingAfter before).head? ∧ (id? = none → .closed ∈ before)
  | .closed => True

/-- What holds of a queue and the history of what was done to it. -/
structure Recorded (queue : Queue) (history : List Occurrence) : Prop where
  inStep : queue.InStep
  lossless : given history ++ queue.order = accepted history
  isClosed_iff : queue.isClosed = true ↔ .closed ∈ history
  right : Throughout IsRight history

/-- What one step of a caller can do to the queue. -/
inductive Effect (number : Nat) (queue : Queue) : Option Occurrence → Queue → Prop where
  | stay : Effect number queue none queue
  | push (id : String) :
      Effect number queue (some (.pushed number id (queue.push id).1)) (queue.push id).2
  | pop (closed : queue.pop.1 = none → queue.isClosed = true) :
      Effect number queue (some (.popped number queue.pop.1)) queue.pop.2
  | close : Effect number queue (some .closed) queue.close

theorem Effect.of_step? {caller next : Caller} {number : Nat} {inbox changed : Inbox}
    {occurred? : Option Occurrence}
    (taken : caller.step? number inbox = some (next, occurred?, changed)) :
    Effect number inbox.queue occurred? changed.queue := by
  cases caller with
  | pushing id =>
      cases taken
      exact .push id
  | extending ids count =>
      cases ids with
      | nil =>
          cases taken
          exact .stay
      | cons id rest =>
          cases taken
          exact .push id
  | notifying next =>
      cases taken
      exact .stay
  | popping popper =>
      rw [Caller.step?] at taken
      cases stepped : popper.step? number inbox with
      | none =>
          rw [stepped] at taken
          cases taken
      | some outcome =>
          obtain ⟨progress, after⟩ := outcome
          obtain ⟨later, rfl, same⟩ | ⟨rfl, popped, closed⟩ := Popper.queue_of_step? stepped
          · rw [stepped] at taken
            cases taken
            rw [same]
            exact .stay
          · rw [stepped] at taken
            cases taken
            rw [popped]
            exact .pop closed
  | closing =>
      cases taken
      exact .close
  | notifyingAll =>
      cases taken
      exact .stay
  | told reply => cases taken
  | away => cases taken

namespace Recorded

variable {queue : Queue} {history : List Occurrence}

theorem waitingAfter_eq (recorded : Recorded queue history) :
    waitingAfter history = queue.order := by
  unfold waitingAfter
  rw [← recorded.lossless, List.drop_left]

theorem push (recorded : Recorded queue history) (number : Nat) (id : String) :
    Recorded (queue.push id).2 (history ++ [.pushed number id (queue.push id).1]) := by
  have taken := recorded.inStep.push_fst id
  refine ⟨recorded.inStep.push id, ?_, ?_, recorded.right.snoc ?_⟩
  · rw [given_snoc, accepted_snoc, queue.order_push, ← recorded.lossless]
    cases (queue.push id).1 with
    | true => simp [given, accepted]
    | false => simp [given, accepted]
  · rw [queue.isClosed_push, recorded.isClosed_iff]
    simp
  · rw [IsRight, recorded.waitingAfter_eq, taken, ← recorded.isClosed_iff, Bool.not_eq_true]

theorem pop (recorded : Recorded queue history) (number : Nat)
    (closed : queue.pop.1 = none → queue.isClosed = true) :
    Recorded queue.pop.2 (history ++ [.popped number queue.pop.1]) := by
  refine ⟨recorded.inStep.pop, ?_, ?_, recorded.right.snoc ⟨?_, ?_⟩⟩
  · have taken : given [.popped number queue.pop.1] = queue.pop.1.toList := by
      cases queue.pop.1 <;> rfl
    rw [given_snoc, accepted_snoc, taken, List.append_assoc, queue.order_pop, recorded.lossless]
    exact (List.append_nil _).symm
  · rw [queue.isClosed_pop, recorded.isClosed_iff]
    simp
  · rw [recorded.waitingAfter_eq, queue.pop_fst]
  · intro nothing
    exact recorded.isClosed_iff.1 (closed nothing)

theorem close (recorded : Recorded queue history) :
    Recorded queue.close (history ++ [.closed]) := by
  refine ⟨recorded.inStep.close, ?_, ?_, recorded.right.snoc trivial⟩
  · rw [given_snoc, accepted_snoc]
    change given history ++ [] ++ queue.order = accepted history ++ []
    rw [List.append_nil, List.append_nil, recorded.lossless]
  · exact ⟨fun _ => List.mem_append_right _ (List.mem_singleton_self _), fun _ => rfl⟩

theorem effect (recorded : Recorded queue history) {number : Nat} {occurred? : Option Occurrence}
    {next : Queue} (effect : Effect number queue occurred? next) :
    Recorded next (history ++ occurred?.toList) := by
  cases effect with
  | stay => exact (List.append_nil history).symm ▸ recorded
  | push id => exact recorded.push number id
  | pop closed => exact recorded.pop number closed
  | close => exact recorded.close

end Recorded

/-! ## What callers are told -/

/-- Where a caller may stand, given its operation and what was done to the queue so far. -/
inductive Traced (number : Nat) (history : List Occurrence) : Operation → Caller → Prop where
  | pushing {id : String} (nothing : pushesOf number history = []) :
      Traced number history (.push id) (.pushing id)
  | pushed {id : String} {isTaken : Bool} (once : pushesOf number history = [(id, isTaken)]) :
      Traced number history (.push id) (.told (.pushed isTaken))
  | extending {ids rest : List String} {count : Nat}
      (made : (pushesOf number history).map Prod.fst ++ rest = ids)
      (counted : (pushesOf number history).countP Prod.snd = count) :
      Traced number history (.extend ids) (.extending rest count)
  | extended {ids : List String} {count : Nat} (made : (pushesOf number history).map Prod.fst = ids)
      (counted : (pushesOf number history).countP Prod.snd = count) :
      Traced number history (.extend ids) (.told (.extended count))
  | notifying {operation : Operation} {next : Caller}
      (traced : Traced number history operation next) :
      Traced number history operation (.notifying next)
  | popping {popper : Popper} (nothing : popsOf number history = []) :
      Traced number history .pop (.popping popper)
  | popped {id? : Option String} (once : popsOf number history = [id?]) :
      Traced number history .pop (.told (.popped id?))
  | closing : Traced number history .close .closing
  | notifyingAll (done : .closed ∈ history) : Traced number history .close .notifyingAll
  | closed (done : .closed ∈ history) : Traced number history .close (.told .closed)
  | away {operation : Operation} : Traced number history operation .away

namespace Traced

variable {number : Nat} {history later : List Occurrence} {operation : Operation} {caller : Caller}

theorem begin (operation : Operation) (noPushes : pushesOf number history = [])
    (noPops : popsOf number history = []) : Traced number history operation operation.begin := by
  cases operation with
  | push id => exact .pushing noPushes
  | extend ids => exact .extending (by rw [noPushes]; rfl) (by rw [noPushes]; rfl)
  | pop => exact .popping noPops
  | close => exact .closing

theorem of_others (traced : Traced number history operation caller)
    (samePushes : pushesOf number later = pushesOf number history)
    (samePops : popsOf number later = popsOf number history) (grown : history ⊆ later) :
    Traced number later operation caller := by
  induction traced with
  | pushing nothing => exact .pushing (samePushes.trans nothing)
  | pushed once => exact .pushed (samePushes.trans once)
  | extending made counted => exact .extending (samePushes ▸ made) (samePushes ▸ counted)
  | extended made counted => exact .extended (samePushes ▸ made) (samePushes ▸ counted)
  | notifying _ ih => exact .notifying ih
  | popping nothing => exact .popping (samePops.trans nothing)
  | popped once => exact .popped (samePops.trans once)
  | closing => exact .closing
  | notifyingAll done => exact .notifyingAll (grown done)
  | closed done => exact .closed (grown done)
  | away => exact .away

theorem extend {id : String} {ids rest : List String} {count : Nat} {isTaken : Bool}
    (traced : Traced number history (.extend ids) (.extending (id :: rest) count)) :
    Traced number (history ++ [.pushed number id isTaken]) (.extend ids)
      (.extending rest (if isTaken then count + 1 else count)) := by
  cases traced with
  | extending made counted =>
      refine .extending ?_ ?_
      · rw [pushesOf_snoc, pushesOf_pushed, List.map_append, List.append_assoc]
        exact made
      · rw [pushesOf_snoc, pushesOf_pushed, List.countP_append, counted]
        cases isTaken <;> rfl

theorem step {next : Caller} {inbox changed : Inbox} {occurred? : Option Occurrence}
    (traced : Traced number history operation caller)
    (taken : caller.step? number inbox = some (next, occurred?, changed)) :
    Traced number (history ++ occurred?.toList) operation next := by
  have quiet : ∀ {caller : Caller}, Traced number history operation caller →
      Traced number (history ++ (none : Option Occurrence).toList) operation caller :=
    fun traced => (List.append_nil history).symm ▸ traced
  cases traced with
  | @pushing id nothing =>
      cases taken
      have told : Traced number (history ++ [.pushed number id (inbox.queue.push id).1])
          (.push id) (.told (.pushed (inbox.queue.push id).1)) :=
        .pushed (by rw [pushesOf_snoc, pushesOf_pushed, nothing]; rfl)
      split
      · exact .notifying told
      · exact told
  | @extending ids rest count made counted =>
      cases rest with
      | nil =>
          cases taken
          exact quiet (.extended ((List.append_nil _).symm.trans made) counted)
      | cons id rest =>
          have more : ∀ isTaken, Traced number (history ++ [.pushed number id isTaken])
              (.extend ids) (.extending rest (if isTaken then count + 1 else count)) :=
            fun isTaken => extend (.extending made counted)
          cases taken
          have going := more (inbox.queue.push id).1
          split
          · rename_i isTaken
            rw [if_pos isTaken] at going
            exact .notifying going
          · rename_i isRefused
            rw [if_neg isRefused] at going
            exact going
  | notifying traced =>
      cases taken
      exact quiet traced
  | @popping popper nothing =>
      rw [Caller.step?] at taken
      split at taken
      · cases taken
      · cases taken
        exact quiet (.popping nothing)
      · cases taken
        exact .popped (by
          change popsOf number (history ++ [_]) = _
          rw [popsOf_snoc, popsOf_popped, nothing]
          rfl)
  | closing =>
      cases taken
      exact .notifyingAll (List.mem_append_right _ (List.mem_singleton_self _))
  | notifyingAll done =>
      cases taken
      exact quiet (.closed done)
  | pushed once => cases taken
  | extended made counted => cases taken
  | popped once => cases taken
  | closed done => cases taken
  | away => cases taken

end Traced

theorem of_other_step {caller next : Caller} {number other : Nat} {inbox changed : Inbox}
    {occurred? : Option Occurrence}
    (taken : caller.step? number inbox = some (next, occurred?, changed)) (apart : number ≠ other)
    (history : List Occurrence) :
    pushesOf other (history ++ occurred?.toList) = pushesOf other history ∧
      popsOf other (history ++ occurred?.toList) = popsOf other history := by
  have effect := Effect.of_step? taken
  generalize changed.queue = after at effect
  cases effect with
  | stay => exact ⟨congrArg _ (List.append_nil _), congrArg _ (List.append_nil _)⟩
  | push id =>
      refine ⟨?_, ?_⟩
      · rw [Option.toList_some, pushesOf_snoc]
        simp [pushesOf, apart]
      · rw [Option.toList_some, popsOf_snoc]
        simp [popsOf]
  | pop closed =>
      refine ⟨?_, ?_⟩
      · rw [Option.toList_some, pushesOf_snoc]
        simp [pushesOf]
      · rw [Option.toList_some, popsOf_snoc]
        simp [popsOf, apart]
  | close =>
      refine ⟨?_, ?_⟩
      · rw [Option.toList_some, pushesOf_snoc]
        exact List.append_nil _
      · rw [Option.toList_some, popsOf_snoc]
        exact List.append_nil _

/-! ## Whole runs -/

variable {system next : QueueSystem}

/-- What holds of a queue and its callers at any time. -/
structure Kept (system : QueueSystem) : Prop where
  recorded : Recorded system.queue system.history
  traced : ∀ number operation caller, system.callers[number]? = some (operation, caller) →
    Traced number system.history operation caller
  unheard : ∀ number, system.callers.length ≤ number →
    pushesOf number system.history = [] ∧ popsOf number system.history = []

theorem kept_opened : Kept opened := by
  refine ⟨⟨Queue.inStep_empty, rfl, ?_, throughout_nil⟩, ?_, fun _ _ => ⟨rfl, rfl⟩⟩
  · exact ⟨fun impossible => (by cases impossible), fun impossible => (by cases impossible)⟩
  · intro number operation caller impossible
    cases impossible

namespace Kept

theorem come (kept : Kept system) (operation : Operation) : Kept (system.joined operation) := by
  refine ⟨kept.recorded, ?_, ?_⟩
  · intro number other caller here
    have placed :
        (system.callers ++ [(operation, operation.begin)])[number]? = some (other, caller) := here
    by_cases inside : number < system.callers.length
    · rw [List.getElem?_append_left inside] at placed
      exact kept.traced number other caller placed
    · obtain ⟨noPushes, noPops⟩ := kept.unheard number (Nat.le_of_not_lt inside)
      rw [List.getElem?_append_right (Nat.le_of_not_lt inside)] at placed
      cases List.mem_singleton.1 (List.mem_of_getElem? placed)
      exact .begin operation noPushes noPops
  · intro number outside
    refine kept.unheard number (Nat.le_trans ?_ outside)
    exact (List.sublist_append_left _ _).length_le

theorem moved (kept : Kept system) {number : Nat} {operation : Operation} {caller next : Caller}
    {occurred? : Option Occurrence} {inbox : Inbox}
    (here : system.callers[number]? = some (operation, caller))
    (recorded : Recorded inbox.queue (system.history ++ occurred?.toList))
    (traced : Traced number (system.history ++ occurred?.toList) operation next)
    (others : ∀ other, number ≠ other →
      pushesOf other (system.history ++ occurred?.toList) = pushesOf other system.history ∧
        popsOf other (system.history ++ occurred?.toList) = popsOf other system.history) :
    Kept (system.moved number operation next occurred? inbox) := by
  obtain ⟨inside, _⟩ := List.getElem?_eq_some_iff.1 here
  refine ⟨recorded, ?_, ?_⟩
  · intro other asked stands placed
    have known :
        (system.callers.set number (operation, next))[other]? = some (asked, stands) := placed
    rw [List.getElem?_set] at known
    by_cases same : number = other
    · subst same
      rw [if_pos rfl, if_pos inside] at known
      cases known
      exact traced
    · rw [if_neg same] at known
      obtain ⟨samePushes, samePops⟩ := others other same
      exact (kept.traced other asked stands known).of_others samePushes samePops
        (List.subset_append_left _ _)
  · intro other outside
    have beyond : system.callers.length ≤ other := by
      rw [← List.length_set]
      exact outside
    obtain ⟨samePushes, samePops⟩ := others other (by omega)
    obtain ⟨noPushes, noPops⟩ := kept.unheard other beyond
    exact ⟨samePushes.trans noPushes, samePops.trans noPops⟩

theorem step (kept : Kept system) (taken : Step system next) : Kept next := by
  cases taken with
  | come operation => exact kept.come operation
  | turn here taken =>
      exact kept.moved here (kept.recorded.effect (.of_step? taken))
        ((kept.traced _ _ _ here).step taken)
        fun other apart => of_other_step taken apart system.history
  | @leave number operation popper here =>
      have same : (popper.leave number system.inbox).2.queue = system.inbox.queue := by
        cases popper <;> rfl
      refine kept.moved here ?_ .away fun _ _ => ?_
      · rw [same]
        exact (List.append_nil system.history).symm ▸ kept.recorded
      · exact ⟨congrArg _ (List.append_nil _), congrArg _ (List.append_nil _)⟩

end Kept

theorem Reachable.kept (reached : Reachable system) : Kept system := by
  induction reached with
  | start => exact kept_opened
  | step _ taken ih => exact ih.step taken

/-! ## Turns of one caller -/

/-- The system after a turn of a caller, if it has a step to take. -/
def turn (system : QueueSystem) (number : Nat) : QueueSystem :=
  match system.callers[number]? with
  | none => system
  | some (operation, caller) =>
      match caller.step? number system.inbox with
      | none => system
      | some (next, occurred?, inbox) => system.moved number operation next occurred? inbox

/-- The system after turns of one caller whom nobody disturbs. -/
def turns (number : Nat) : Nat → QueueSystem → QueueSystem
  | 0, system => system
  | count + 1, system => turns number count (system.turn number)

section Turns

variable {number : Nat} {operation : Operation}
  {caller later : Caller} {occurred? : Option Occurrence}
  {inbox : Inbox}

theorem turn_eq (here : system.callers[number]? = some (operation, caller))
    (taken : caller.step? number system.inbox = some (later, occurred?, inbox)) :
    system.turn number = system.moved number operation later occurred? inbox := by
  unfold turn
  rw [here]
  dsimp only
  rw [taken]

theorem callers_moved (here : system.callers[number]? = some (operation, caller)) :
    (system.moved number operation later occurred? inbox).callers[number]? = some
    (operation, later) := by
  obtain ⟨inside, _⟩ := List.getElem?_eq_some_iff.1 here
  change (system.callers.set number (operation, later))[number]? = _
  rw [List.getElem?_set, if_pos rfl, if_pos inside]

theorem Reachable.turn (reached : Reachable system) (number : Nat) :
    Reachable (system.turn number) := by
  cases here : system.callers[number]? with
  | none =>
      unfold QueueSystem.turn
      rw [here]
      exact reached
  | some asked =>
      obtain ⟨operation, caller⟩ := asked
      cases taken : caller.step? number system.inbox with
      | none =>
          unfold QueueSystem.turn
          rw [here]
          dsimp only
          rw [taken]
          exact reached
      | some outcome =>
          obtain ⟨later, occurred?, inbox⟩ := outcome
          rw [turn_eq here taken]
          exact reached.step (.turn here taken)

theorem Reachable.turns (reached : Reachable system) (number count : Nat) :
    Reachable (turns number count system) := by
  induction count generalizing system with
  | zero => exact reached
  | succ count ih => exact ih (reached.turn number)

/-- A caller who pushes an ID, and whom nobody disturbs, puts it into the inbox at once. -/
theorem turns_pushing {id : String}
    (here : system.callers[number]? = some (operation, .pushing id)) :
    (turns number 2 system).callers[number]? =
        some (operation, .told (.pushed (system.inbox.push id).1)) ∧
      (turns number 2 system).inbox = (system.inbox.push id).2.2 := by
  cases taken : system.inbox.queue.push id with
  | mk isTaken queue =>
      have pushed : Caller.step? number system.inbox (.pushing id) =
          some (if isTaken then .notifying (.told (.pushed isTaken)) else .told (.pushed isTaken),
            some (.pushed number id isTaken), { system.inbox with queue }) := by
        rw [Caller.step?, taken]
      have going := (congrArg (·.callers[number]?) (turn_eq here pushed)).trans (callers_moved here)
      unfold Inbox.push
      rw [taken, turns, turns, turns]
      cases isTaken with
      | false =>
          have stays : (system.turn number).turn number = system.turn number := by
            rw [turn.eq_def, going]
            rfl
          rw [stays, going, turn_eq here pushed]
          exact ⟨rfl, rfl⟩
      | true =>
          rw [turn_eq going rfl, callers_moved going, turn_eq here pushed]
          exact ⟨rfl, rfl⟩

/-- A caller who closes the queue, and whom nobody disturbs, closes the inbox at once. -/
theorem turns_closing (here : system.callers[number]? = some (operation, .closing)) :
    (turns number 2 system).callers[number]? = some (operation, .told .closed) ∧
      (turns number 2 system).inbox = system.inbox.close.2 := by
  have going := (congrArg (·.callers[number]?) (turn_eq here rfl)).trans (callers_moved here)
  rw [turns, turns, turns, turn_eq going rfl, callers_moved going, turn_eq here rfl]
  exact ⟨rfl, rfl⟩

/-- A caller who pushes several IDs, and whom nobody disturbs, puts them into the queue at
once. -/
theorem turns_extending {ids : List String} {count : Nat}
    (here : system.callers[number]? = some (operation, .extending ids count)) :
    ∃ taken, (turns number taken system).callers[number]? =
        some (operation, .told (.extended ((Queue.extend ids system.queue).1 + count))) ∧
      (turns number taken system).queue = (Queue.extend ids system.queue).2 := by
  induction ids generalizing system count with
  | nil =>
      refine ⟨1, ?_⟩
      rw [turns, turns, turn_eq here rfl, callers_moved here, Queue.extend, Nat.zero_add]
      exact ⟨rfl, rfl⟩
  | cons id rest ih =>
      cases taken : system.inbox.queue.push id with
      | mk isTaken queue =>
          have pushed : system.queue.push id = (isTaken, queue) := taken
          have moved := turn_eq here (Caller.step?_extending taken rest count)
          have going : (system.turn number).callers[number]? =
              some (operation, if isTaken then .notifying (.extending rest (count + 1))
                else .extending rest count) := moved ▸ callers_moved here
          rw [Queue.extend, pushed]
          cases isTaken with
          | false =>
              obtain ⟨more, told, left⟩ := ih going
              refine ⟨more + 1, ?_⟩
              rw [moved] at told left
              rw [turns, moved]
              exact ⟨told, left⟩
          | true =>
              have notifiedOne := turn_eq going rfl
              obtain ⟨more, told, left⟩ := ih (notifiedOne ▸ callers_moved going)
              have sameQueue : ((system.turn number).turn number).queue = queue := by
                rw [notifiedOne, moved]
                rfl
              rw [sameQueue] at told left
              refine ⟨more + 2, ?_⟩
              rw [turns, turns, told, left]
              refine ⟨?_, rfl⟩
              rw [← Nat.add_assoc, Nat.add_right_comm]
              rfl

/-- A caller who comes to pop has its answer at its second turn if an ID waits or the queue is
closed. -/
theorem turns_popping (here : system.callers[number]? = some (operation, .popping .starting))
    (serves : system.queue.order ≠ [] ∨ system.queue.isClosed = true) :
    (turns number 2 system).callers[number]? =
        some (operation, .told (.popped system.queue.order.head?)) ∧
      (turns number 2 system).queue.order = system.queue.order.tail := by
  have moved := turn_eq here rfl
  have listening : (system.turn number).callers[number]? =
      some (operation, .popping (.listening system.inbox.notify.broadcasts)) :=
      moved ▸ callers_moved here
  have sameInbox : (system.turn number).inbox = system.inbox := by
    rw [moved]
    rfl
  have told := turn_eq listening (Caller.step?_listening number system.inbox.notify.broadcasts
    (sameInbox.symm ▸ serves))
  rw [sameInbox] at told
  rw [turns, turns, turns, told, callers_moved listening]
  exact ⟨rfl, system.inbox.queue.order_pop_snd⟩

end Turns

/-! ## The queue keeps order -/

/-- What it means that a queue is a first-in first-out queue of distinct IDs that loses none. -/
structure FirstInFirstOut (system : QueueSystem) : Prop where
  /-- No ID waits twice, and the set holds just the IDs that wait. -/
  distinct : system.queue.order.Nodup ∧
    system.queue.waiting.Nodup ∧ ∀ id, id ∈ system.queue.waiting ↔ id ∈ system.queue.order
  /-- The IDs popped so far, followed by those that wait, are those accepted, in order. -/
  lossless : given system.history ++ system.queue.order = accepted system.history
  /-- A push took its ID just if the queue was open and the ID did not wait then. -/
  pushed : ∀ before caller id isTaken after,
    system.history = before ++ .pushed caller id isTaken :: after →
      (isTaken = true ↔ .closed ∉ before ∧ id ∉ waitingAfter before)
  /-- A pop took the ID that had waited longest, and there was none only if the queue was
  closed and empty. -/
  popped : ∀ before caller id? after, system.history = before ++ .popped caller id? :: after →
    id? = (waitingAfter before).head? ∧
      (id? = none → .closed ∈ before ∧ waitingAfter before = [])
  /-- The next push takes its ID just if the queue is open and the ID does not wait now. -/
  pushes : ∀ id, (system.queue.push id).1 = true ↔
    .closed ∉ system.history ∧ id ∉ system.queue.order
  /-- A caller who pushed one ID is told whether it was taken. -/
  toldPushed : ∀ (number : Nat) id isTaken,
    system.callers[number]? = some (.push id, .told (.pushed isTaken)) →
      pushesOf number system.history = [(id, isTaken)]
  /-- A caller who pushed several IDs has pushed each of them, in order, and is told how many of
  its pushes took their ID. -/
  toldExtended : ∀ (number : Nat) ids count,
    system.callers[number]? = some (.extend ids, .told (.extended count)) →
      (pushesOf number system.history).map Prod.fst = ids ∧
        count = (pushesOf number system.history).countP Prod.snd
  /-- A caller who popped is told what it took. -/
  toldPopped : ∀ (number : Nat) id?, system.callers[number]? = some (.pop, .told (.popped id?)) →
    popsOf number system.history = [id?]
  /-- A caller who closed the queue has done so. -/
  toldClosed : ∀ (number : Nat), system.callers[number]? = some (.close, .told .closed) →
    .closed ∈ system.history
  /-- A caller whom nobody disturbs puts its ID into the inbox at once. -/
  pushes_alone : ∀ (number : Nat) id, system.callers[number]? = some (.push id, .pushing id) →
    (turns number 2 system).callers[number]? =
        some (.push id, .told (.pushed (system.inbox.push id).1)) ∧
      (turns number 2 system).inbox = (system.inbox.push id).2.2
  /-- A caller whom nobody disturbs closes the inbox at once. -/
  closes_alone : ∀ (number : Nat), system.callers[number]? = some (.close, .closing) →
    (turns number 2 system).callers[number]? = some (.close, .told .closed) ∧
      (turns number 2 system).inbox = system.inbox.close.2
  /-- A caller whom nobody disturbs puts its IDs into the queue at once. -/
  extends_alone : ∀ (number : Nat) ids,
    system.callers[number]? = some (.extend ids, .extending ids 0) →
    ∃ taken, (turns number taken system).callers[number]? =
        some (.extend ids, .told (.extended (Queue.extend ids system.queue).1)) ∧
      (turns number taken system).queue = (Queue.extend ids system.queue).2
  /-- A caller who comes to pop is told at its second turn what waits first, also at a closed
  queue, where it is told if nothing does. -/
  serves : ∀ (number : Nat), system.callers[number]? = some (.pop, .popping .starting) →
    system.queue.order ≠ [] ∨ .closed ∈ system.history →
      (turns number 2 system).callers[number]? =
          some (.pop, .told (.popped system.queue.order.head?)) ∧
        (turns number 2 system).queue.order = system.queue.order.tail

/-- Whatever callers have done, in whatever order their steps have come, the queue is a
first-in first-out queue of distinct IDs that has lost none. -/
theorem keeps_order (reached : Reachable system) : FirstInFirstOut system := by
  have kept := reached.kept
  have recorded := kept.recorded
  have inStep := recorded.inStep
  refine ⟨⟨inStep.distinct, inStep.same.nodup_iff.2 inStep.distinct, fun _ => inStep.same.mem_iff⟩,
    recorded.lossless, ?_, ?_, ?_, ?_, ?_, ?_, ?_, ?_, ?_, ?_, ?_⟩
  · intro before caller id isTaken after split
    exact recorded.right before _ after split
  · intro before caller id? after split
    obtain ⟨first, closed⟩ := recorded.right before _ after split
    refine ⟨first, fun nothing => ⟨closed nothing, ?_⟩⟩
    exact List.head?_eq_none_iff.1 (first.symm.trans nothing)
  · intro id
    rw [inStep.push_fst, ← recorded.isClosed_iff, Bool.not_eq_true]
  · intro number id isTaken here
    cases kept.traced _ _ _ here with
    | pushed once => exact once
  · intro number ids count here
    cases kept.traced _ _ _ here with
    | extended made counted => exact ⟨made, counted.symm⟩
  · intro number id? here
    cases kept.traced _ _ _ here with
    | popped once => exact once
  · intro number here
    cases kept.traced _ _ _ here with
    | closed done => exact done
  · intro number id here
    exact turns_pushing here
  · intro number here
    exact turns_closing here
  · intro number ids here
    exact turns_extending here
  · intro number here serves
    exact turns_popping here (serves.imp_right recorded.isClosed_iff.2)

/-- An ID is refused while it waits, taken again once it was popped, and still given by a queue
that was closed behind it. -/
theorem keeps_order_behind_a_close :
    ∃ system, Reachable system ∧ system.queue.isClosed = true ∧
      given system.history = ["d1", "d2"] ∧
      system.queue.order = ["d3", "d1"] ∧
      pushesOf 1 system.history = [("d2", true), ("d1", false), ("d3", true)] ∧
      FirstInFirstOut system := by
  have pushed := (Reachable.start.step (.come (.push "d1"))).turns 0 2
  have extended := (pushed.step (.come (.extend ["d2", "d1", "d3"]))).turns 1 6
  have popped := (extended.step (.come .pop)).turns 2 2
  have again := (popped.step (.come (.push "d1"))).turns 3 2
  have closed := (again.step (.come .close)).turns 4 2
  have refused := (closed.step (.come (.push "d4"))).turns 5 2
  have drained := (refused.step (.come .pop)).turns 6 2
  exact ⟨_, drained, by decide +kernel, by decide +kernel, by decide +kernel, by decide +kernel,
    keeps_order drained⟩

end QueueSystem

end PolicyWatch.Reprocess
