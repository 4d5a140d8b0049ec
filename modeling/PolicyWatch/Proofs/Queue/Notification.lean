import PolicyWatch.Proofs.Queue.Waiters

/-!
# Who is notified

A caller looks into the queue and begins to wait in two steps, and at most one permit is stored for
those in between: two notifications while two are in between coalesce into one.  Main statement:
when somebody waits who was not notified, there is for each ID in the queue somebody who was
notified, who is about to look, or who has yet to notify one, but for as many as notifications were
coalesced; and the queue is open unless somebody has yet to notify all.
-/

namespace PolicyWatch.Reprocess

namespace QueueSystem

/-! ## Enough are notified -/

/-- The number of notifications that would be coalesced: one, if a permit is stored already while
more than one is about to wait. -/
def coalesces (notify : Notify) (aboutToWait : Nat) : Nat :=
  if notify.hasPermit = true ∧ 1 < aboutToWait then 1 else 0

/-- Whether enough are notified for the IDs in the queue, given how many are about to wait and how
many will look without being notified.  None need be if nobody waits and the stored permit is enough
for those who are about to. -/
def Suffices (notify : Notify) (aboutToWait looking waiting : Nat) : Prop :=
  notify.hasPermit.toNat < notify.waiters.length + aboutToWait →
    waiting ≤ notify.notifiedOne.length + notify.hasPermit.toNat + looking

namespace Suffices

variable {notify after : Notify} {aboutToWait looking waiting : Nat}

theorem of_nobody (nobody : notify.waiters = []) (none : aboutToWait = 0) :
    Suffices notify aboutToWait looking waiting := by
  intro more
  rw [nobody, none] at more
  exact absurd more (Nat.not_lt_zero _)

theorem mono (enough : Suffices notify aboutToWait looking waiting)
    {isAboutToWait looks waits : Nat}
    (asMany : after.hasPermit.toNat < after.waiters.length + isAboutToWait →
      notify.hasPermit.toNat < notify.waiters.length + aboutToWait)
    (asGood : waits + (notify.notifiedOne.length + notify.hasPermit.toNat + looking) ≤
      waiting + (after.notifiedOne.length + after.hasPermit.toNat + looks)) :
    Suffices after isAboutToWait looks waits := by
  intro more
  have before := enough (asMany more)
  omega

/-- A notification that is not coalesced is as good as somebody who will look. -/
theorem notifyOne (enough : Suffices notify aboutToWait (looking + 1) waiting)
    (kept : notify.hasPermit = true → notify.waiters = []) :
    Suffices notify.notifyOne.2 aboutToWait (looking + coalesces notify aboutToWait) waiting := by
  unfold Suffices coalesces at *
  cases waits : notify.waiters with
  | nil =>
      rw [Notify.notifyOne_of_nil waits]
      cases hasPermit : notify.hasPermit with
      | false =>
          simp only [waits, hasPermit, Bool.toNat_false, Bool.toNat_true, List.length_nil]
            at enough ⊢
          omega
      | true =>
          simp only [waits, hasPermit, Bool.toNat_true, List.length_nil, true_and] at enough ⊢
          intro more
          -- The stored permit is not enough for those in between, so this notification is lost.
          have isCoalesced : 1 < aboutToWait := by omega
          rw [if_pos isCoalesced]
          have before := enough more
          omega
  | cons first rest =>
      have unkept : notify.hasPermit = false := Bool.eq_false_iff.2 fun hasPermit => by
        cases waits.symm.trans (kept hasPermit)
      rw [Notify.notifyOne_of_cons waits]
      simp only [waits, unkept, Bool.toNat_false, List.length_cons, List.length_append,
        List.length_nil] at enough ⊢
      omega

end Suffices

/-- The number of callers who have found nothing and are about to wait. -/
def aboutToWait (inbox : Inbox) (callers : List (Operation × Caller)) : Nat :=
  tally (Caller.isAboutToWait inbox.notify.broadcasts) callers

/-- The number of callers who will look into the queue, or notify one for an ID that they have put
there. -/
def active (callers : List (Operation × Caller)) : Nat :=
  tally Caller.looks callers + tally Caller.isNotifying callers

/-- Whether enough are notified for the IDs in the queue, but for what was coalesced. -/
def Covered (inbox : Inbox) (callers : List (Operation × Caller)) (coalesced : Nat) : Prop :=
  Suffices inbox.notify (aboutToWait inbox callers) (active callers + coalesced)
    inbox.queue.order.length

namespace Covered

variable {inbox changed : Inbox} {callers : List (Operation × Caller)} {number coalesced : Nat}
  {operation : Operation} {caller next : Caller} (covered : Covered inbox callers coalesced)

include covered

theorem join (operation : Operation) :
    Covered inbox (callers ++ [(operation, operation.begin)]) coalesced := by
  have quiet : (operation.begin.isAboutToWait inbox.notify.broadcasts).toNat = 0 := by
    cases operation <;> rfl
  unfold Covered aboutToWait active at covered ⊢
  rw [tally_append, tally_append, tally_append, quiet]
  exact covered.mono id (by omega)

/-- A caller notifies one, unless that is coalesced. -/
theorem notifyOne (notified : Notified inbox callers)
    (here : callers[number]? = some (operation, .notifying next))
    (staysDetached : next.isDetached = true) :
    Covered { inbox with notify := inbox.notify.notifyOne.2 } (callers.set number (operation, next))
      (coalesced + coalesces inbox.notify (aboutToWait inbox callers)) := by
  have idle := Caller.isIdle_of_isDetached staysDetached
  have looking := tally_set Caller.looks here next
  have notifying := tally_set Caller.isNotifying here next
  have isAboutToWait := tally_set (Caller.isAboutToWait inbox.notify.broadcasts) here next
  rw [idle.noLook] at looking
  rw [idle.notAboutToWait] at isAboutToWait
  rw [idle.notNotifying] at notifying
  change _ + 1 = _ + 0 at notifying
  have one : active callers + coalesced =
      active (callers.set number (operation, next)) + coalesced + 1 := by
    unfold active
    rw [Nat.add_right_cancel looking]
    omega
  unfold Covered aboutToWait at *
  rw [Notify.broadcasts_notifyOne, Nat.add_right_cancel isAboutToWait, ← Nat.add_assoc]
  rw [one] at covered
  exact covered.notifyOne notified.kept

/-- A caller takes the stored permit, and will look itself. -/
theorem takePermit (notified : Notified inbox callers) {broadcasts : Nat}
    (here : callers[number]? = some (operation, .popping (.foundNone broadcasts)))
    (hasPermit : inbox.notify.hasPermit = true) :
    Covered { inbox with notify := { inbox.notify with hasPermit := false } }
      (callers.set number (operation, .popping .starting)) coalesced := by
  have looking := tally_set Caller.looks here (.popping .starting)
  have notifying := tally_set Caller.isNotifying here (.popping .starting)
  have isAboutToWait :=
    tally_set (Caller.isAboutToWait inbox.notify.broadcasts) here (.popping .starting)
  change _ + 0 = _ + 1 at looking
  change _ = _ + 0 at isAboutToWait
  unfold Covered aboutToWait active at *
  dsimp only
  rw [Nat.add_right_cancel notifying]
  by_cases stale : inbox.notify.broadcasts = broadcasts
  · subst stale
    rw [Caller.isAboutToWait_foundNone, Bool.toNat_true] at isAboutToWait
    refine covered.mono ?_ ?_
    · dsimp only
      rw [hasPermit, Bool.toNat_true, Bool.toNat_false]
      omega
    · dsimp only
      rw [hasPermit, Bool.toNat_true, Bool.toNat_false]
      omega
  · -- Since it has missed a broadcast, nobody is left who would have to be notified.
    rw [(notified.of_stale here stale).2] at isAboutToWait
    exact .of_nobody (notified.kept hasPermit) (Nat.eq_zero_of_add_eq_zero_right isAboutToWait)

/-- It stays enough when a caller comes no nearer to waiting, and no more of those who look, notify
or were notified are given up than IDs are taken out of the queue. -/
theorem shift (here : callers[number]? = some (operation, caller))
    (samePermit : changed.notify.hasPermit = inbox.notify.hasPermit)
    (sameWaiters : changed.notify.waiters = inbox.notify.waiters)
    (sameBroadcasts : changed.notify.broadcasts = inbox.notify.broadcasts)
    (asNear : next.isAboutToWait inbox.notify.broadcasts =
      caller.isAboutToWait inbox.notify.broadcasts)
    (asGood : changed.queue.order.length +
        (inbox.notify.notifiedOne.length + caller.looks.toNat + caller.isNotifying.toNat) ≤
      inbox.queue.order.length +
        (changed.notify.notifiedOne.length + next.looks.toNat + next.isNotifying.toNat)) :
    Covered changed (callers.set number (operation, next)) coalesced := by
  have looking := tally_set Caller.looks here next
  have notifying := tally_set Caller.isNotifying here next
  have isAboutToWait := tally_set (Caller.isAboutToWait inbox.notify.broadcasts) here next
  rw [asNear] at isAboutToWait
  unfold Covered aboutToWait active at *
  rw [sameBroadcasts, Nat.add_right_cancel isAboutToWait]
  refine covered.mono ?_ ?_
  · rw [samePermit, sameWaiters]
    exact id
  · rw [samePermit]
    omega

/-- A caller begins to wait, and is among those who may be notified. -/
theorem poll (here : callers[number]? =
      some (operation, .popping (.foundNone inbox.notify.broadcasts))) :
    Covered
      { inbox with notify := { inbox.notify with waiters := inbox.notify.waiters ++ [number] } }
      (callers.set number (operation, .popping .waiting)) coalesced := by
  have looking := tally_set Caller.looks here (.popping .waiting)
  have notifying := tally_set Caller.isNotifying here (.popping .waiting)
  have isAboutToWait :=
    tally_set (Caller.isAboutToWait inbox.notify.broadcasts) here (.popping .waiting)
  rw [Caller.isAboutToWait_foundNone] at isAboutToWait
  change _ + 1 = _ + 0 at isAboutToWait
  unfold Covered aboutToWait active at *
  rw [Nat.add_right_cancel looking, Nat.add_right_cancel notifying]
  refine covered.mono ?_ (Nat.le_refl _)
  dsimp only
  rw [List.length_append, List.length_singleton]
  omega

omit covered in
theorem of_empty (isEmpty : inbox.queue.order = []) : Covered inbox callers coalesced := by
  intro _
  rw [isEmpty]
  exact Nat.zero_le _

omit covered in
/-- Who has missed a broadcast looks again, and then nobody waits any more. -/
theorem seeBroadcast (notified : Notified inbox callers) {broadcasts : Nat}
    (here : callers[number]? = some (operation, .popping (.foundNone broadcasts)))
    (stale : inbox.notify.broadcasts ≠ broadcasts) :
    Covered inbox (callers.set number (operation, .popping .starting)) coalesced := by
  have isAboutToWait :=
    tally_set (Caller.isAboutToWait inbox.notify.broadcasts) here (.popping .starting)
  obtain ⟨nobody, none⟩ := notified.of_stale here stale
  rw [none] at isAboutToWait
  exact .of_nobody nobody (Nat.eq_zero_of_add_eq_zero_right isAboutToWait)

omit covered in
/-- A broadcast leaves nobody waiting, nor about to wait. -/
theorem notifyWaiters (notified : Notified inbox callers)
    (here : callers[number]? = some (operation, .notifyingAll)) :
    Covered { inbox with notify := inbox.notify.notifyWaiters.2 }
      (callers.set number (operation, .told .closed)) coalesced := by
  have isAboutToWait :=
    tally_set (Caller.isAboutToWait (inbox.notify.broadcasts + 1)) here (.told .closed)
  rw [notified.isAboutToWait_succ] at isAboutToWait
  exact .of_nobody rfl (Nat.eq_zero_of_add_eq_zero_right isAboutToWait)

theorem move (notified : Notified inbox callers)
    (here : callers[number]? = some (operation, caller)) (notNotifying : caller.isNotifying = false)
    (moved : Caller.Move number inbox caller next changed) :
    Covered changed (callers.set number (operation, next)) coalesced := by
  cases moved with
  | detached isDetached staysDetached =>
      have idle := Caller.isIdle_of_isDetached isDetached
      have stays := Caller.isIdle_of_isDetached staysDetached
      refine covered.shift here rfl rfl rfl
        ((stays.notAboutToWait _).trans (idle.notAboutToWait _).symm) (Nat.le_of_eq ?_)
      rw [idle.noLook, stays.noLook, idle.notNotifying, stays.notNotifying]
  | push isDetached staysDetached grown =>
      have idle := Caller.isIdle_of_isDetached isDetached
      refine covered.shift here rfl rfl rfl (idle.notAboutToWait _).symm ?_
      -- For the ID in the queue there is the one who has yet to notify.
      rw [idle.noLook, idle.notNotifying]
      change _ + (_ + 0 + 0) ≤ _ + (_ + 0 + 1)
      dsimp only
      omega
  | notifyOne => cases notNotifying
  | listen => exact covered.shift here rfl rfl rfl rfl (Nat.le_refl _)
  | take shrunk =>
      refine covered.shift here rfl rfl rfl rfl ?_
      change _ + (_ + 1 + 0) ≤ _ + (_ + 0 + 0)
      dsimp only
      omega
  | drained isEmpty => exact of_empty isEmpty
  | findNone isEmpty => exact of_empty isEmpty
  | takePermit hasPermit => exact takePermit covered notified here hasPermit
  | seeBroadcast _ stale => exact seeBroadcast notified here stale
  | poll => exact poll covered here
  | complete =>
      refine covered.shift here rfl rfl rfl rfl ?_
      have fewer := List.le_length_erase (a := number) (l := inbox.notify.notifiedOne)
      change _ + (_ + 0 + 0) ≤ _ + ((inbox.notify.notifiedOne.erase number).length + 1 + 0)
      dsimp only
      omega
  | close => exact covered.shift here rfl rfl rfl rfl (Nat.le_refl _)
  | notifyWaiters => exact notifyWaiters notified here

/-- A waiter goes away.  Its notification goes to the next, unless it is coalesced. -/
theorem leave (notified : Notified inbox callers)
    (here : callers[number]? = some (operation, .popping .waiting)) :
    Covered { inbox with notify := (inbox.notify.leave number).2 }
      (callers.set number (operation, .away))
      (coalesced + if number ∈ inbox.notify.notifiedOne then
        coalesces inbox.notify (aboutToWait inbox callers) else 0) := by
  have looking := tally_set Caller.looks here .away
  have notifying := tally_set Caller.isNotifying here .away
  have isAboutToWait := tally_set (Caller.isAboutToWait inbox.notify.broadcasts) here .away
  unfold Covered aboutToWait active at *
  rw [Notify.broadcasts_leave, Nat.add_right_cancel looking, Nat.add_right_cancel notifying,
    Nat.add_right_cancel isAboutToWait]
  by_cases wasNotified : number ∈ inbox.notify.notifiedOne
  · have one := List.length_erase_of_mem wasNotified
    have some := List.length_pos_of_mem wasNotified
    rw [if_pos wasNotified, Notify.leave_of_mem wasNotified, ← Nat.add_assoc]
    have completed : Suffices (inbox.notify.complete number)
        (tally (Caller.isAboutToWait inbox.notify.broadcasts) callers)
        (tally Caller.looks callers + tally Caller.isNotifying callers + coalesced + 1)
        inbox.queue.order.length := by
      refine covered.mono id ?_
      dsimp only [Notify.complete]
      omega
    exact completed.notifyOne notified.kept
  · have fewer := List.length_erase_le (a := number) (l := inbox.notify.waiters)
    rw [if_neg wasNotified, Notify.leave_of_not_mem wasNotified, Nat.add_zero]
    refine covered.mono ?_ ?_
    · dsimp only [Notify.complete]
      omega
    · dsimp only [Notify.complete]
      rewrite [List.erase_of_not_mem wasNotified]
      exact Nat.le_refl _

end Covered

/-! ## Whole runs -/

variable {system : QueueSystem} {number coalesced : Nat}

/-- The number of notifications that are coalesced when one is made or passed on. -/
def coalescesNext (system : QueueSystem) : Nat :=
  coalesces system.inbox.notify (aboutToWait system.inbox system.callers)

/-- The number of notifications that are coalesced by a turn of a caller. -/
def coalescedBy (system : QueueSystem) (number : Nat) : Nat :=
  match system.callers[number]? with
  | some (_, .notifying _) => system.coalescesNext
  | _ => 0

theorem coalescedBy_eq {operation : Operation} {caller : Caller}
    (here : system.callers[number]? = some (operation, caller)) :
    system.coalescedBy number = if caller.isNotifying then system.coalescesNext else 0 := by
  unfold coalescedBy
  rw [here]
  cases caller <;> rfl

/-- What can become of a new queue and its callers, with the number of notifications that were
coalesced.  Poppers may go away while they wait. -/
inductive Counted : QueueSystem → Nat → Prop where
  | start : Counted opened 0
  | come {system : QueueSystem} {coalesced : Nat}
      (counted : Counted system coalesced) (operation : Operation) :
      Counted (system.joined operation) coalesced
  | turn {system : QueueSystem} {coalesced number : Nat} {operation : Operation}
      {caller next : Caller}
      {occurred? : Option Occurrence} {inbox : Inbox} (counted : Counted system coalesced)
      (here : system.callers[number]? = some (operation, caller))
      (taken : caller.step? number system.inbox = some (next, occurred?, inbox)) :
      Counted (system.moved number operation next occurred? inbox)
        (coalesced + system.coalescedBy number)
  | leave {system : QueueSystem} {coalesced number : Nat} {operation : Operation}
      (counted : Counted system coalesced)
      (here : system.callers[number]? = some (operation, .popping .waiting)) :
      Counted
        (system.moved number operation .away none (Popper.waiting.leave number system.inbox).2)
        (coalesced + if number ∈ system.inbox.notify.notifiedOne then system.coalescesNext else 0)

/-- What holds at any time, given the number of notifications that were coalesced. -/
structure NotifyInvariant (system : QueueSystem) (coalesced : Nat) : Prop where
  orderly : ∀ entry ∈ system.callers, ∀ later, entry.2 = .notifying later → later.isDetached = true
  registered : Registered system.inbox.notify system.callers
  notified : Notified system.inbox system.callers
  covered : Covered system.inbox system.callers coalesced

namespace NotifyInvariant

theorem start : NotifyInvariant opened 0 := by
  have nobody : ∀ {caller : Operation × Caller}, caller ∉ opened.callers := List.not_mem_nil
  refine ⟨fun _ impossible => absurd impossible nobody, ⟨.nil, fun other => ?_⟩,
    ⟨?_, ?_, ?_, ?_⟩, ?_⟩
  · refine iff_of_false List.not_mem_nil ?_
    rintro ⟨_, impossible⟩
    cases impossible
  · exact fun _ impossible => absurd impossible nobody
  · decide
  · exact fun impossible => absurd impossible (Nat.lt_irrefl 0)
  · exact fun _ => rfl
  · exact .of_nobody rfl rfl

variable (invariant : NotifyInvariant system coalesced)

include invariant

theorem come (operation : Operation) : NotifyInvariant (system.joined operation) coalesced := by
  refine ⟨fun entry member later notifying => ?_, invariant.registered.join operation,
    invariant.notified.join operation, invariant.covered.join operation⟩
  rcases List.mem_append.1 member with known | isLast
  · exact invariant.orderly entry known later notifying
  · cases List.mem_singleton.1 isLast
    cases operation <;> cases notifying

theorem turn {operation : Operation} {caller later : Caller} {occurred? : Option Occurrence}
    {inbox : Inbox} (here : system.callers[number]? = some (operation, caller))
    (taken : caller.step? number system.inbox = some (later, occurred?, inbox)) :
    NotifyInvariant (system.moved number operation later occurred? inbox)
      (coalesced + system.coalescedBy number) := by
  have moved := Caller.Move.of_step? taken
  have orderly := invariant.orderly _ (List.mem_of_getElem? here)
  refine ⟨fun entry member => ?_, invariant.registered.move here orderly moved,
    invariant.notified.move here orderly moved, ?_⟩
  · rcases List.mem_or_eq_of_mem_set member with known | rfl
    · exact invariant.orderly entry known
    · exact moved.orderly orderly
  · rw [coalescedBy_eq here]
    cases isNotifying : caller.isNotifying with
    | false =>
        rw [if_neg Bool.false_ne_true, Nat.add_zero]
        exact invariant.covered.move invariant.notified here isNotifying moved
    | true =>
        cases caller with
        | notifying next =>
            cases taken
            rw [if_pos rfl]
            exact invariant.covered.notifyOne invariant.notified here (orderly _ rfl)
        | _ => cases isNotifying

theorem leave {operation : Operation}
    (here : system.callers[number]? = some (operation, .popping .waiting)) :
    NotifyInvariant
      (system.moved number operation .away none (Popper.waiting.leave number system.inbox).2)
      (coalesced +
        if number ∈ system.inbox.notify.notifiedOne then system.coalescesNext else 0) := by
  have inside := (invariant.registered.waiting_iff number).2 ⟨operation, here⟩
  refine ⟨fun entry member later notifying => ?_, ?_, invariant.notified.leave here,
    invariant.covered.leave invariant.notified here⟩
  · rcases List.mem_or_eq_of_mem_set member with known | rfl
    · exact invariant.orderly entry known later notifying
    · cases notifying
  · exact invariant.registered.unregister here
      (Notify.registered_leave invariant.registered.once inside) Caller.noConfusion

end NotifyInvariant

theorem Counted.invariant (counted : Counted system coalesced) :
    NotifyInvariant system coalesced := by
  induction counted with
  | start => exact .start
  | come _ operation ih => exact ih.come operation
  | turn _ here taken ih => exact ih.turn here taken
  | leave _ here ih => exact ih.leave here

/-- The system after turns of callers, with the number of notifications that were coalesced. -/
def countTurns (system : QueueSystem) (coalesced : Nat) : List Nat → QueueSystem × Nat
  | [] => (system, coalesced)
  | number :: rest => countTurns (system.turn number) (coalesced + system.coalescedBy number) rest

namespace Counted

theorem afterTurn (counted : Counted system coalesced) (number : Nat) :
    Counted (system.turn number) (coalesced + system.coalescedBy number) := by
  unfold QueueSystem.turn
  split
  · rename_i nobody
    rw [coalescedBy, nobody]
    exact counted
  · rename_i operation caller here
    split
    · rename_i waits
      rw [coalescedBy_eq here]
      cases caller with
      | notifying next => cases waits
      | _ => exact counted
    · rename_i taken
      exact counted.turn here taken

theorem countTurns (counted : Counted system coalesced) (numbers : List Nat) :
    Counted (system.countTurns coalesced numbers).1 (system.countTurns coalesced numbers).2 := by
  induction numbers generalizing system coalesced with
  | nil => exact counted
  | cons number rest ih => exact ih (counted.afterTurn number)

theorem reachable (counted : Counted system coalesced) : Reachable system := by
  induction counted with
  | start => exact .start
  | come _ operation ih => exact ih.step (.come operation)
  | turn _ here taken ih => exact ih.step (.turn here taken)
  | leave _ here ih => exact ih.step (.leave here)

end Counted

/-- What holds while somebody waits who was not notified, given the number of notifications that
were coalesced. -/
structure WakesEnough (system : QueueSystem) (coalesced : Nat) : Prop where
  closing : system.queue.isClosed = true → 0 < tally Caller.isNotifyingAll system.callers
  unkept : system.inbox.notify.hasPermit = false
  distinct : system.inbox.notify.notifiedOne.Nodup
  sleeping : ∀ other ∈ system.inbox.notify.notifiedOne, IsWaiting system.callers other
  enough : system.queue.order.length ≤ system.inbox.notify.notifiedOne.length +
    tally Caller.looks system.callers + tally Caller.isNotifying system.callers + coalesced

/-- Whoever waits without being notified does so beside no more IDs than others were notified for,
will look for or have yet to notify one for, and notifications were coalesced for. -/
theorem wakes_enough (counted : Counted system coalesced)
    (isWaiting : IsWaiting system.callers number)
    (unnotified : system.inbox.notify.isNotified number = false) :
    WakesEnough system coalesced := by
  obtain ⟨-, registered, notified, covered⟩ := counted.invariant
  have notNotified := mt Notify.isNotified_iff.2 (Bool.eq_false_iff.1 unnotified)
  have isListed : number ∈ system.inbox.notify.waiters :=
    (Notify.mem_registered.1 ((registered.waiting_iff number).2 isWaiting)).resolve_right
      notNotified
  have some := List.length_pos_of_mem isListed
  have unkept : system.inbox.notify.hasPermit = false := Bool.eq_false_iff.2 fun hasPermit => by
    rw [notified.kept hasPermit] at some
    exact Nat.lt_irrefl 0 some
  refine ⟨fun isClosed => ?_, unkept, ?_, fun other member => ?_, ?_⟩
  · refine (notified.closed_iff.1 isClosed).resolve_left fun later => ?_
    rw [(notified.quiet later).1] at some
    exact Nat.lt_irrefl 0 some
  · exact (List.nodup_append.1 (List.nodup_append.1 registered.once).1).2.1
  · exact (registered.waiting_iff other).1 (Notify.mem_registered.2 (.inr (.inl member)))
  · have waits := covered (by rw [unkept]; exact Nat.lt_add_right _ some)
    unfold active at waits
    rw [unkept] at waits
    change _ ≤ _ + 0 + _ at waits
    unfold queue
    omega

/-- Of two who wait, one push notifies the first. -/
theorem wakes_enough_for_one :
    ∃ system : QueueSystem, WakesEnough system 0 ∧ system.queue.order = ["a"] ∧
    system.inbox.notify = ⟨false, [1], [0], [], 0⟩ := by
  have come := ((Counted.start.come .pop).come .pop).come (.push "a")
  have counted := come.countTurns [0, 0, 0, 1, 1, 1, 2, 2]
  refine ⟨_, @wakes_enough _ 1 _ counted ⟨.pop, ?_⟩ ?_, ?_⟩ <;> decide +kernel

/-- Two who have looked into the empty queue, and two who push.  Their two notifications make one
permit, and only one ID is taken, while the other is left beside somebody who waits. -/
theorem second_notification_coalesced :
    ∃ system : QueueSystem, Counted system 1 ∧ Reachable system ∧
    system.callers.map Prod.snd = [.told (.popped (some "a")), .popping .waiting,
      .told (.pushed true), .told (.pushed true)] ∧
    system.queue.order = ["b"] ∧ system.inbox.notify = ⟨false, [1], [], [], 0⟩ := by
  have come := (((Counted.start.come .pop).come .pop).come (.push "a")).come (.push "b")
  have counted := come.countTurns [0, 0, 1, 1, 2, 2, 3, 3, 0, 0, 0, 1]
  refine ⟨_, counted, counted.reachable, ?_⟩
  decide +kernel

end QueueSystem

end PolicyWatch.Reprocess
