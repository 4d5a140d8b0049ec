import PolicyWatch.Proofs.Queue.Moves

/-!
# Waiters

Who waits for a notification, and when nobody does.  Main statements: a turn of a caller keeps just
those registered who wait, each once, and after a broadcast, or while a permit is stored, nobody
waits who was not notified.
-/

namespace PolicyWatch.Reprocess

namespace QueueSystem

/-! ## Counting callers -/

/-- The number of callers of whom something holds. -/
def tally (stands : Caller → Bool) (callers : List (Operation × Caller)) : Nat :=
  callers.countP fun entry => stands entry.2

section Callers

variable {callers : List (Operation × Caller)} {number : Nat} {operation : Operation}
  {caller : Caller}

theorem tally_append (stands : Caller → Bool) (callers : List (Operation × Caller))
    (entry : Operation × Caller) :
    tally stands (callers ++ [entry]) = tally stands callers + (stands entry.2).toNat := by
  unfold tally
  rw [List.countP_append, List.countP_singleton]
  cases stands entry.2 <;> rfl

theorem tally_set (stands : Caller → Bool) (here : callers[number]? = some (operation, caller))
    (next : Caller) :
    tally stands (callers.set number (operation, next)) + (stands caller).toNat =
      tally stands callers + (stands next).toNat := by
  obtain ⟨inside, is⟩ := List.getElem?_eq_some_iff.1 here
  have asNat : ∀ holds : Bool, (if holds = true then 1 else 0) = holds.toNat := by decide
  have part := List.boole_getElem_le_countP (p := fun entry => stands entry.2) inside
  unfold tally
  rw [List.countP_set inside]
  rw [is] at part ⊢
  dsimp only at part ⊢
  rw [asNat] at part
  rw [asNat, asNat]
  omega

def IsWaiting (callers : List (Operation × Caller)) (number : Nat) : Prop :=
  ∃ operation, callers[number]? = some (operation, .popping .waiting)

theorem isWaiting_set (here : callers[number]? = some (operation, caller)) (next : Caller)
    (other : Nat) :
    IsWaiting (callers.set number (operation, next)) other ↔
      if number = other then next = .popping .waiting else IsWaiting callers other := by
  obtain ⟨inside, _⟩ := List.getElem?_eq_some_iff.1 here
  unfold IsWaiting
  rw [List.getElem?_set]
  by_cases same : number = other
  · rw [if_pos same, if_pos same, if_pos inside]
    constructor
    · rintro ⟨_, is⟩
      cases is
      rfl
    · rintro rfl
      exact ⟨operation, rfl⟩
  · rw [if_neg same, if_neg same]

theorem isWaiting_here (here : callers[number]? = some (operation, caller)) :
    IsWaiting callers number ↔ caller = .popping .waiting := by
  unfold IsWaiting
  rw [here]
  constructor
  · rintro ⟨_, is⟩
    cases is
    rfl
  · rintro rfl
    exact ⟨operation, rfl⟩

end Callers

/-! ## Who is registered -/

/-- Whether just the callers that wait are registered with a notifier, each once. -/
structure Registered (notify : Notify) (callers : List (Operation × Caller)) : Prop where
  once : notify.registered.Nodup
  waiting_iff : ∀ number, number ∈ notify.registered ↔ IsWaiting callers number

namespace Registered

variable {notify after : Notify} {callers : List (Operation × Caller)} {number : Nat}
  {operation : Operation}
  {caller next : Caller} (registered : Registered notify callers)

include registered

theorem join (operation : Operation) :
    Registered notify (callers ++ [(operation, operation.begin)]) := by
  refine ⟨registered.once, fun other =>
    (registered.waiting_iff other).trans (exists_congr fun its => ?_)⟩
  rw [List.getElem?_append]
  split
  · rfl
  · rename_i outside
    rw [List.getElem?_eq_none (Nat.le_of_not_lt outside)]
    refine iff_of_false (fun impossible => by cases impossible) fun isLast => ?_
    have same := List.mem_singleton.1 (List.mem_of_getElem? isLast)
    cases operation <;> cases same

/-- Nobody begins to wait or stops. -/
theorem stay (here : callers[number]? = some (operation, caller))
    (same : after.registered.Perm notify.registered)
    (wasUp : caller ≠ .popping .waiting) (isUp : next ≠ .popping .waiting) :
    Registered after (callers.set number (operation, next)) := by
  refine ⟨same.nodup_iff.2 registered.once, fun other => ?_⟩
  rw [same.mem_iff, registered.waiting_iff, isWaiting_set here]
  by_cases isHere : number = other
  · subst isHere
    rw [if_pos rfl, isWaiting_here here]
    exact iff_of_false wasUp isUp
  · rw [if_neg isHere]

theorem register (here : callers[number]? = some (operation, caller))
    (more : after.registered.Perm (number :: notify.registered))
    (wasUp : caller ≠ .popping .waiting) :
    Registered after (callers.set number (operation, .popping .waiting)) := by
  have isNew : number ∉ notify.registered := by
    rw [registered.waiting_iff, isWaiting_here here]
    exact wasUp
  refine ⟨more.nodup_iff.2 (List.nodup_cons.2 ⟨isNew, registered.once⟩), fun other => ?_⟩
  rw [more.mem_iff, List.mem_cons, registered.waiting_iff, isWaiting_set here]
  by_cases isHere : number = other
  · rw [if_pos isHere]
    exact iff_of_true (.inl isHere.symm) rfl
  · rw [if_neg isHere]
    exact or_iff_right (Ne.symm isHere)

/-- A caller gets up or goes away. -/
theorem unregister (here : callers[number]? = some (operation, .popping .waiting))
    (less : notify.registered.Perm (number :: after.registered)) (isUp : next ≠ .popping .waiting) :
    Registered after (callers.set number (operation, next)) := by
  obtain ⟨isGone, once⟩ := List.nodup_cons.1 (less.nodup_iff.1 registered.once)
  refine ⟨once, fun other => ?_⟩
  rw [isWaiting_set here]
  by_cases isHere : number = other
  · rw [if_pos isHere, ← isHere]
    exact iff_of_false isGone isUp
  · rw [if_neg isHere, ← registered.waiting_iff, less.mem_iff, List.mem_cons]
    exact (or_iff_right (Ne.symm isHere)).symm

end Registered

section Moves

variable {inbox changed : Inbox} {callers : List (Operation × Caller)} {number : Nat}
  {operation : Operation} {caller next : Caller}
  (here : callers[number]? = some (operation, caller))
  (orderly : ∀ later, caller = .notifying later → later.isDetached = true)
  (moved : Caller.Move number inbox caller next changed)

include here orderly moved

/-- Just those who wait are registered after a turn of a caller. -/
theorem Registered.move (registered : Registered inbox.notify callers) :
    Registered changed.notify (callers.set number (operation, next)) := by
  have awake : ∀ {caller : Caller}, caller.isDetached = true → caller ≠ .popping .waiting :=
    fun isDetached => (Caller.isIdle_of_isDetached isDetached).notWaiting
  cases moved with
  | detached isDetached staysDetached =>
      exact registered.stay here (.refl _) (awake isDetached) (awake staysDetached)
  | push isDetached staysDetached =>
      exact registered.stay here (.refl _) (awake isDetached) Caller.noConfusion
  | notifyOne =>
      exact registered.stay here (Notify.registered_notifyOne _)
        Caller.noConfusion (awake (orderly next rfl))
  | poll =>
      exact registered.register here (Notify.registered_snoc _ number) (fun same => by cases same)
  | complete woken =>
      exact registered.unregister here (Notify.registered_complete registered.once woken)
        (fun same => by cases same)
  | notifyWaiters =>
      exact registered.stay here (Notify.registered_notifyWaiters _) Caller.noConfusion
        Caller.noConfusion
  | close => exact registered.stay here (.refl _) Caller.noConfusion Caller.noConfusion
  | _ =>
      exact registered.stay here (.refl _) (fun same => by cases same) (fun same => by cases same)

end Moves

/-! ## Broadcasts -/

/-- What broadcasts and the stored permit tell: nobody has listened since a later broadcast; whoever
closes the queue notifies all; after that nobody waits or is about to; and a permit is stored only
if nobody waits. -/
structure Notified (inbox : Inbox) (callers : List (Operation × Caller)) : Prop where
  heard : ∀ entry ∈ callers, ∀ broadcasts, entry.2.since? = some broadcasts →
    broadcasts ≤ inbox.notify.broadcasts
  closed_iff : inbox.queue.isClosed = true ↔
    0 < inbox.notify.broadcasts ∨ 0 < tally Caller.isNotifyingAll callers
  quiet : 0 < inbox.notify.broadcasts →
    inbox.notify.waiters = [] ∧ tally (Caller.isAboutToWait inbox.notify.broadcasts) callers = 0
  kept : inbox.notify.hasPermit = true → inbox.notify.waiters = []

namespace Notified

variable {inbox changed : Inbox} {callers : List (Operation × Caller)} {number : Nat}
  {operation : Operation} {caller next : Caller}

/-- After one more broadcast nobody is about to wait. -/
theorem isAboutToWait_succ (notified : Notified inbox callers) :
    tally (Caller.isAboutToWait (inbox.notify.broadcasts + 1)) callers = 0 := by
  refine List.countP_eq_zero.2 fun entry member isAboutToWait => ?_
  obtain ⟨operation, caller⟩ := entry
  cases caller with
  | popping popper =>
      cases popper with
      | foundNone broadcasts =>
          have few := notified.heard _ member broadcasts rfl
          have same : broadcasts = inbox.notify.broadcasts + 1 := beq_iff_eq.1 isAboutToWait
          omega
      | _ => cases isAboutToWait
  | _ => cases isAboutToWait

/-- Who has missed a broadcast is not the only one: nobody waits or is about to. -/
theorem of_stale (notified : Notified inbox callers) {broadcasts : Nat}
    (here : callers[number]? = some (operation, .popping (.foundNone broadcasts)))
    (stale : inbox.notify.broadcasts ≠ broadcasts) :
    inbox.notify.waiters = [] ∧
      tally (Caller.isAboutToWait inbox.notify.broadcasts) callers = 0 := by
  have heard := notified.heard _ (List.mem_of_getElem? here) broadcasts rfl
  exact notified.quiet (by omega)

section Moves

variable (notified : Notified inbox callers) (here : callers[number]? = some (operation, caller))
  (orderly : ∀ later, caller = .notifying later → later.isDetached = true)
  (moved : Caller.Move number inbox caller next changed)

include notified here orderly moved

theorem heard_move : ∀ entry ∈ callers.set number (operation, next), ∀ broadcasts,
    entry.2.since? = some broadcasts → broadcasts ≤ changed.notify.broadcasts := by
  have before := notified.heard _ (List.mem_of_getElem? here)
  have later : inbox.notify.broadcasts ≤ changed.notify.broadcasts := by
    cases moved with
    | notifyOne => exact Nat.le_of_eq (Notify.broadcasts_notifyOne _).symm
    | notifyWaiters => exact Nat.le_succ _
    | _ => exact Nat.le_refl _
  intro entry member broadcasts since
  refine Nat.le_trans ?_ later
  rcases List.mem_or_eq_of_mem_set member with known | rfl
  · exact notified.heard entry known broadcasts since
  · cases moved with
    | detached isDetached staysDetached =>
        cases (Caller.isIdle_of_isDetached staysDetached).notListening.symm.trans since
    | notifyOne =>
        cases (Caller.isIdle_of_isDetached (orderly next rfl)).notListening.symm.trans since
    | listen =>
        cases since
        exact Nat.le_refl _
    | findNone => exact before broadcasts since
    | _ => cases since

theorem closed_iff_move : changed.queue.isClosed = true ↔
    0 < changed.notify.broadcasts ∨
      0 < tally Caller.isNotifyingAll (callers.set number (operation, next)) := by
  have count := tally_set Caller.isNotifyingAll here next
  have before := notified.closed_iff
  cases moved with
  | detached isDetached staysDetached =>
      rw [(Caller.isIdle_of_isDetached isDetached).notNotifyingAll,
        (Caller.isIdle_of_isDetached staysDetached).notNotifyingAll] at count
      rwa [Nat.add_right_cancel count]
  | push isDetached staysDetached grown sameClosed =>
      rw [(Caller.isIdle_of_isDetached isDetached).notNotifyingAll] at count
      rwa [Nat.add_right_cancel count, sameClosed]
  | notifyOne =>
      rw [(Caller.isIdle_of_isDetached (orderly next rfl)).notNotifyingAll] at count
      rwa [Nat.add_right_cancel count, Notify.broadcasts_notifyOne]
  | take shrunk sameClosed => rwa [Nat.add_right_cancel count, sameClosed]
  | close =>
      refine iff_of_true rfl (.inr ?_)
      change _ + 0 = _ + 1 at count
      omega
  | notifyWaiters =>
      refine iff_of_true (before.2 (.inr ?_)) (.inl (Nat.succ_pos _))
      change _ + 1 = _ + 0 at count
      omega
  | _ => rwa [Nat.add_right_cancel count]

theorem quiet_move (later : 0 < changed.notify.broadcasts) : changed.notify.waiters = [] ∧
    tally (Caller.isAboutToWait changed.notify.broadcasts)
      (callers.set number (operation, next)) = 0 := by
  have count := tally_set (Caller.isAboutToWait inbox.notify.broadcasts) here next
  cases moved with
  | detached isDetached staysDetached =>
      obtain ⟨nobody, none⟩ := notified.quiet later
      rw [(Caller.isIdle_of_isDetached staysDetached).notAboutToWait, none] at count
      exact ⟨nobody, Nat.eq_zero_of_add_eq_zero_right count⟩
  | notifyOne =>
      rw [Notify.broadcasts_notifyOne] at later ⊢
      obtain ⟨nobody, none⟩ := notified.quiet later
      rw [(Caller.isIdle_of_isDetached (orderly next rfl)).notAboutToWait, none] at count
      refine ⟨?_, Nat.eq_zero_of_add_eq_zero_right count⟩
      rw [Notify.notifyOne_of_nil nobody]
      exact nobody
  | findNone isEmpty isOpen => cases isOpen.symm.trans (notified.closed_iff.2 (.inl later))
  | poll =>
      obtain ⟨nobody, none⟩ := notified.quiet later
      rw [Caller.isAboutToWait_foundNone, none] at count
      cases count
  | notifyWaiters =>
      have count :=
        tally_set (Caller.isAboutToWait (inbox.notify.broadcasts + 1)) here (.told .closed)
      rw [notified.isAboutToWait_succ] at count
      exact ⟨rfl, count⟩
  | _ =>
      obtain ⟨nobody, none⟩ := notified.quiet later
      rw [none] at count
      exact ⟨nobody, Nat.eq_zero_of_add_eq_zero_right count⟩

theorem kept_move (hasPermit : changed.notify.hasPermit = true) : changed.notify.waiters = [] := by
  cases moved with
  | notifyOne => exact Notify.waiters_notifyOne notified.kept hasPermit
  | takePermit => cases hasPermit
  | poll unkept => cases unkept.symm.trans hasPermit
  | notifyWaiters => rfl
  | _ => exact notified.kept hasPermit

theorem move : Notified changed (callers.set number (operation, next)) :=
  ⟨notified.heard_move here orderly moved, notified.closed_iff_move here orderly moved,
    notified.quiet_move here orderly moved, notified.kept_move here orderly moved⟩

end Moves

/-- Who comes has not listened yet and has closed nothing. -/
theorem join (notified : Notified inbox callers) (operation : Operation) :
    Notified inbox (callers ++ [(operation, operation.begin)]) := by
  have quiet : ∀ since, (operation.begin.isAboutToWait since).toNat = 0 := by
    cases operation <;> exact fun _ => rfl
  have open? : operation.begin.isNotifyingAll.toNat = 0 := by
    cases operation <;> rfl
  refine ⟨fun entry member broadcasts since => ?_, ?_, ?_, notified.kept⟩
  · rcases List.mem_append.1 member with known | isLast
    · exact notified.heard entry known broadcasts since
    · cases List.mem_singleton.1 isLast
      cases operation <;> cases since
  · rw [tally_append, open?]
    exact notified.closed_iff
  · rw [tally_append, quiet]
    exact notified.quiet

/-- A waiter who goes away leaves the rest as they were. -/
theorem leave (notified : Notified inbox callers)
    (here : callers[number]? = some (operation, .popping .waiting)) :
    Notified { inbox with notify := (inbox.notify.leave number).2 }
      (callers.set number (operation, .away)) := by
  have sameBroadcasts : (inbox.notify.leave number).2.broadcasts = inbox.notify.broadcasts :=
    inbox.notify.broadcasts_leave _
  have others := tally_set Caller.isNotifyingAll here .away
  have aboutToWait := tally_set (Caller.isAboutToWait inbox.notify.broadcasts) here .away
  refine ⟨fun entry member broadcasts since => ?_, ?_, fun later => ?_, ?_⟩
  · rw [sameBroadcasts]
    rcases List.mem_or_eq_of_mem_set member with known | rfl
    · exact notified.heard entry known broadcasts since
    · cases since
  · rw [sameBroadcasts, Nat.add_right_cancel others]
    exact notified.closed_iff
  · dsimp only at later ⊢
    rw [sameBroadcasts] at later ⊢
    obtain ⟨nobody, none⟩ := notified.quiet later
    exact ⟨Notify.waiters_leave_of_nil nobody number, (Nat.add_right_cancel aboutToWait).trans none⟩
  · exact Notify.waiters_leave notified.kept

end Notified

end QueueSystem

end PolicyWatch.Reprocess
