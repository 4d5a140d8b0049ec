import Mathlib.Data.List.Nodup
import PolicyWatch.Proofs.Queue.Order

/-!
# Steps of callers

Who is registered with a notifier, and what a turn of a caller does to the notifier and to where the
caller stands.  Main statements: to notify one or all waiters and to drop a waiter leaves everybody
else registered, and every turn of a caller has one of thirteen forms.
-/

namespace PolicyWatch.Reprocess

/-! ## Beds -/

namespace Notify

variable {notify : Notify} {waiter : Nat}

/-- Everybody who waits: those who were not notified, and those who were and have not
seen it yet. -/
def registered (notify : Notify) :
    List Nat := notify.waiters ++ notify.notifiedOne ++ notify.notifiedAll

theorem mem_registered : waiter ∈ notify.registered ↔
    waiter ∈ notify.waiters ∨ waiter ∈ notify.notifiedOne ∨ waiter ∈ notify.notifiedAll := by
  unfold registered
  rw [List.mem_append, List.mem_append, or_assoc]

theorem isNotified_iff :
    notify.isNotified waiter = true ↔
      waiter ∈ notify.notifiedOne ∨ waiter ∈ notify.notifiedAll := by
  unfold isNotified
  rw [Bool.or_eq_true, List.contains_iff_mem, List.contains_iff_mem]

theorem notifyOne_of_nil (nobody : notify.waiters = []) :
    notify.notifyOne.2 = { notify with hasPermit := true } := by
  unfold notifyOne
  rw [nobody]

theorem notifyOne_of_cons {first : Nat} {rest : List Nat} (waits : notify.waiters = first :: rest) :
    notify.notifyOne.2 =
      { notify with waiters := rest, notifiedOne := notify.notifiedOne ++ [first] } := by
  unfold notifyOne
  rw [waits]

theorem broadcasts_notifyOne (notify : Notify) :
    notify.notifyOne.2.broadcasts = notify.broadcasts := by
  unfold notifyOne
  split <;> rfl

/-- Nobody waits while a permit is stored. -/
theorem waiters_notifyOne (kept : notify.hasPermit = true → notify.waiters = [])
    (hasPermit : notify.notifyOne.2.hasPermit = true) : notify.notifyOne.2.waiters = [] := by
  cases waits : notify.waiters with
  | nil =>
      rw [notifyOne_of_nil waits]
      exact waits
  | cons first rest =>
      rw [notifyOne_of_cons waits] at hasPermit
      cases waits.symm.trans (kept hasPermit)

theorem registered_notifyOne (notify : Notify) :
    notify.notifyOne.2.registered.Perm notify.registered := by
  cases waits : notify.waiters with
  | nil =>
      rw [notifyOne_of_nil waits]
      exact .refl _
  | cons first rest =>
      rw [notifyOne_of_cons waits]
      unfold registered
      rw [waits]
      refine List.perm_iff_count.2 fun other => ?_
      simp only [List.count_append, List.count_cons, List.count_nil]
      omega

/-- Who begins to wait is registered. -/
theorem registered_snoc (notify : Notify) (waiter : Nat) :
    { notify with waiters := notify.waiters ++ [waiter] }.registered.Perm
    (waiter :: notify.registered) := by
  unfold registered
  dsimp only
  rw [List.append_assoc, List.append_assoc, List.append_assoc]
  exact List.perm_middle

theorem registered_notifyWaiters (notify : Notify) :
    notify.notifyWaiters.2.registered.Perm notify.registered := by
  unfold notifyWaiters registered
  refine List.perm_iff_count.2 fun other => ?_
  simp only [List.count_append, List.count_nil]
  omega

theorem registered_erase (once : notify.registered.Nodup) (inside : waiter ∈ notify.registered) :
    notify.registered.Perm (waiter :: { notify with
      waiters := notify.waiters.erase waiter
      notifiedOne := notify.notifiedOne.erase waiter
      notifiedAll := notify.notifiedAll.erase waiter }.registered) := by
  refine List.perm_iff_count.2 fun other => ?_
  have least := List.count_pos_iff.2 inside
  have most := List.nodup_iff_count_le_one.1 once waiter
  unfold registered at least most ⊢
  simp only [List.count_append, List.count_cons, List.count_erase] at least most ⊢
  by_cases same : waiter = other
  · subst same
    rw [beq_self_eq_true, if_pos rfl]
    omega
  · rw [beq_eq_false_iff_ne.2 same, if_neg Bool.false_ne_true]
    omega

theorem not_mem_waiters_of_isNotified (once : notify.registered.Nodup)
    (woken : notify.isNotified waiter = true) : waiter ∉ notify.waiters := by
  intro isListed
  unfold registered at once
  rw [List.append_assoc] at once
  exact (List.nodup_append.1 once).2.2 waiter isListed waiter
    (List.mem_append.2 (isNotified_iff.1 woken)) rfl

theorem registered_complete (once : notify.registered.Nodup)
    (woken : notify.isNotified waiter = true) :
    notify.registered.Perm (waiter :: (notify.complete waiter).registered) := by
  have inside : waiter ∈ notify.registered := mem_registered.2 (.inr (isNotified_iff.1 woken))
  have out := registered_erase once inside
  rw [List.erase_of_not_mem (not_mem_waiters_of_isNotified once woken)] at out
  exact out

/-- A notification of somebody who goes away goes to the next. -/
theorem leave_of_mem (wasNotified : waiter ∈ notify.notifiedOne) :
    (notify.leave waiter).2 = (notify.complete waiter).notifyOne.2 := by
  unfold leave
  rw [if_pos (List.contains_iff_mem.2 wasNotified)]

theorem leave_of_not_mem (notNotified : waiter ∉ notify.notifiedOne) : (notify.leave waiter).2 =
    { notify.complete waiter with waiters := notify.waiters.erase waiter } := by
  unfold leave
  rw [if_neg (mt List.contains_iff_mem.1 notNotified)]

theorem registered_leave (once : notify.registered.Nodup) (inside : waiter ∈ notify.registered) :
    notify.registered.Perm (waiter :: (notify.leave waiter).2.registered) := by
  by_cases wasNotified : waiter ∈ notify.notifiedOne
  · rw [leave_of_mem wasNotified]
    exact (registered_complete once (isNotified_iff.2 (.inl wasNotified))).trans
      ((registered_notifyOne _).symm.cons waiter)
  · rw [leave_of_not_mem wasNotified]
    exact registered_erase once inside

theorem broadcasts_leave (notify : Notify) (waiter : Nat) :
    (notify.leave waiter).2.broadcasts = notify.broadcasts := by
  unfold leave
  split
  · exact broadcasts_notifyOne _
  · rfl

theorem waiters_leave_of_nil (nobody : notify.waiters = []) (waiter : Nat) :
    (notify.leave waiter).2.waiters = [] := by
  by_cases wasNotified : waiter ∈ notify.notifiedOne
  · have nobodyElse : (notify.complete waiter).waiters = [] := nobody
    rw [leave_of_mem wasNotified, notifyOne_of_nil nobodyElse]
    exact nobody
  · rw [leave_of_not_mem wasNotified]
    exact (congrArg (List.erase · waiter) nobody).trans rfl

theorem waiters_leave (kept : notify.hasPermit = true → notify.waiters = [])
    (hasPermit : (notify.leave waiter).2.hasPermit = true) :
    (notify.leave waiter).2.waiters = [] := by
  by_cases wasNotified : waiter ∈ notify.notifiedOne
  · rw [leave_of_mem wasNotified] at hasPermit ⊢
    exact waiters_notifyOne kept hasPermit
  · rw [leave_of_not_mem wasNotified] at hasPermit
    exact waiters_leave_of_nil (kept hasPermit) waiter

end Notify

/-! ## Forms of a turn -/

namespace Caller

/-- Whether a caller neither waits for an ID nor has anybody to notify. -/
def isDetached : Caller → Bool
  | pushing _ => true
  | extending _ _ => true
  | told _ => true
  | _ => false

def looks : Caller → Bool
  | popping .starting => true
  | popping (.listening _) => true
  | _ => false

/-- Whether a caller has found nothing and is about to wait, having listened since a number of
broadcasts. -/
def isAboutToWait (since : Nat) : Caller → Bool
  | popping (.foundNone broadcasts) => broadcasts == since
  | _ => false

def since? : Caller → Option Nat
  | popping (.listening broadcasts) => some broadcasts
  | popping (.foundNone broadcasts) => some broadcasts
  | _ => none

/-- Whether a caller has put an ID into the queue and is to notify one waiter. -/
def isNotifying : Caller → Bool
  | notifying _ => true
  | _ => false

/-- Whether a caller has closed the queue and is to notify all waiters. -/
def isNotifyingAll : Caller → Bool
  | notifyingAll => true
  | _ => false

theorem isAboutToWait_foundNone (broadcasts : Nat) :
    (popping (.foundNone broadcasts)).isAboutToWait broadcasts = true :=
  beq_self_eq_true broadcasts

structure IsIdle (caller : Caller) : Prop where
  noLook : caller.looks = false
  notAboutToWait : ∀ since, caller.isAboutToWait since = false
  notListening : caller.since? = none
  notNotifying : caller.isNotifying = false
  notNotifyingAll : caller.isNotifyingAll = false
  notWaiting : caller ≠ .popping .waiting

theorem isIdle_of_isDetached {caller : Caller} (isDetached : caller.isDetached = true) :
    caller.IsIdle := by
  cases caller with
  | pushing id => exact ⟨rfl, fun _ => rfl, rfl, rfl, rfl, Caller.noConfusion⟩
  | extending ids count => exact ⟨rfl, fun _ => rfl, rfl, rfl, rfl, Caller.noConfusion⟩
  | told reply => exact ⟨rfl, fun _ => rfl, rfl, rfl, rfl, Caller.noConfusion⟩
  | _ => cases isDetached

inductive Move (number : Nat) (inbox : Inbox) : Caller → Caller → Inbox → Prop where
  | detached {caller next : Caller} (isDetached : caller.isDetached = true)
      (staysDetached : next.isDetached = true) :
      Move number inbox caller next inbox
  | push {caller next : Caller} {queue : Queue} (isDetached : caller.isDetached = true)
      (staysDetached : next.isDetached = true)
      (grown : queue.order.length = inbox.queue.order.length + 1)
      (sameClosed : queue.isClosed = inbox.queue.isClosed) :
      Move number inbox caller (.notifying next) { inbox with queue }
  | notifyOne (next : Caller) :
      Move number inbox (.notifying next) next { inbox with notify := inbox.notify.notifyOne.2 }
  | listen :
      Move number inbox (.popping .starting) (.popping (.listening inbox.notify.broadcasts)) inbox
  | take {broadcasts : Nat} {id? : Option String} {queue : Queue}
      (shrunk : queue.order.length + 1 = inbox.queue.order.length)
      (sameClosed : queue.isClosed = inbox.queue.isClosed) :
      Move number inbox (.popping (.listening broadcasts))
        (.told (.popped id?)) { inbox with queue }
  | drained {broadcasts : Nat} (isEmpty : inbox.queue.order = [])
      (isClosed : inbox.queue.isClosed = true) :
      Move number inbox (.popping (.listening broadcasts)) (.told (.popped none)) inbox
  | findNone {broadcasts : Nat} (isEmpty : inbox.queue.order = [])
      (isOpen : inbox.queue.isClosed = false) :
      Move number inbox (.popping (.listening broadcasts)) (.popping (.foundNone broadcasts)) inbox
  | takePermit {broadcasts : Nat} (hasPermit : inbox.notify.hasPermit = true) :
      Move number inbox (.popping (.foundNone broadcasts)) (.popping .starting)
        { inbox with notify := { inbox.notify with hasPermit := false } }
  | seeBroadcast {broadcasts : Nat} (unkept : inbox.notify.hasPermit = false)
      (stale : inbox.notify.broadcasts ≠ broadcasts) :
      Move number inbox (.popping (.foundNone broadcasts)) (.popping .starting) inbox
  | poll (unkept : inbox.notify.hasPermit = false) :
      Move number inbox (.popping (.foundNone inbox.notify.broadcasts)) (.popping .waiting)
        { inbox with notify := { inbox.notify with waiters := inbox.notify.waiters ++ [number] } }
  | complete (woken : inbox.notify.isNotified number = true) :
      Move number inbox (.popping .waiting) (.popping .starting)
        { inbox with notify := inbox.notify.complete number }
  | close : Move number inbox .closing .notifyingAll { inbox with queue := inbox.queue.close }
  | notifyWaiters :
      Move number inbox .notifyingAll (.told .closed)
        { inbox with notify := inbox.notify.notifyWaiters.2 }

namespace Move

variable {number : Nat} {inbox changed : Inbox} {caller next : Caller}
  {occurred? : Option Occurrence}

/-- An ID that is pushed is taken, and a waiter is to be notified, or it changes nothing. -/
theorem of_push {isTaken : Bool} {id : String} {queue : Queue}
    (pushed : inbox.queue.push id = (isTaken, queue)) (isDetached : caller.isDetached = true)
    (staysDetached : next.isDetached = true) {refused : Caller}
    (talksRefused : refused.isDetached = true) :
    Move number inbox caller (if isTaken then .notifying next else refused)
      { inbox with queue } := by
  have order := inbox.queue.order_push id
  have isClosed := inbox.queue.isClosed_push id
  rw [pushed] at order isClosed
  cases isTaken with
  | false =>
      cases (Queue.push_of_refused (congrArg Prod.fst pushed)).symm.trans pushed
      exact .detached isDetached talksRefused
  | true =>
      refine .push isDetached staysDetached ?_ isClosed
      rw [if_pos rfl] at order
      rw [order, List.length_append]
      rfl

theorem of_popping {popper : Popper} {progress : Progress Popper (Option String)}
    (stepped : popper.step? number inbox = some (progress, changed)) :
    Move number inbox (.popping popper)
      (match progress with
        | .going later => .popping later
        | .over id? => .told (.popped id?)) changed := by
  cases popper with
  | starting =>
      cases stepped
      exact .listen
  | listening broadcasts =>
      cases waits : inbox.queue.order with
      | nil =>
          rw [Popper.step?, Queue.pop_of_nil waits] at stepped
          dsimp only at stepped
          split at stepped
          · rename_i isClosed
            cases stepped
            exact .drained waits isClosed
          · rename_i isOpen
            cases stepped
            exact .findNone waits (Bool.eq_false_iff.2 isOpen)
      | cons id rest =>
          rw [Popper.step?, Queue.pop_of_cons waits] at stepped
          cases stepped
          refine .take ?_ rfl
          rw [waits]
          rfl
  | foundNone broadcasts =>
      rw [Popper.step?] at stepped
      unfold Notify.poll at stepped
      by_cases hasPermit : inbox.notify.hasPermit = true
      · rw [if_pos hasPermit] at stepped
        cases stepped
        exact .takePermit hasPermit
      · rw [if_neg hasPermit] at stepped
        by_cases stale : inbox.notify.broadcasts = broadcasts
        · rw [if_neg (not_not.2 stale)] at stepped
          cases stepped
          subst stale
          exact .poll (Bool.eq_false_iff.2 hasPermit)
        · rw [if_pos stale] at stepped
          cases stepped
          exact .seeBroadcast (Bool.eq_false_iff.2 hasPermit) stale
  | waiting =>
      rw [Popper.step?] at stepped
      split at stepped
      · rename_i woken
        cases stepped
        exact .complete woken
      · cases stepped

theorem orderly (moved : Move number inbox caller next changed)
    (orderly : ∀ later, caller = .notifying later → later.isDetached = true) :
    ∀ later, next = .notifying later → later.isDetached = true := by
  have never : ∀ {caller : Caller}, caller.isDetached = true → ∀ later, caller = .notifying later →
      later.isDetached = true := by
    rintro _ isDetached later rfl
    cases isDetached
  cases moved with
  | detached isDetached staysDetached => exact never staysDetached
  | push isDetached staysDetached =>
      rintro later same
      cases same
      exact staysDetached
  | notifyOne => exact never (orderly next rfl)
  | _ => exact fun later impossible => by cases impossible

theorem of_step? (taken : caller.step? number inbox = some (next, occurred?, changed)) :
    Move number inbox caller next changed := by
  cases caller with
  | pushing id =>
      cases pushed : inbox.queue.push id with
      | mk isTaken queue =>
          rw [Caller.step?, pushed] at taken
          cases taken
          exact .of_push pushed rfl rfl rfl
  | extending ids count =>
      cases ids with
      | nil =>
          cases taken
          exact .detached rfl rfl
      | cons id rest =>
          cases pushed : inbox.queue.push id with
          | mk isTaken queue =>
              rw [Caller.step?_extending pushed] at taken
              cases taken
              exact .of_push pushed rfl rfl rfl
  | notifying next =>
      cases taken
      exact .notifyOne next
  | popping popper =>
      rw [Caller.step?] at taken
      split at taken
      · cases taken
      · rename_i stepped
        cases taken
        exact .of_popping stepped
      · rename_i stepped
        cases taken
        exact .of_popping stepped
  | closing =>
      cases taken
      exact .close
  | notifyingAll =>
      cases taken
      exact .notifyWaiters
  | told reply => cases taken
  | away => cases taken

end Move

end Caller

end PolicyWatch.Reprocess
