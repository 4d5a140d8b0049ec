import PolicyWatch.Proofs.Gate.Queueing

/-!
# Fair admission

Who waits at a gate is served in order of arrival, and no slot lies idle while
somebody waits for one.  Main statement: this holds whatever the requests at a gate,
their signals and the time do, and each request that looks at the gate is told what
is the case.
-/

namespace PolicyWatch.Reprocess

namespace Admission

variable {request : Nat} {isCancelled : Bool} {pipeline changed : Pipeline}

theorem eq_of_step?_refused {error : AdmissionError}
    (moved : arriving.step? request isCancelled pipeline =
      some (.over (.refused error), changed)) :
    changed = pipeline := by
  obtain ⟨_, arrived⟩ | ⟨_, _, arrived⟩ | arrived :=
    pipeline.gate.arrive_cases request isCancelled
  · rw [step?, arrived] at moved
    cases moved
  · rw [step?, arrived] at moved
    cases moved
    rfl
  · rw [step?, arrived] at moved
    cases moved

end Admission

namespace SignalledGate

variable {maxConcurrency waitLimit capacity : Nat}
  {system next later : SignalledGate} {request : Nat}

/-! ## Verdicts -/

def hasSlot (system : SignalledGate) (request : Nat) : Admission → Bool
  | .arriving => decide (0 < system.gate.available)
  | .waiting _ => system.gate.granted.contains request

/-- Whether a request has waited for the whole time that a request waits at most. -/
def hasWaitedOut (system : SignalledGate) (request : Nat) : Bool :=
  system.gate.hasDeadline && system.arrivals.any fun arrival =>
    arrival.1 == request && decide (arrival.2 + system.gate.waitLimit ≤ system.pipeline.clock)

/-- What a request is to be told that looks at the gate now, unless it is to wait. -/
def dueVerdict? (system : SignalledGate) (request : Nat) (admission : Admission) : Option Verdict :=
  if system.isCancelled request then some (.refused .cancelled)
  else if system.gate.isClosed then some (.refused .closed)
  else if system.hasSlot request admission then some .admitted
  else if system.hasWaitedOut request then some (.refused (.timedOut system.gate.waitLimit))
  else none

/-- What a request is told that looks at the gate now, unless it waits. -/
def verdict? (system : SignalledGate) (request : Nat) (admission : Admission) : Option Verdict :=
  match admission.step? request (system.isCancelled request) system.pipeline with
  | some (.over verdict, _) => some verdict
  | _ => none

theorem hasSlot_iff (system : SignalledGate) (request : Nat) (admission : Admission) :
    system.hasSlot request admission = true ↔ admission.HasSlot request system.gate := by
  cases admission with
  | arriving => exact decide_eq_true_iff
  | waiting deadline => exact List.contains_iff_mem

theorem Orderly.hasWaitedOut_iff (orderly : Orderly waitLimit system) {admission : Admission}
    (seeks : (request, admission) ∈ system.seeking) :
    system.hasWaitedOut request = true ↔ admission.IsLate system.pipeline := by
  have limit := orderly.limit
  unfold hasWaitedOut Gate.hasDeadline
  rw [Bool.and_eq_true, bne_iff_ne, List.any_eq_true, limit]
  constructor
  · rintro ⟨bounded, ⟨name, since⟩, arrived, late⟩
    obtain ⟨same, passed⟩ := Bool.and_eq_true_iff.1 late
    obtain rfl : name = request := beq_iff_eq.1 same
    cases admission with
    | arriving =>
        exact absurd (List.mem_map_of_mem arrived) (orderly.unheard name seeks)
    | waiting deadline =>
        obtain ⟨begun, waited, due⟩ := orderly.timed name deadline seeks
        have sameTime : begun = since :=
          congrArg Prod.snd (List.inj_on_of_nodup_map orderly.once waited arrived rfl)
        rw [if_neg bounded] at due
        obtain ⟨alarm, rfl, isDue⟩ := Option.map_eq_some_iff.1 due
        refine ⟨alarm, rfl, ?_⟩
        rw [isDue, sameTime]
        exact of_decide_eq_true passed
  · rintro ⟨alarm, rfl, passed⟩
    obtain ⟨bounded, since, arrived, due⟩ := orderly.waited seeks
    refine ⟨bounded, (request, since), arrived, ?_⟩
    rw [Bool.and_eq_true]
    exact ⟨beq_self_eq_true request, decide_eq_true (due ▸ passed)⟩

theorem Orderly.verdict?_eq (orderly : Orderly waitLimit system) {admission : Admission}
    (seeks : (request, admission) ∈ system.seeking) :
    system.verdict? request admission = system.dueVerdict? request admission := by
  have slot := system.hasSlot_iff request admission
  have late := orderly.hasWaitedOut_iff seeks
  unfold verdict? dueVerdict?
  cases system.isCancelled request with
  | true =>
      obtain ⟨changed, told, _⟩ := Admission.step?_of_cancelled admission request system.pipeline
      rw [told]
      rfl
  | false =>
      cases isOpen : system.gate.isClosed with
      | true =>
          obtain ⟨changed, told⟩ := Admission.step?_of_closed isOpen admission request
          rw [told]
          rfl
      | false =>
          cases given : system.hasSlot request admission with
          | true =>
              obtain ⟨changed, told⟩ := Admission.step?_of_slot isOpen (slot.1 given)
              rw [told]
              rfl
          | false =>
              have noSlot : ¬ admission.HasSlot request system.gate :=
                fun has => Bool.eq_false_iff.1 given (slot.2 has)
              cases waited : system.hasWaitedOut request with
              | true =>
                  obtain ⟨changed, told⟩ :=
                    Admission.step?_of_late isOpen noSlot (late.1 waited)
                  rw [told]
                  rfl
              | false =>
                  cases admission with
                  | arriving =>
                      obtain ⟨_, changed, told, _⟩ :=
                        Admission.step?_of_full isOpen (Nat.eq_zero_of_not_pos noSlot) request
                      rw [told]
                      rfl
                  | waiting deadline =>
                      have inTime : ¬ (Admission.waiting deadline).IsLate system.pipeline :=
                        fun isLate => Bool.eq_false_iff.1 waited (late.2 isLate)
                      rw [Admission.step?_of_early isOpen noSlot inTime]
                      rfl

/-! ## Slots -/

/-- Whether nobody has a step to take: each request that seeks a slot waits. -/
def IsQuiet (system : SignalledGate) : Prop :=
  ∀ request admission, (request, admission) ∈ system.seeking →
    admission.step? request (system.isCancelled request) system.pipeline = none

/-- A request that waits is in the line of an open gate until it is given a slot. -/
theorem Orderly.mem_waiters_iff (orderly : Orderly waitLimit system)
    (balanced : GateSystem.Balanced capacity system.toGateSystem)
    (isOpen : system.gate.isClosed = false) :
    request ∈ system.gate.waiters ↔ request ∈ system.waiting ∧ request ∉ system.gate.granted := by
  constructor
  · intro waits
    refine ⟨balanced.lined request (List.mem_append_left _ waits), fun given => ?_⟩
    exact (List.nodup_append.1 balanced.once).2.2 request waits request given rfl
  · rintro ⟨waits, notGiven⟩
    exact (List.mem_append.1 (orderly.lined isOpen request waits)).resolve_right notGiven

theorem exists_of_mem_waiting (waits : request ∈ system.waiting) :
    ∃ deadline, (request, .waiting deadline) ∈ system.seeking := by
  obtain ⟨⟨name, admission⟩, kept, rfl⟩ := List.mem_map.1 waits
  obtain ⟨seeks, isWaiting⟩ := List.mem_filter.1 kept
  cases admission with
  | arriving => cases isWaiting
  | waiting deadline => exact ⟨deadline, seeks⟩

/-- A request without a step to take waits at an open gate and was given no slot. -/
theorem IsQuiet.waits (quiet : system.IsQuiet) {admission : Admission}
    (seeks : (request, admission) ∈ system.seeking) :
    system.gate.isClosed = false ∧ request ∈ system.waiting ∧ request ∉ system.gate.granted := by
  have idle := quiet request admission seeks
  obtain ⟨_, _, told⟩ | ⟨_, _, _, told⟩ | ⟨uncancelled, isOpen, _⟩ :=
    Admission.step?_cases admission request (system.isCancelled request) system.pipeline
  · cases told.symm.trans idle
  · cases told.symm.trans idle
  · rw [uncancelled] at idle
    have noSlot : ¬ admission.HasSlot request system.gate := by
      intro has
      obtain ⟨_, told⟩ := Admission.step?_of_slot isOpen has
      cases told.symm.trans idle
    cases admission with
    | arriving =>
        obtain ⟨_, _, told, _⟩ :=
          Admission.step?_of_full isOpen (Nat.eq_zero_of_not_pos noSlot) request
        cases told.symm.trans idle
    | waiting deadline =>
        exact ⟨isOpen, List.mem_map_of_mem (List.mem_filter.2 ⟨seeks, rfl⟩), noSlot⟩

/-- When nobody has a step to take and somebody seeks a slot, all slots are held. -/
theorem Orderly.length_holders (orderly : Orderly waitLimit system)
    (balanced : GateSystem.Balanced capacity system.toGateSystem) (quiet : system.IsQuiet)
    {admission : Admission} (seeks : (request, admission) ∈ system.seeking) :
    system.gate.available = 0 ∧ system.gate.granted = [] ∧ system.holders.length = capacity := by
  obtain ⟨isOpen, waits, notGiven⟩ := quiet.waits seeks
  have inLine := (orderly.mem_waiters_iff balanced isOpen).2 ⟨waits, notGiven⟩
  have isFull : system.gate.available = 0 :=
    orderly.settled.busy.resolve_left (List.ne_nil_of_mem inLine)
  have nobodyGiven : system.gate.granted = [] := by
    refine List.eq_nil_iff_forall_not_mem.2 fun other given => ?_
    obtain ⟨deadline, seeking⟩ :=
      exists_of_mem_waiting (balanced.lined other (List.mem_append_right _ given))
    exact (quiet.waits seeking).2.2 given
  have spare : system.gate.available + system.gate.granted.length =
      capacity - system.holders.length :=
    congrArg Tally.spare balanced.tally_eq
  have fits := balanced.fits
  rw [isFull, nobodyGiven, List.length_nil] at spare
  exact ⟨isFull, nobodyGiven, by omega⟩

theorem Step.of_turnedAway (taken : Step system next) (left : request ∈ next.turnedAway)
    (stayed : request ∉ system.turnedAway) :
    ∃ admission, (request, admission) ∈ system.seeking ∧
      (next.pipeline = admission.leave request system.pipeline ∨
        ∃ error, admission.step? request (system.isCancelled request) system.pipeline =
          some (.over (.refused error), next.pipeline)) := by
  cases taken with
  | @refuse other admission error changed earlier later seeks moved =>
      obtain rfl : request = other := (List.mem_cons.1 left).resolve_right stayed
      refine ⟨admission, ?_, .inr ⟨error, moved⟩⟩
      rw [seeks]
      exact List.mem_append_right _ List.mem_cons_self
  | @abandon other admission earlier later seeks =>
      obtain rfl : request = other := by
        rcases List.mem_append.1 left with refused | gone
        · exact absurd (List.mem_append_left _ refused) stayed
        · exact (List.mem_cons.1 gone).resolve_right fun already =>
            stayed (List.mem_append_right _ already)
      refine ⟨admission, ?_, .inl rfl⟩
      rw [seeks]
      exact List.mem_append_right _ List.mem_cons_self
  | _ => exact absurd left stayed

/-- A request that is turned away before it has begun to wait leaves everything as it
was. -/
theorem Step.pipeline_of_turnedAway (taken : Step system next)
    (left : request ∈ next.turnedAway) (stayed : request ∉ system.turnedAway)
    (idle : request ∉ system.waiting) : next.pipeline = system.pipeline := by
  obtain ⟨admission, seeks, after⟩ := taken.of_turnedAway left stayed
  cases admission with
  | arriving =>
      rcases after with gone | ⟨error, refused⟩
      · exact gone
      · exact Admission.eq_of_step?_refused refused
  | waiting deadline =>
      exact absurd (List.mem_map_of_mem (List.mem_filter.2 ⟨seeks, rfl⟩)) idle

/-- Whether by a step one slot goes to the request that has waited longest, which is
woken, or comes free if nobody waits. -/
structure PassesOn (system next : SignalledGate) : Prop where
  free : system.gate.waiters = [] → next.gate.available = system.gate.available + 1
  given : ∀ first rest, system.gate.waiters = first :: rest →
    first ∈ next.gate.granted ∧ next.gate.waiters = rest ∧ first ∈ next.pipeline.ready

theorem not_mem_granted (balanced : GateSystem.Balanced capacity system.toGateSystem)
    {first : Nat} {rest : List Nat} (line : system.gate.waiters = first :: rest) :
    first ∉ system.gate.granted := by
  intro given
  have waits : first ∈ system.gate.waiters := line ▸ List.mem_cons_self
  exact (List.nodup_append.1 balanced.once).2.2 first waits first given rfl

theorem Step.passesOn_of_turnedAway (balanced : GateSystem.Balanced capacity system.toGateSystem)
    (taken : Step system next) (given : request ∈ system.gate.granted)
    (left : request ∈ next.turnedAway) : PassesOn system next := by
  have waits := balanced.lined request (List.mem_append_right _ given)
  have stayed : request ∉ system.turnedAway :=
    fun already => (balanced.absent_of_turnedAway already).2.1 waits
  obtain ⟨admission, seeks, after⟩ := taken.of_turnedAway left stayed
  obtain ⟨earlier, later, split⟩ := List.append_of_mem seeks
  have isWaiting : admission.isWaiting = true := by
    rcases Bool.eq_false_or_eq_true admission.isWaiting with waiting | idle
    · exact waiting
    · exact absurd (List.mem_append_right _ given) (balanced.not_mem_line split idle)
  obtain ⟨timeouts, withdrawn⟩ : ∃ timeouts,
      next.gate = { (system.gate.withdraw request).2 with timeouts } := by
    change ∃ timeouts, next.pipeline.gate = _
    rcases after with gone | ⟨error, refused⟩
    · rw [gone, Admission.gate_leave, if_pos isWaiting]
      exact ⟨_, rfl⟩
    · obtain ⟨idle, _⟩ | ⟨_, left⟩ := Admission.of_step?_refused refused
      · cases isWaiting.symm.trans idle
      · exact ⟨_, left⟩
  refine ⟨fun nobody => ?_, fun first rest line => ?_⟩
  · rw [withdrawn]
    exact Gate.withdraw_of_nil given nobody
  · obtain ⟨handed, others⟩ := Gate.withdraw_of_cons given line
    have handedOn : first ∈ next.gate.granted := by rwa [withdrawn]
    obtain ⟨_, moves⟩ := taken.moves balanced
    exact ⟨handedOn, by rwa [withdrawn], moves.woken first handedOn (not_mem_granted balanced line)⟩

theorem Step.passesOn_of_finished (balanced : GateSystem.Balanced capacity system.toGateSystem)
    (taken : Step system next) (held : request ∈ system.holders) (left : request ∉ next.holders) :
    PassesOn system next := by
  obtain ⟨_, moves⟩ := taken.moves balanced
  cases taken with
  | enter seeks moved => exact absurd (List.mem_cons_of_mem _ held) left
  | finish holds =>
      have released : system.pipeline.release.gate = system.gate.release.2 :=
        system.pipeline.gate_release
      refine ⟨fun nobody => ?_, fun first rest line => ?_⟩
      · refine (congrArg Gate.available released).trans ?_
        simp only [Gate.release, Gate.giveSlot, nobody, Gate.available]
      · have handedOn : first ∈ system.pipeline.release.gate.granted := by
          rw [released]
          simp only [Gate.release, Gate.giveSlot, line]
          exact List.mem_append_right _ (List.mem_singleton_self first)
        refine ⟨handedOn, (congrArg Gate.waiters released).trans ?_, ?_⟩
        · simp only [Gate.release, Gate.giveSlot, line]
        · exact moves.woken first handedOn (not_mem_granted balanced line)
  | _ => exact absurd held left

theorem Orderly.entered (orderly : Orderly waitLimit system)
    (balanced : GateSystem.Balanced capacity system.toGateSystem) (taken : Step system next)
    (holds : request ∈ next.holders) (held : request ∉ system.holders) :
    system.gate.isClosed = false ∧
      (request ∈ system.gate.granted ∨ system.gate.waiters = [] ∧ 0 < system.gate.available) := by
  obtain ⟨_, moves⟩ := taken.moves balanced
  obtain ⟨isOpen, admission, _, hasSlot⟩ := (moves.entered request holds).resolve_left held
  refine ⟨isOpen, ?_⟩
  cases admission with
  | arriving =>
      have nobodyWaits := orderly.settled.busy.resolve_right (Nat.pos_iff_ne_zero.1 hasSlot)
      exact .inr ⟨nobodyWaits, hasSlot⟩
  | waiting deadline => exact .inl hasSlot

/-! ## Later on -/

/-- Whether any number of steps leads from one state to another. -/
abbrev Leads : SignalledGate → SignalledGate → Prop := Relation.ReflTransGen Step

theorem Reachable.leads (reached : Reachable maxConcurrency waitLimit system)
    (leads : Leads system later) : Reachable maxConcurrency waitLimit later := by
  induction leads with
  | refl => exact reached
  | tail _ taken ih => exact ih.step taken

theorem Step.signal_of_isDropped (taken : Step system next) {name : String}
    (isDropped : (system.schedule.signal name).isDropped = true) :
    next.schedule.signal name = system.schedule.signal name := by
  cases taken with
  | send other isCancelled => exact Schedule.signal_setSignal_of_dropped isDropped _
  | drop other => exact Schedule.signal_setSignal_of_dropped isDropped _
  | _ => rfl

theorem never_cancelled (reached : Reachable maxConcurrency waitLimit system)
    (isDropped : (system.schedule.signal (system.watched request)).isDropped = true)
    (unsent : system.isCancelled request = false) (leads : Leads system later) :
    later.isCancelled request = false ∧
      ((request, .cancelled) ∈ later.refused → (request, .cancelled) ∈ system.refused) := by
  have kept : later.watched = system.watched ∧
      later.schedule.signal (system.watched request) =
        system.schedule.signal (system.watched request) ∧
      ((request, .cancelled) ∈ later.refused → (request, .cancelled) ∈ system.refused) := by
    induction leads with
    | refl => exact ⟨rfl, rfl, id⟩
    | @tail between after before taken ih =>
        obtain ⟨watched, signal, told⟩ := ih
        obtain ⟨_, moves⟩ := taken.moves (reached.leads before).toGateSystem.balanced
        refine ⟨moves.watched.trans watched, ?_, fun refused => ?_⟩
        · rw [taken.signal_of_isDropped (signal ▸ isDropped), signal]
        · rcases moves.refused request _ refused with already | cancelled
          · exact told already
          · change (between.schedule.signal (between.watched request)).isCancelled = true
              at cancelled
            rw [watched, signal] at cancelled
            cases unsent.symm.trans cancelled
  obtain ⟨watched, signal, told⟩ := kept
  refine ⟨?_, told⟩
  change (later.schedule.signal (later.watched request)).isCancelled = false
  rw [watched, signal]
  exact unsent

/-- A gate that was closed stays closed, and from then on nobody enters and nobody is
refused for another reason than that it is closed or that it was cancelled. -/
theorem never_reopened (reached : Reachable maxConcurrency waitLimit system)
    (isClosed : system.gate.isClosed = true) (leads : Leads system later) :
    later.gate.isClosed = true ∧ later.holders ⊆ system.holders ∧
      ∀ request error, (request, error) ∈ later.refused →
        (request, error) ∈ system.refused ∨ error = .closed ∨ error = .cancelled := by
  induction leads with
  | refl => exact ⟨isClosed, fun _ holds => holds, fun _ _ refused => .inl refused⟩
  | @tail between after before taken ih =>
      obtain ⟨stillClosed, fewer, told⟩ := ih
      have soFar := reached.leads before
      obtain ⟨_, moves⟩ := taken.moves soFar.toGateSystem.balanced
      refine ⟨moves.change.isClosed_of_isClosed stillClosed, ?_, ?_⟩
      · intro request holds
        rcases moves.entered request holds with held | ⟨isOpen, _⟩
        · exact fewer held
        · cases isOpen.symm.trans stillClosed
      · intro request error refused
        rcases moves.refused request error refused with already | cause
        · exact told request error already
        · cases error with
          | cancelled => exact .inr (.inr rfl)
          | closed => exact .inr (.inl rfl)
          | timedOut waited => cases cause.2.1.symm.trans stillClosed

/-! ## Fairness -/

/-- What fair admission is at a gate with so many slots where a request waits for so long
at most. -/
structure AdmitsFairly (capacity waitLimit : Nat) (system : SignalledGate) : Prop where
  /-- The line keeps the order in which its requests have begun to wait. -/
  inOrder : system.arrived.Nodup ∧ system.gate.waiters.Sublist system.arrived
  /-- At an open gate those are in line who wait and have not been given a slot. -/
  inLine : system.gate.isClosed = false → ∀ request,
    request ∈ system.gate.waiters ↔ request ∈ system.waiting ∧ request ∉ system.gate.granted
  /-- A slot is given to the first in line, who is woken. -/
  firstServed : ∀ next, Step system next →
    ∀ request ∈ next.gate.granted, request ∉ system.gate.granted →
      system.gate.waiters = request :: next.gate.waiters ∧ request ∈ next.pipeline.ready
  /-- Nobody enters but with a slot that it was given, or if nobody is in line. -/
  noneOvertaken : ∀ next, Step system next → ∀ request ∈ next.holders, request ∉ system.holders →
    system.gate.isClosed = false ∧
      (request ∈ system.gate.granted ∨ system.gate.waiters = [] ∧ 0 < system.gate.available)
  /-- A slot that is given back is passed on. -/
  finished : ∀ next, Step system next → ∀ request ∈ system.holders, request ∉ next.holders →
    PassesOn system next
  /-- So is one that was given to a request which is then refused or goes away. -/
  passed : ∀ next, Step system next → ∀ request ∈ system.gate.granted,
    request ∈ next.turnedAway → PassesOn system next
  /-- No slot is free while somebody is in line. -/
  busy : system.gate.waiters = [] ∨ system.gate.available = 0
  /-- When nobody has a step to take, a request seeks a slot only at an open gate whose
  slots are all held. -/
  conserving : system.IsQuiet → system.seeking ≠ [] →
    system.gate.isClosed = false ∧ system.gate.available = 0 ∧ system.gate.granted = [] ∧
      system.holders.length = capacity
  /-- Each request that looks at the gate is told what is the case: that it is cancelled
  before anything else, that the gate is closed before it is admitted, and that it is
  admitted before it is late. -/
  told : ∀ request admission, (request, admission) ∈ system.seeking →
    system.verdict? request admission = system.dueVerdict? request admission
  /-- A request that is turned away before it has begun to wait was never counted. -/
  uncounted : ∀ next, Step system next → ∀ request ∈ next.turnedAway,
    request ∉ system.turnedAway → request ∉ system.waiting → next.pipeline = system.pipeline
  /-- A signal that was dropped before it was sent never cancels. -/
  unsent : ∀ request, (system.schedule.signal (system.watched request)).isDropped = true →
    system.isCancelled request = false → ∀ later, Leads system later →
      later.isCancelled request = false ∧
        ((request, .cancelled) ∈ later.refused → (request, .cancelled) ∈ system.refused)
  /-- Who was told that it had waited too long had waited for the whole time, and there
  was one. -/
  late : ∀ request waited, (request, .timedOut waited) ∈ system.refused →
    waited = waitLimit ∧ waitLimit ≠ 0 ∧
      ∃ since, (request, since) ∈ system.arrivals ∧ since + waitLimit ≤ system.pipeline.clock
  /-- Whoever is in line when the gate is closed is woken. -/
  awakened : ∀ request ∈ system.gate.waiters, request ∈ system.pipeline.closeGate.ready
  /-- From then on nobody enters, and each request that seeks a slot is told that the gate
  is closed, unless it is cancelled. -/
  closed : system.gate.isClosed = true → ∀ later, Leads system later →
    later.gate.isClosed = true ∧ later.holders ⊆ system.holders ∧
      (∀ request error, (request, error) ∈ later.refused →
        (request, error) ∈ system.refused ∨ error = .closed ∨ error = .cancelled) ∧
      ∀ request admission, (request, admission) ∈ later.seeking →
        later.verdict? request admission =
          some (.refused (if later.isCancelled request then .cancelled else .closed))

/-- Admission is fair, conserves work and tells each request what is the case, in
every state that any steps of anybody, in any order, can lead to. -/
theorem admits_fairly (reached : Reachable maxConcurrency waitLimit system) :
    AdmitsFairly (Gate.capacityFor maxConcurrency) waitLimit system := by
  have orderly := reached.orderly
  have balanced := reached.toGateSystem.balanced
  refine ⟨⟨orderly.once, orderly.inOrder⟩, ?_, ?_, ?_, ?_, ?_, orderly.settled.busy, ?_, ?_, ?_,
    ?_, orderly.late, ?_, ?_⟩
  · intro isOpen request
    exact orderly.mem_waiters_iff balanced isOpen
  · intro next taken request given isNew
    obtain ⟨_, moves⟩ := taken.moves balanced
    exact ⟨moves.change.newly given isNew, moves.woken request given isNew⟩
  · intro next taken request holds held
    exact orderly.entered balanced taken holds held
  · intro next taken request held left
    exact taken.passesOn_of_finished balanced held left
  · intro next taken request given left
    exact taken.passesOn_of_turnedAway balanced given left
  · intro quiet somebody
    obtain ⟨⟨request, admission⟩, seeks⟩ := List.exists_mem_of_ne_nil _ somebody
    exact ⟨(quiet.waits seeks).1, orderly.length_holders balanced quiet seeks⟩
  · intro request admission seeks
    exact orderly.verdict?_eq seeks
  · intro next taken request left stayed idle
    exact taken.pipeline_of_turnedAway left stayed idle
  · intro request isDropped unsent later leads
    exact never_cancelled reached isDropped unsent leads
  · intro request waits
    exact Pipeline.mem_ready_wakeAll _ waits
  · intro isClosed later leads
    obtain ⟨stillClosed, fewer, told⟩ := never_reopened reached isClosed leads
    refine ⟨stillClosed, fewer, told, fun request admission seeks => ?_⟩
    rw [(reached.leads leads).orderly.verdict?_eq seeks, dueVerdict?, stillClosed]
    cases later.isCancelled request <;> rfl

/-- Request 0 holds the only slot while requests 1 and 2 wait, and ends; the signal that
request 1 watches is sent before it looks at the gate again. -/
def cancelledInTime : SignalledGate where
  toGateSystem := GateSystem.handedOver
  signals := [⟨"stop", true, false⟩]
  watched := fun request => if request = 1 then "stop" else "go"
  arrivals := [(1, 0), (2, 0)]

theorem reachable_cancelledInTime : Reachable 1 50 cancelledInTime := by
  have started : Reachable 1 50
      ⟨GateSystem.empty GateSystem.narrowPipeline, [], cancelledInTime.watched, []⟩ :=
    .start _ _ _ rfl
  have first := started.step (.come _ 0 (by decide) (by decide))
  have held := first.step (@Step.enter _ 0 .arriving _ [] [] rfl rfl)
  have second := held.step (.come _ 1 (by decide) (by decide))
  have queued := second.step (@Step.wait _ 1 .arriving _ _ [] [] rfl rfl)
  have third := queued.step (.come _ 2 (by decide) (by decide))
  have lined := third.step (@Step.wait _ 2 .arriving _ _ [(1, _)] [] rfl rfl)
  have ended := lined.step (@Step.finish _ 0 [] [] rfl)
  exact ended.step (.send _ "stop" true)

/-- Request 1 is told that it is cancelled although it was given a slot, which goes to
request 2 then. -/
theorem cancelledInTime_passed_on :
    Reachable 1 50 cancelledInTime ∧
      cancelledInTime.verdict? 1 (.waiting (some ⟨50, 0⟩)) = some (.refused .cancelled) ∧
      ∀ next, Step cancelledInTime next → 1 ∈ next.turnedAway → 2 ∈ next.gate.granted := by
  have fair := admits_fairly reachable_cancelledInTime
  refine ⟨reachable_cancelledInTime, ?_, ?_⟩
  · exact fair.told 1 _ List.mem_cons_self
  · intro next taken left
    have passed := fair.passed next taken 1 (List.mem_singleton_self 1) left
    exact (passed.given 2 [] rfl).1

end SignalledGate

end PolicyWatch.Reprocess
