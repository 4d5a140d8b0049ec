import PolicyWatch.Proofs.Gate.SignalledGate

/-!
# Queueing at the gate

What one step of anybody can do at a gate, and what holds there at any time.  Main
statement: the requests that wait are in line in the order in which they have begun
to, and each is late just when it has waited for the whole time.
-/

namespace PolicyWatch.Reprocess

/-! ## What a single request can do -/

namespace Gate

variable {gate : Gate} {request first other : Nat} {rest : List Nat}

/-- A request that withdraws takes nobody else's place. -/
theorem mem_line_withdraw (once : gate.line.Nodup) (apart : other ≠ request) :
    other ∈ (gate.withdraw request).2.line ↔ other ∈ gate.line := by
  rw [(line_withdraw gate request once).mem_iff, List.mem_erase_of_ne apart]

/-- A slot that a request was given and does not take goes to the request that has
waited longest. -/
theorem withdraw_of_cons (given : request ∈ gate.granted) (waits : gate.waiters = first :: rest) :
    first ∈ (gate.withdraw request).2.granted ∧ (gate.withdraw request).2.waiters = rest := by
  rw [withdraw_of_mem given]
  simp only [giveSlot, waits, and_true]
  exact List.mem_append_right _ (List.mem_singleton_self first)

theorem withdraw_of_nil (given : request ∈ gate.granted) (nobody : gate.waiters = []) :
    (gate.withdraw request).2.free = gate.free + 1 := by
  rw [withdraw_of_mem given]
  simp only [giveSlot, nobody]

end Gate

namespace Admission

variable {admission next : Admission} {request other : Nat} {isCancelled : Bool}
  {verdict : Verdict} {pipeline changed : Pipeline}

theorem gate_of_step?_over
    (moved : admission.step? request isCancelled pipeline = some (.over verdict, changed)) :
    changed.gate = pipeline.gate ∨
      (0 < pipeline.gate.free ∧ changed.gate = { pipeline.gate with
        free := pipeline.gate.free - 1, holding := pipeline.gate.holding + 1 }) ∨
      changed.gate = { pipeline.gate with
        granted := pipeline.gate.granted.erase request
        queueDepth := pipeline.gate.queueDepth - 1
        holding := pipeline.gate.holding + 1 } ∨
      ∃ timeouts, changed.gate = { (pipeline.gate.withdraw request).2 with timeouts } := by
  cases verdict with
  | admitted =>
      obtain ⟨_, isFree, taken⟩ | ⟨_, _, accepted⟩ := of_step?_admitted moved
      · exact .inr (.inl ⟨isFree, taken⟩)
      · exact .inr (.inr (.inl accepted))
  | refused error =>
      obtain ⟨_, _, same⟩ | ⟨_, withdrawn⟩ := of_step?_refused moved
      · exact .inl same
      · exact .inr (.inr (.inr ⟨_, withdrawn⟩))

theorem change_of_step?_over
    (moved : admission.step? request isCancelled pipeline = some (.over verdict, changed)) :
    Gate.Change pipeline.gate none changed.gate := by
  obtain same | ⟨isFree, taken⟩ | accepted | ⟨timeouts, withdrawn⟩ := gate_of_step?_over moved
  · rw [same]
    exact .stay
  · rw [taken]
    exact .take isFree
  · rw [accepted]
    exact .accept request
  · rw [withdrawn]
    exact .withdraw request timeouts

theorem change_leave (admission : Admission) (request : Nat) (pipeline : Pipeline) :
    Gate.Change pipeline.gate none (admission.leave request pipeline).gate := by
  rw [gate_leave]
  split
  · exact .withdraw request _
  · exact .stay

/-- A request that is done seeking takes nobody else's place. -/
theorem mem_line_of_step?_over (once : pipeline.gate.line.Nodup) (apart : other ≠ request)
    (lined : other ∈ pipeline.gate.line)
    (moved : admission.step? request isCancelled pipeline = some (.over verdict, changed)) :
    other ∈ changed.gate.line := by
  obtain same | ⟨_, taken⟩ | accepted | ⟨_, withdrawn⟩ := gate_of_step?_over moved
  · rwa [same]
  · rw [taken]
    exact lined
  · rw [accepted]
    refine List.mem_append.2 ((List.mem_append.1 lined).imp_right fun given => ?_)
    exact (List.mem_erase_of_ne apart).2 given
  · rw [withdrawn]
    exact (Gate.mem_line_withdraw once apart).2 lined

theorem mem_line_leave (once : pipeline.gate.line.Nodup) (apart : other ≠ request)
    (lined : other ∈ pipeline.gate.line) :
    other ∈ (admission.leave request pipeline).gate.line := by
  rw [gate_leave]
  split
  · exact (Gate.mem_line_withdraw once apart).2 lined
  · exact lined

/-- Who is given a slot by a request that is done seeking is woken. -/
theorem mem_ready_of_step?_over
    (moved : admission.step? request isCancelled pipeline = some (.over verdict, changed))
    (given : other ∈ changed.gate.granted) (isNew : other ∉ pipeline.gate.granted) :
    other ∈ changed.ready := by
  cases admission with
  | arriving =>
      obtain ⟨_, arrived⟩ | ⟨_, _, arrived⟩ | arrived :=
        pipeline.gate.arrive_cases request isCancelled
      · rw [step?, arrived] at moved
        cases moved
        exact absurd given isNew
      · rw [step?, arrived] at moved
        cases moved
        exact absurd given isNew
      · rw [step?, arrived] at moved
        cases moved
  | waiting deadline =>
      obtain resumed | ⟨_, resumed⟩ | ⟨error, resumed⟩ :=
        pipeline.gate.resume_cases request isCancelled (deadline.any pipeline.hasElapsed)
      · rw [step?, resumed] at moved
        cases moved
      · rw [step?, resumed] at moved
        cases moved
        rw [Pipeline.gate_wakeNext] at given
        exact absurd (List.mem_of_mem_erase given) isNew
      · rw [step?, resumed] at moved
        cases moved
        rw [Pipeline.gate_wakeNext] at given
        exact Pipeline.mem_ready_wakeNext _ (Gate.withdraw_newly given isNew).1

theorem mem_ready_leave (given : other ∈ (admission.leave request pipeline).gate.granted)
    (isNew : other ∉ pipeline.gate.granted) : other ∈ (admission.leave request pipeline).ready := by
  cases admission with
  | arriving => exact absurd given isNew
  | waiting deadline =>
      rw [gate_leave] at given
      exact Pipeline.mem_ready_wakeNext _ (Gate.withdraw_newly given isNew).1

theorem clock_of_step? {progress : Progress Admission Verdict}
    (moved : admission.step? request isCancelled pipeline = some (progress, changed)) :
    changed.clock = pipeline.clock := by
  rw [step?_frame moved]

theorem clock_leave (admission : Admission) (request : Nat) (pipeline : Pipeline) :
    (admission.leave request pipeline).clock = pipeline.clock := by
  rw [leave_frame]

end Admission

namespace Pipeline

variable {pipeline : Pipeline} {other : Nat}

theorem mem_ready_release (given : other ∈ pipeline.release.gate.granted)
    (isNew : other ∉ pipeline.gate.granted) : other ∈ pipeline.release.ready := by
  rw [gate_release] at given
  exact mem_ready_wakeNext _ (Gate.giveSlot_newly given isNew).1

theorem clock_release (pipeline : Pipeline) : pipeline.release.clock = pipeline.clock := by
  unfold release
  dsimp only
  rw [wakeNext_eq]

theorem clock_closeGate (pipeline : Pipeline) : pipeline.closeGate.clock = pipeline.clock := by
  unfold closeGate
  dsimp only
  rw [wakeAll_eq]

end Pipeline

/-! ## What one step can do -/

namespace SignalledGate

variable {maxConcurrency waitLimit capacity : Nat}
  {system next : SignalledGate} {joined : Option Nat}

/-- The moment at which a request that begins to wait now has waited too long. -/
def dueNow (system : SignalledGate) : Option Nat :=
  if system.gate.waitLimit = 0 then none else some (system.pipeline.clock + system.gate.waitLimit)

/-- What must be the case for a request to be refused. -/
def Cause (system : SignalledGate) (request : Nat) : AdmissionError → Prop
  | .cancelled => system.isCancelled request = true
  | .closed => system.gate.isClosed = true
  | .timedOut waited => waited = system.gate.waitLimit ∧ system.gate.isClosed = false ∧ ∃ alarm,
      (request, .waiting (some alarm)) ∈ system.seeking ∧ alarm.due ≤ system.pipeline.clock

/-- What one step of anybody can do, where at most one request begins to wait. -/
structure Moves (joined : Option Nat) (system next : SignalledGate) : Prop where
  change : Gate.Change system.gate joined next.gate
  woken : ∀ request ∈ next.gate.granted, request ∉ system.gate.granted →
    request ∈ next.pipeline.ready
  watched : next.watched = system.watched
  clock : system.pipeline.clock ≤ next.pipeline.clock
  arrivals : next.arrivals =
    system.arrivals ++ joined.toList.map fun request => (request, system.pipeline.clock)
  fresh : ∀ request ∈ joined, (request, .arriving) ∈ system.seeking
  arriving : ∀ request, (request, .arriving) ∈ next.seeking →
    request ∉ joined ∧ ((request, .arriving) ∈ system.seeking ∨ request ∉ system.arrived)
  waiting : ∀ request deadline, (request, .waiting deadline) ∈ next.seeking →
    (request, .waiting deadline) ∈ system.seeking ∨
      (request ∈ joined ∧ deadline.map Alarm.due = system.dueNow)
  lined : next.gate.isClosed = false →
    ∀ request ∈ next.waiting, request ∈ system.waiting → request ∈ system.gate.line →
      request ∈ next.gate.line
  begun : ∀ request ∈ next.waiting, request ∈ system.waiting ∨ request ∈ next.gate.line
  entered : ∀ request ∈ next.holders, request ∈ system.holders ∨
    (system.gate.isClosed = false ∧
      ∃ admission, (request, admission) ∈ system.seeking ∧ admission.HasSlot request system.gate)
  refused : ∀ request error, (request, error) ∈ next.refused →
    (request, error) ∈ system.refused ∨ system.Cause request error

section Seeking

variable {request : Nat} {admission : Admission} {earlier later : List (Nat × Admission)}

/-- Nobody else has the name of a request that seeks a slot. -/
theorem ne_of_seeks (balanced : GateSystem.Balanced capacity system.toGateSystem)
    (seeks : system.seeking = earlier ++ (request, admission) :: later) {entry : Nat × Admission}
    (member : entry ∈ earlier ++ later) : entry.1 ≠ request := by
  rintro rfl
  have distinct := balanced.nodup_seeking seeks
  rw [List.nodup_middle, List.nodup_cons] at distinct
  apply distinct.1
  have named : entry.1 ∈ (earlier ++ later).map Prod.fst := List.mem_map_of_mem member
  rw [List.map_append] at named
  rw [← List.append_assoc]
  exact List.mem_append_left _ named

theorem mem_seeking_of_seeks (seeks : system.seeking = earlier ++ (request, admission) :: later)
    {entry : Nat × Admission} (member : entry ∈ earlier ++ later) : entry ∈ system.seeking := by
  rw [seeks]
  rcases List.mem_append.1 member with early | late
  · exact List.mem_append_left _ early
  · exact List.mem_append_right _ (List.mem_cons_of_mem _ late)

theorem Moves.of_leaving (balanced : GateSystem.Balanced capacity system.toGateSystem)
    (seeks : system.seeking = earlier ++ (request, admission) :: later) {changed : Pipeline}
    (change : Gate.Change system.gate none changed.gate)
    (woken : ∀ other ∈ changed.gate.granted, other ∉ system.gate.granted → other ∈ changed.ready)
    (clock : changed.clock = system.pipeline.clock)
    (keeps : ∀ other, other ≠ request → other ∈ system.gate.line → other ∈ changed.gate.line)
    (holders : List Nat) (refused : List (Nat × AdmissionError)) (gone : List Nat)
    (entered : ∀ other ∈ holders, other ∈ system.holders ∨
      (system.gate.isClosed = false ∧
        ∃ admission, (other, admission) ∈ system.seeking ∧ admission.HasSlot other system.gate))
    (told : ∀ other error, (other, error) ∈ refused →
      (other, error) ∈ system.refused ∨ system.Cause other error) :
    Moves none system { system with
      pipeline := changed
      seeking := earlier ++ later
      holders := holders
      refused := refused
      gone := gone } := by
  refine ⟨change, woken, rfl, Nat.le_of_eq clock.symm, (List.append_nil _).symm, ?_, ?_, ?_, ?_, ?_,
    entered, told⟩
  · intro other isJoined
    cases isJoined
  · intro other arrives
    exact ⟨by rintro ⟨⟩, .inl (mem_seeking_of_seeks seeks arrives)⟩
  · intro other deadline waits
    exact .inl (mem_seeking_of_seeks seeks waits)
  · intro isOpen other waits _ lined
    obtain ⟨entry, seeking, rfl⟩ := List.mem_map.1 waits
    exact keeps entry.1 (ne_of_seeks balanced seeks (List.mem_of_mem_filter seeking)) lined
  · intro other waits
    exact .inl (GateSystem.waitingAmong_fewer seeks waits)

theorem Moves.of_joining (balanced : GateSystem.Balanced capacity system.toGateSystem)
    (seeks : system.seeking = earlier ++ (request, admission) :: later) {changed : Pipeline}
    {waiting : Admission} {isCancelled : Bool}
    (moved : admission.step? request isCancelled system.pipeline =
      some (.going waiting, changed)) :
    Moves (some request) system { system with
      pipeline := changed
      seeking := earlier ++ (request, waiting) :: later
      arrivals := system.arrivals ++ [(request, system.pipeline.clock)] } := by
  obtain ⟨isOpen, isFull, rfl, deadline, rfl, due⟩ := Admission.full_of_step? moved
  obtain ⟨_, _, joined⟩ := Admission.of_step?_going moved
  have clock := Admission.clock_of_step? moved
  have others : ∀ entry : Nat × Admission,
      entry ∈ earlier ++ (request, .waiting deadline) :: later →
        entry = (request, .waiting deadline) ∨ entry ∈ earlier ++ later := fun entry member =>
    List.mem_cons.1 (List.perm_middle.mem_iff.1 member)
  have line : ∀ other, other ∈ changed.gate.line ↔ other = request ∨ other ∈ system.gate.line := by
    intro other
    rw [joined, Gate.line, List.append_assoc]
    exact List.perm_middle.mem_iff.trans List.mem_cons
  refine ⟨?_, ?_, rfl, Nat.le_of_eq clock.symm, rfl, ?_, ?_, ?_, ?_, ?_, fun _ holds => .inl holds,
    fun _ _ told => .inl told⟩
  · change Gate.Change system.gate _ changed.gate
    rw [joined]
    exact .join request isOpen isFull
  · intro other given isNew
    change other ∈ changed.gate.granted at given
    rw [joined] at given
    exact absurd given isNew
  · rintro other ⟨⟩
    rw [seeks]
    exact List.mem_append_right _ (List.mem_cons_self)
  · intro other arrives
    obtain seeking := (others _ arrives).resolve_left (by rintro ⟨⟩)
    refine ⟨?_, .inl (mem_seeking_of_seeks seeks seeking)⟩
    rintro ⟨⟩
    exact ne_of_seeks balanced seeks seeking rfl
  · intro other alarm waits
    rcases others _ waits with same | seeking
    · cases same
      exact .inr ⟨rfl, due⟩
    · exact .inl (mem_seeking_of_seeks seeks seeking)
  · intro _ other _ _ lined
    exact (line other).2 (.inr lined)
  · intro other waits
    obtain ⟨entry, kept, rfl⟩ := List.mem_map.1 waits
    obtain ⟨member, isWaiting⟩ := List.mem_filter.1 kept
    rcases others entry member with rfl | seeking
    · exact .inr ((line _).2 (.inl rfl))
    · refine .inl (GateSystem.waitingAmong_fewer seeks ?_)
      exact List.mem_map_of_mem (List.mem_filter.2 ⟨seeking, isWaiting⟩)

theorem Moves.of_admission (balanced : GateSystem.Balanced capacity system.toGateSystem)
    (seeks : system.seeking = earlier ++ (request, admission) :: later) {changed : Pipeline}
    {isCancelled : Bool}
    (moved : admission.step? request isCancelled system.pipeline =
      some (.over .admitted, changed)) :
    Moves none system { system with
      pipeline := changed
      seeking := earlier ++ later
      holders := request :: system.holders } := by
  refine .of_leaving balanced seeks (Admission.change_of_step?_over moved)
    (fun _ given isNew => Admission.mem_ready_of_step?_over moved given isNew)
    (Admission.clock_of_step? moved)
    (fun _ apart lined => Admission.mem_line_of_step?_over balanced.once apart lined moved)
    _ _ _ ?_ fun _ _ told => .inl told
  intro other holds
  rcases List.mem_cons.1 holds with rfl | already
  · obtain ⟨isOpen, hasSlot⟩ := Admission.hasSlot_of_step? moved
    refine .inr ⟨isOpen, admission, ?_, hasSlot⟩
    rw [seeks]
    exact List.mem_append_right _ List.mem_cons_self
  · exact .inl already

theorem Moves.of_refusal (balanced : GateSystem.Balanced capacity system.toGateSystem)
    (seeks : system.seeking = earlier ++ (request, admission) :: later) {changed : Pipeline}
    {error : AdmissionError}
    (moved : admission.step? request (system.isCancelled request) system.pipeline =
      some (.over (.refused error), changed)) :
    Moves none system { system with
      pipeline := changed
      seeking := earlier ++ later
      refused := (request, error) :: system.refused } := by
  refine .of_leaving balanced seeks (Admission.change_of_step?_over moved)
    (fun _ given isNew => Admission.mem_ready_of_step?_over moved given isNew)
    (Admission.clock_of_step? moved)
    (fun _ apart lined => Admission.mem_line_of_step?_over balanced.once apart lined moved)
    _ _ _ (fun _ holds => .inl holds) ?_
  intro other reason told
  rcases List.mem_cons.1 told with same | already
  · cases same
    obtain ⟨rfl, cancelled⟩ | ⟨rfl, isClosed⟩ | ⟨rfl, isOpen, alarm, rfl, passed⟩ :=
      Admission.cause_of_step? moved
    · exact .inr cancelled
    · exact .inr isClosed
    · refine .inr ⟨rfl, isOpen, alarm, ?_, passed⟩
      rw [seeks]
      exact List.mem_append_right _ List.mem_cons_self
  · exact .inl already

end Seeking

/-- What can happen without anybody beginning or ceasing to seek a slot. -/
theorem Moves.of_staying {changed : Pipeline} (change : Gate.Change system.gate none changed.gate)
    (woken : ∀ other ∈ changed.gate.granted, other ∉ system.gate.granted → other ∈ changed.ready)
    (clock : system.pipeline.clock ≤ changed.clock)
    (keeps : changed.gate.isClosed = false →
      ∀ other ∈ system.gate.line, other ∈ changed.gate.line)
    {holders : List Nat} (fewer : holders ⊆ system.holders) (signals : List Signal) :
    Moves none system { system with
      pipeline := changed, holders := holders, signals := signals } := by
  refine ⟨change, woken, rfl, clock, (List.append_nil _).symm, ?_, ?_, fun _ _ => .inl, ?_,
    fun _ waits => .inl waits, fun _ holds => .inl (fewer holds), fun _ _ told => .inl told⟩
  · intro other isJoined
    cases isJoined
  · intro other arrives
    exact ⟨by rintro ⟨⟩, .inl arrives⟩
  · intro isOpen other _ _ lined
    exact keeps isOpen other lined

theorem Moves.of_newcomer {request : Nat} (isUnheard : request ∉ system.arrived) :
    Moves none system { system with seeking := system.seeking ++ [(request, .arriving)] } := by
  refine ⟨.stay, fun _ given isNew => absurd given isNew, rfl, Nat.le_refl _,
    (List.append_nil _).symm, ?_, ?_, ?_, fun _ _ _ _ lined => lined, ?_,
    fun _ holds => .inl holds, fun _ _ told => .inl told⟩
  · intro other isJoined
    cases isJoined
  · intro other arrives
    refine ⟨by rintro ⟨⟩, ?_⟩
    rcases List.mem_append.1 arrives with known | isLast
    · exact .inl known
    · cases List.mem_singleton.1 isLast
      exact .inr isUnheard
  · intro other deadline waits
    rcases List.mem_append.1 waits with known | isLast
    · exact .inl known
    · cases List.mem_singleton.1 isLast
  · intro other waits
    change other ∈ GateSystem.waitingAmong _ at waits
    rw [GateSystem.waitingAmong_newcomer system.seeking request] at waits
    exact .inl waits

theorem Step.moves (balanced : GateSystem.Balanced capacity system.toGateSystem)
    (taken : Step system next) :
    ∃ joined, Moves joined system next := by
  cases taken with
  | come request isNew isUnheard => exact ⟨_, .of_newcomer isUnheard⟩
  | wait seeks moved => exact ⟨_, .of_joining balanced seeks moved⟩
  | enter seeks moved => exact ⟨_, .of_admission balanced seeks moved⟩
  | refuse seeks moved => exact ⟨_, .of_refusal balanced seeks moved⟩
  | @abandon request admission earlier later seeks =>
      have clock := Admission.clock_leave admission request system.pipeline
      exact ⟨none, .of_leaving balanced seeks (Admission.change_leave admission request _)
        (fun _ given isNew => Admission.mem_ready_leave given isNew) clock
        (fun _ apart lined => Admission.mem_line_leave balanced.once apart lined)
        _ _ _ (fun _ holds => .inl holds) fun _ _ told => .inl told⟩
  | @finish request earlier later holds =>
      refine ⟨none, .of_staying ?_ (fun _ => Pipeline.mem_ready_release)
        (Nat.le_of_eq (Pipeline.clock_release _).symm) ?_ ?_ _⟩
      · rw [Pipeline.gate_release]
        exact .release
      · intro _ other lined
        rw [Pipeline.gate_release]
        exact (Gate.line_giveSlot _).mem_iff.2 lined
      · intro other still
        rw [holds]
        refine List.mem_append.2 ((List.mem_append.1 still).imp_right ?_)
        exact List.mem_cons_of_mem request
  | close =>
      refine ⟨none, .of_staying ?_ ?_ (Nat.le_of_eq (Pipeline.clock_closeGate _).symm) ?_
        (fun _ holds => holds) _⟩
      · rw [Pipeline.gate_closeGate]
        exact .close
      · intro other given isNew
        rw [Pipeline.gate_closeGate] at given
        exact absurd given isNew
      · intro isOpen
        rw [Pipeline.gate_closeGate] at isOpen
        cases isOpen
  | send name isCancelled =>
      exact ⟨none, .of_staying .stay (fun _ given isNew => absurd given isNew) (Nat.le_refl _)
        (fun _ _ lined => lined) (fun _ holds => holds) _⟩
  | drop name =>
      exact ⟨none, .of_staying .stay (fun _ given isNew => absurd given isNew) (Nat.le_refl _)
        (fun _ _ lined => lined) (fun _ holds => holds) _⟩
  | elsewhere changed sameGate later =>
      refine ⟨none, .of_staying ?_ ?_ later ?_ (fun _ holds => holds) _⟩
      · rw [sameGate]
        exact .stay
      · intro other given isNew
        rw [sameGate] at given
        exact absurd given isNew
      · intro _ other lined
        rwa [sameGate]

/-! ## What holds at any time -/

/-- What holds at any time: who waits is in line, in the order in which
the requests have begun to wait, and is late just when its time is over. -/
structure Orderly (waitLimit : Nat) (system : SignalledGate) : Prop where
  limit : system.gate.waitLimit = waitLimit
  settled : system.gate.Settled
  once : system.arrived.Nodup
  inOrder : system.gate.waiters.Sublist system.arrived
  unheard : ∀ request, (request, .arriving) ∈ system.seeking → request ∉ system.arrived
  lined : system.gate.isClosed = false → ∀ request ∈ system.waiting, request ∈ system.gate.line
  timed : ∀ request deadline, (request, .waiting deadline) ∈ system.seeking →
    ∃ since, (request, since) ∈ system.arrivals ∧
      deadline.map Alarm.due = if waitLimit = 0 then none else some (since + waitLimit)
  late : ∀ request waited, (request, .timedOut waited) ∈ system.refused →
    waited = waitLimit ∧ waitLimit ≠ 0 ∧
      ∃ since, (request, since) ∈ system.arrivals ∧ since + waitLimit ≤ system.pipeline.clock

theorem Orderly.start {pipeline : Pipeline} (signals : List Signal) (watched : Nat → String)
    (built : Gate.build? maxConcurrency waitLimit = some pipeline.gate) :
    Orderly waitLimit ⟨GateSystem.empty pipeline, signals, watched, []⟩ := by
  have fresh := Gate.eq_of_build? built
  have noWaiters : pipeline.gate.waiters = [] := congrArg Gate.waiters fresh
  refine ⟨congrArg Gate.waitLimit fresh, ⟨.inl noWaiters, fun _ => noWaiters⟩, List.nodup_nil, ?_,
    fun _ _ => List.not_mem_nil, ?_, ?_, ?_⟩
  · exact noWaiters ▸ List.Sublist.refl []
  · intro _ request waits
    exact absurd waits List.not_mem_nil
  · intro request deadline waits
    exact absurd waits List.not_mem_nil
  · intro request waited told
    exact absurd told List.not_mem_nil

/-- A request that the gate finds late has waited for the whole time. -/
theorem Orderly.waited (orderly : Orderly waitLimit system) {request : Nat} {alarm : Alarm}
    (waits : (request, .waiting (some alarm)) ∈ system.seeking) :
    waitLimit ≠ 0 ∧
      ∃ since, (request, since) ∈ system.arrivals ∧ alarm.due = since + waitLimit := by
  obtain ⟨since, arrived, due⟩ := orderly.timed request _ waits
  split at due
  · cases due
  · rename_i bounded
    exact ⟨bounded, since, arrived, Option.some.inj due⟩

theorem Moves.arrived (moves : Moves joined system next) :
    next.arrived = system.arrived ++ joined.toList := by
  unfold SignalledGate.arrived
  rw [moves.arrivals, List.map_append, List.map_map]
  exact congrArg (_ ++ ·) (List.map_id _)

theorem Orderly.step (orderly : Orderly waitLimit system) (moves : Moves joined system next) :
    Orderly waitLimit next := by
  have arrived := moves.arrived
  have known : ∀ entry ∈ system.arrivals, entry ∈ next.arrivals := by
    intro entry member
    rw [moves.arrivals]
    exact List.mem_append_left _ member
  refine ⟨moves.change.waitLimit_eq.trans orderly.limit, moves.change.settled orderly.settled,
    ?_, ?_, ?_, ?_, ?_, ?_⟩
  · rw [arrived]
    cases joined with
    | none => simpa using orderly.once
    | some request =>
        have isNew := orderly.unheard request (moves.fresh request rfl)
        exact List.nodup_append.2 ⟨orderly.once, List.nodup_singleton request, by
          rintro other known _ isLast rfl
          exact isNew (List.mem_singleton.1 isLast ▸ known)⟩
  · rw [arrived]
    exact moves.change.waiters_sublist.trans
      (orderly.inOrder.append (List.Sublist.refl joined.toList))
  · intro request arrives
    obtain ⟨notJoined, before⟩ := moves.arriving request arrives
    rw [arrived, List.mem_append, Option.mem_toList]
    rintro (earlier | isJoined)
    · rcases before with arrived | unheard
      · exact orderly.unheard request arrived earlier
      · exact unheard earlier
    · exact notJoined isJoined
  · intro isOpen request waits
    have wasOpen : system.gate.isClosed = false :=
      Bool.eq_false_iff.2 fun wasClosed => by
        rw [moves.change.isClosed_of_isClosed wasClosed] at isOpen
        cases isOpen
    rcases moves.begun request waits with waited | lined
    · exact moves.lined isOpen request waits waited (orderly.lined wasOpen request waited)
    · exact lined
  · intro request deadline waits
    rcases moves.waiting request deadline waits with waited | ⟨isJoined, due⟩
    · obtain ⟨since, arrived, due⟩ := orderly.timed request deadline waited
      exact ⟨since, known _ arrived, due⟩
    · refine ⟨system.pipeline.clock, ?_, ?_⟩
      · rw [moves.arrivals, isJoined]
        exact List.mem_append_right _ (List.mem_singleton_self _)
      · rw [due, dueNow, orderly.limit]
  · intro request waited told
    rcases moves.refused request _ told with already | ⟨rfl, _, alarm, waits, passed⟩
    · obtain ⟨same, bounded, since, arrived, passed⟩ := orderly.late request waited already
      exact ⟨same, bounded, since, known _ arrived, Nat.le_trans passed moves.clock⟩
    · obtain ⟨bounded, since, arrived, due⟩ := orderly.waited waits
      exact ⟨orderly.limit, bounded, since, known _ arrived,
        Nat.le_trans (due ▸ passed) moves.clock⟩

theorem Reachable.orderly (reached : Reachable maxConcurrency waitLimit system) :
    Orderly waitLimit system := by
  induction reached with
  | start pipeline signals watched built => exact .start signals watched built
  | step before taken ih =>
      obtain ⟨_, moves⟩ := taken.moves before.toGateSystem.balanced
      exact ih.step moves

end SignalledGate

end PolicyWatch.Reprocess
