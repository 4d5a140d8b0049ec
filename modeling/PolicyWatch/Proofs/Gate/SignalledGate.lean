import Mathlib.Logic.Relation
import PolicyWatch.Proofs.Gate.Conservation
import PolicyWatch.Proofs.Gate.Verdict
import PolicyWatch.Reprocess.Schedule

/-!
# A gate whose requests watch signals

The requests at a gate with the signals that they watch, and the order in which they
have begun to wait.  Main statement: what one step can do to the gate and to those
who wait there.
-/

namespace PolicyWatch.Reprocess

/-! ## Signals -/

namespace Schedule

theorem signal_setSignal (schedule : Schedule) (changed : Signal) (name : String) :
    (schedule.setSignal changed).signal name =
      if (schedule.signal changed.name).isDropped then schedule.signal name
      else if changed.name = name then changed else schedule.signal name := by
  unfold setSignal
  split
  · rfl
  · unfold signal
    simp only [List.find?_cons]
    split
    · rename_i isSame
      rw [if_pos (beq_iff_eq.1 isSame)]
      rfl
    · rename_i isOther
      have apart : changed.name ≠ name := fun same => by simp [same] at isOther
      have kept : (schedule.signals.filter (·.name != changed.name)).find? (·.name == name) =
          schedule.signals.find? (·.name == name) := by
        rw [List.find?_filter]
        congr 1
        funext other
        by_cases same : other.name = name
        · simp [same, apart.symm]
        · simp [same]
      rw [if_neg apart, kept]

theorem signal_setSignal_of_dropped {schedule : Schedule} {name : String}
    (isDropped : (schedule.signal name).isDropped = true) (changed : Signal) :
    (schedule.setSignal changed).signal name = schedule.signal name := by
  rw [signal_setSignal]
  by_cases same : changed.name = name
  · rw [same, if_pos isDropped]
  · rw [if_neg same, ite_self]

end Schedule

/-! ## Changes of the gate -/

namespace Gate

/-- Whether the gate is at rest: no slot is free while somebody waits for one, and
nobody waits for one at a closed gate. -/
structure Settled (gate : Gate) : Prop where
  busy : gate.waiters = [] ∨ gate.free = 0
  closed : gate.isClosed = true → gate.waiters = []

/-- What holds of a gate after a slot may have changed hands. -/
structure Hands (gate after : Gate) : Prop where
  waitLimit : after.waitLimit = gate.waitLimit
  isClosed : after.isClosed = gate.isClosed
  waiters : after.waiters.Sublist gate.waiters
  settled : gate.Settled → after.Settled
  newly : ∀ other ∈ after.granted, other ∉ gate.granted → gate.waiters = other :: after.waiters

theorem Hands.giveSlot (gate : Gate) : Hands gate gate.giveSlot.2 := by
  cases waits : gate.waiters with
  | nil =>
      refine ⟨?_, ?_, ?_, fun settled => ⟨?_, ?_⟩, fun _ given isNew => ?_⟩
      · rw [giveSlot_of_nil waits]
      · rw [giveSlot_of_nil waits]
      · rw [giveSlot_of_nil waits]
      · rw [giveSlot_of_nil waits]
        exact .inl waits
      · rw [giveSlot_of_nil waits]
        exact settled.closed
      · exact waits ▸ (giveSlot_newly given isNew).2
  | cons first rest =>
      refine ⟨?_, ?_, ?_, fun settled => ⟨?_, ?_⟩, fun _ given isNew => ?_⟩
      · rw [giveSlot_of_cons waits]
      · rw [giveSlot_of_cons waits]
      · rw [giveSlot_of_cons waits, waits]
        exact List.sublist_cons_self first rest
      · rw [giveSlot_of_cons waits]
        refine .inr (settled.busy.resolve_left fun nobody => ?_)
        cases waits.symm.trans nobody
      · rw [giveSlot_of_cons waits]
        intro isClosed
        cases waits.symm.trans (settled.closed isClosed)
      · exact waits ▸ (giveSlot_newly given isNew).2

theorem Hands.withdraw (gate : Gate) (request : Nat) :
    Hands gate (gate.withdraw request).2 := by
  by_cases given : request ∈ gate.granted
  · have handed := Hands.giveSlot { gate with
      queueDepth := gate.queueDepth - 1
      granted := gate.granted.erase request }
    rw [withdraw_of_mem given]
    refine ⟨handed.waitLimit, handed.isClosed, handed.waiters, ?_, ?_⟩
    · intro settled
      exact handed.settled ⟨settled.busy, settled.closed⟩
    · intro other isGiven isNew
      exact handed.newly other isGiven fun known => isNew (List.mem_of_mem_erase known)
  · rw [withdraw_of_not_mem given]
    refine ⟨rfl, rfl, List.erase_sublist, ?_, fun other isGiven isNew => absurd isGiven isNew⟩
    rintro ⟨busy, closed⟩
    constructor
    · rcases busy with nobody | isFull
      · left
        change gate.waiters.erase request = []
        rw [nobody]
        rfl
      · exact .inr isFull
    · intro isClosed
      change gate.waiters.erase request = []
      rw [closed isClosed]
      rfl

/-- What one step of anybody can do to the gate, with the request that begins to wait
by it. -/
inductive Change (gate : Gate) : Option Nat → Gate → Prop where
  | stay : Change gate none gate
  | join (request : Nat) (isOpen : gate.isClosed = false) (isFull : gate.free = 0) :
      Change gate (some request) { gate with
        waiters := gate.waiters ++ [request], queueDepth := gate.queueDepth + 1 }
  | take (isFree : 0 < gate.free) :
      Change gate none { gate with free := gate.free - 1, holding := gate.holding + 1 }
  | accept (request : Nat) :
      Change gate none { gate with
        granted := gate.granted.erase request
        queueDepth := gate.queueDepth - 1
        holding := gate.holding + 1 }
  | withdraw (request timeouts : Nat) :
      Change gate none { (gate.withdraw request).2 with timeouts }
  | release : Change gate none gate.release.2
  | close : Change gate none gate.close.2

namespace Change

variable {gate next : Gate} {joined : Option Nat}

theorem waitLimit_eq (change : Change gate joined next) : next.waitLimit = gate.waitLimit := by
  cases change with
  | withdraw request timeouts => exact (Hands.withdraw gate request).waitLimit
  | release => exact (Hands.giveSlot { gate with holding := gate.holding - 1 }).waitLimit
  | _ => rfl

theorem isClosed_of_isClosed (change : Change gate joined next) (isClosed : gate.isClosed = true) :
    next.isClosed = true := by
  cases change with
  | withdraw request timeouts => exact (Hands.withdraw gate request).isClosed.trans isClosed
  | release =>
      exact (Hands.giveSlot { gate with holding := gate.holding - 1 }).isClosed.trans isClosed
  | close => rfl
  | _ => exact isClosed

theorem settled (change : Change gate joined next) (settled : gate.Settled) : next.Settled := by
  cases change with
  | stay => exact settled
  | join request isOpen isFull =>
      refine ⟨.inr isFull, ?_⟩
      intro isClosed
      cases isOpen.symm.trans isClosed
  | take isFree =>
      refine ⟨.inl (settled.busy.resolve_right ?_), settled.closed⟩
      exact Nat.pos_iff_ne_zero.1 isFree
  | accept request => exact ⟨settled.busy, settled.closed⟩
  | withdraw request timeouts =>
      have after := (Hands.withdraw gate request).settled settled
      exact ⟨after.busy, after.closed⟩
  | release =>
      apply (Hands.giveSlot { gate with holding := gate.holding - 1 }).settled
      exact ⟨settled.busy, settled.closed⟩
  | close => exact ⟨.inl rfl, fun _ => rfl⟩

/-- Who waits for a slot keeps its place, and who begins to wait is last. -/
theorem waiters_sublist (change : Change gate joined next) :
    next.waiters.Sublist (gate.waiters ++ joined.toList) := by
  have shorter : ∀ {waiters : List Nat}, waiters.Sublist gate.waiters →
      waiters.Sublist (gate.waiters ++ (none : Option Nat).toList) := by
    intro waiters fewer
    rwa [Option.toList_none, List.append_nil]
  cases change with
  | join request => exact List.Sublist.refl _
  | withdraw request timeouts => exact shorter (Hands.withdraw gate request).waiters
  | release =>
      exact shorter (Hands.giveSlot { gate with holding := gate.holding - 1 }).waiters
  | close => exact shorter (List.nil_sublist _)
  | _ => exact shorter (List.Sublist.refl _)

/-- Only the request that has waited longest is newly given a slot. -/
theorem newly (change : Change gate joined next) {other : Nat} (given : other ∈ next.granted)
    (isNew : other ∉ gate.granted) : gate.waiters = other :: next.waiters := by
  cases change with
  | accept request => exact absurd (List.mem_of_mem_erase given) isNew
  | withdraw request timeouts => exact (Hands.withdraw gate request).newly other given isNew
  | release =>
      exact (Hands.giveSlot { gate with holding := gate.holding - 1 }).newly other given isNew
  | _ => exact absurd given isNew

end Change

end Gate

/-! ## Signals and arrivals -/

/-- A gate and its requests with the signals, the signal that each request watches, and the requests
that have begun to wait so far, oldest first, each with the time at which it
did. -/
structure SignalledGate extends GateSystem where
  signals : List Signal
  watched : Nat → String
  arrivals : List (Nat × Nat)

namespace SignalledGate

def schedule (system : SignalledGate) : Schedule :=
  { Schedule.new system.pipeline with signals := system.signals }

def isCancelled (system : SignalledGate) (request : Nat) : Bool :=
  system.schedule.isCancelled (system.watched request)

/-- The requests that have begun to wait so far, oldest first. -/
def arrived (system : SignalledGate) : List Nat := system.arrivals.map Prod.fst

/-- One step of anybody: a request comes, looks at the gate and begins to wait, is
admitted or is refused, or it goes away; one that holds a slot ends, in whatever way;
the gate is closed; a signal is sent or dropped; time goes by; or something happens
that does not concern the gate. -/
inductive Step : SignalledGate → SignalledGate → Prop where
  | come (system : SignalledGate) (request : Nat) (isNew : request ∉ system.names)
      (isUnheard : request ∉ system.arrived) :
      Step system { system with seeking := system.seeking ++ [(request, .arriving)] }
  | wait {system : SignalledGate} {request : Nat} {admission next : Admission} {changed : Pipeline}
      {earlier later : List (Nat × Admission)}
      (seeks : system.seeking = earlier ++ (request, admission) :: later)
      (moved : admission.step? request (system.isCancelled request) system.pipeline =
        some (.going next, changed)) :
      Step system { system with
        pipeline := changed
        seeking := earlier ++ (request, next) :: later
        arrivals := system.arrivals ++ [(request, system.pipeline.clock)] }
  | enter {system : SignalledGate} {request : Nat} {admission : Admission} {changed : Pipeline}
      {earlier later : List (Nat × Admission)}
      (seeks : system.seeking = earlier ++ (request, admission) :: later)
      (moved : admission.step? request (system.isCancelled request) system.pipeline =
        some (.over .admitted, changed)) :
      Step system { system with
        pipeline := changed
        seeking := earlier ++ later
        holders := request :: system.holders }
  | refuse {system : SignalledGate} {request : Nat} {admission : Admission} {error : AdmissionError}
      {changed : Pipeline} {earlier later : List (Nat × Admission)}
      (seeks : system.seeking = earlier ++ (request, admission) :: later)
      (moved : admission.step? request (system.isCancelled request) system.pipeline =
        some (.over (.refused error), changed)) :
      Step system { system with
        pipeline := changed
        seeking := earlier ++ later
        refused := (request, error) :: system.refused }
  | abandon {system : SignalledGate} {request : Nat} {admission : Admission}
      {earlier later : List (Nat × Admission)}
      (seeks : system.seeking = earlier ++ (request, admission) :: later) :
      Step system { system with
        pipeline := admission.leave request system.pipeline
        seeking := earlier ++ later
        gone := request :: system.gone }
  | finish {system : SignalledGate} {request : Nat} {earlier later : List Nat}
      (holds : system.holders = earlier ++ request :: later) :
      Step system { system with
        pipeline := system.pipeline.release
        holders := earlier ++ later }
  | close (system : SignalledGate) :
      Step system { system with pipeline := system.pipeline.closeGate }
  | send (system : SignalledGate) (name : String) (isCancelled : Bool) :
      Step system { system with signals := (system.schedule.send name isCancelled).signals }
  | drop (system : SignalledGate) (name : String) :
      Step system { system with signals := (system.schedule.drop name).signals }
  | elsewhere (system : SignalledGate) (changed : Pipeline) (sameGate : changed.gate = system.gate)
      (later : system.pipeline.clock ≤ changed.clock) :
      Step system { system with pipeline := changed }

/-- What can become of a new gate, its requests and the signals. -/
inductive Reachable (maxConcurrency waitLimit : Nat) : SignalledGate → Prop where
  | start (pipeline : Pipeline) (signals : List Signal) (watched : Nat → String)
      (built : Gate.build? maxConcurrency waitLimit = some pipeline.gate) :
      Reachable maxConcurrency waitLimit ⟨GateSystem.empty pipeline, signals, watched, []⟩
  | step {system next : SignalledGate} (reached : Reachable maxConcurrency waitLimit system)
      (taken : Step system next) : Reachable maxConcurrency waitLimit next

variable {maxConcurrency waitLimit capacity : Nat} {system next : SignalledGate}

/-- A step concerns the gate and its requests, or the signals only. -/
theorem Step.toGateSystem (taken : Step system next) :
    GateSystem.Step system.toGateSystem next.toGateSystem ∨
      next.toGateSystem = system.toGateSystem := by
  cases taken with
  | come request isNew isUnheard => exact .inl (.come system.toGateSystem request isNew)
  | wait seeks moved => exact .inl (.wait seeks moved)
  | enter seeks moved => exact .inl (.enter seeks moved)
  | refuse seeks moved => exact .inl (.refuse seeks moved)
  | abandon seeks => exact .inl (.abandon seeks)
  | finish holds => exact .inl (.finish holds)
  | close => exact .inl (.close system.toGateSystem)
  | send name isCancelled => exact .inr rfl
  | drop name => exact .inr rfl
  | elsewhere changed sameGate later => exact .inl (.elsewhere system.toGateSystem changed sameGate)

theorem Reachable.toGateSystem (reached : Reachable maxConcurrency waitLimit system) :
    GateSystem.Reachable maxConcurrency waitLimit system.toGateSystem := by
  induction reached with
  | start pipeline signals watched built => exact .start pipeline built
  | step _ taken ih =>
      rcases taken.toGateSystem with moved | same
      · exact ih.step moved
      · rwa [same]

end SignalledGate

end PolicyWatch.Reprocess
