import PolicyWatch.Proofs.Gate.Fairness

/-!
# Capacity of the gate

How many requests can hold a slot of a gate at once.  Main statement: any requests that are not
cancelled can come to hold all the slots together, no more ever do, and while they do one more has
to wait.
-/

namespace PolicyWatch.Reprocess

namespace SignalledGate

variable {maxConcurrency waitLimit : Nat} {pipeline : Pipeline} {signals : List Signal}
  {watched : Nat → String} {system : SignalledGate} {request : Nat} {admission : Admission}

/-- A gate that no request has come to yet. -/
def new (pipeline : Pipeline) (signals : List Signal) (watched : Nat → String) : SignalledGate :=
  ⟨GateSystem.empty pipeline, signals, watched, []⟩

/-- The system once a request has come. -/
def received (system : SignalledGate) (request : Nat) : SignalledGate :=
  { system with seeking := system.seeking ++ [(request, .arriving)] }

/-- The system once its pipeline has become another, with requests that hold slots. -/
def holding (system : SignalledGate) (changed : Pipeline) (requests : List Nat) : SignalledGate :=
  { system with pipeline := changed, holders := requests }

/-! ## All slots are held -/

/-- The slots that nobody holds are free or on their way to a request. -/
theorem Reachable.spare_eq (reached : Reachable maxConcurrency waitLimit system) :
    system.gate.available + system.gate.granted.length =
      Gate.capacityFor maxConcurrency - system.holders.length :=
  congrArg Tally.spare reached.toGateSystem.balanced.tally_eq

/-- All the slots of an open gate are held. -/
structure IsFull (maxConcurrency : Nat) (system : SignalledGate) : Prop where
  isOpen : system.gate.isClosed = false
  allHeld : system.holders.length = Gate.capacityFor maxConcurrency

namespace IsFull

variable (isFull : IsFull maxConcurrency system)
  (reached : Reachable maxConcurrency waitLimit system)

include isFull reached

theorem available_eq : system.gate.available = 0 := by
  have spare := reached.spare_eq
  rw [isFull.allHeld] at spare
  omega

theorem granted_eq : system.gate.granted = [] := by
  have spare := reached.spare_eq
  rw [isFull.allHeld] at spare
  exact List.length_eq_zero_iff.1 (by omega)

theorem hasSlot_eq (request : Nat) (admission : Admission) :
    system.hasSlot request admission = false := by
  cases admission with
  | arriving =>
      unfold hasSlot
      rw [isFull.available_eq reached]
      rfl
  | waiting deadline =>
      unfold hasSlot
      rw [isFull.granted_eq reached]
      rfl

theorem verdict?_eq (seeks : (request, admission) ∈ system.seeking)
    (uncancelled : system.isCancelled request = false) :
    system.verdict? request admission =
      if system.hasWaitedOut request then some (.refused (.timedOut waitLimit)) else none := by
  have orderly := reached.orderly
  rw [orderly.verdict?_eq seeks, dueVerdict?, uncancelled, isFull.isOpen,
    isFull.hasSlot_eq reached, orderly.limit]
  rfl

theorem exists_waiting (isNew : request ∉ system.names) (isUnheard : request ∉ system.arrived)
    (uncancelled : system.isCancelled request = false) :
    ∃ later, Leads system later ∧ request ∈ later.waiting ∧ later.holders = system.holders := by
  obtain ⟨deadline, changed, begun, _⟩ :=
    Admission.step?_of_full isFull.isOpen (isFull.available_eq reached) request
  have moved : Admission.arriving.step? request ((system.received request).isCancelled request)
      (system.received request).pipeline = some (.going (.waiting deadline), changed) :=
    uncancelled ▸ begun
  have come : Step system (system.received request) := .come system request isNew isUnheard
  refine ⟨_, .tail (.single come) (.wait rfl moved), ?_, rfl⟩
  change request ∈ GateSystem.waitingAmong _
  rw [GateSystem.waitingAmong_append]
  exact List.mem_append_right _ List.mem_cons_self

end IsFull

/-! ## Filling the slots -/

/-- A request that comes to an open gate with a free slot is admitted at once. -/
theorem exists_entered (isOpen : system.gate.isClosed = false) (isFree : 0 < system.gate.available)
    (isNew : request ∉ system.names) (isUnheard : request ∉ system.arrived)
    (uncancelled : system.isCancelled request = false) :
    ∃ changed, changed.gate.isClosed = false ∧
      Leads system (system.holding changed (request :: system.holders)) := by
  have hasSlot : Admission.arriving.HasSlot request system.pipeline.gate := isFree
  obtain ⟨changed, admitted⟩ := Admission.step?_of_slot isOpen hasSlot
  have moved : Admission.arriving.step? request ((system.received request).isCancelled request)
      (system.received request).pipeline = some (.over .admitted, changed) :=
    uncancelled ▸ admitted
  have come : Step system (system.received request) := .come system request isNew isUnheard
  have entered := Step.enter rfl moved
  rw [List.append_nil] at entered
  refine ⟨changed, ?_, .tail (.single come) entered⟩
  obtain ⟨_, _, taken⟩ | ⟨_, _, taken⟩ := Admission.of_step?_admitted admitted
  · exact (congrArg Gate.isClosed taken).trans isOpen
  · exact (congrArg Gate.isClosed taken).trans isOpen

/-- Requests that come one after the other to a new gate are admitted at once, as long as there are
slots. -/
theorem exists_holding (built : Gate.build? maxConcurrency waitLimit = some pipeline.gate)
    {requests : List Nat} (distinct : requests.Nodup)
    (fits : requests.length ≤ Gate.capacityFor maxConcurrency)
    (uncancelled : ∀ request ∈ requests,
      (new pipeline signals watched).isCancelled request = false) :
    ∃ changed, ((new pipeline signals watched).holding changed requests).gate.isClosed = false ∧
      Leads (new pipeline signals watched)
        ((new pipeline signals watched).holding changed requests) := by
  induction requests with
  | nil =>
      have isOpen := congrArg Gate.isClosed (Gate.eq_of_build? built)
      exact ⟨pipeline, isOpen, .refl⟩
  | cons request rest ih =>
      obtain ⟨isNew, restDistinct⟩ := List.nodup_cons.1 distinct
      obtain ⟨before, isOpen, leads⟩ := ih restDistinct (Nat.le_of_succ_le fits)
        fun other member => uncancelled other (List.mem_cons_of_mem request member)
      have reached : Reachable maxConcurrency waitLimit
          ((new pipeline signals watched).holding before rest) :=
        (Reachable.start pipeline signals watched built).leads leads
      -- Nobody waits, so the slots that nobody holds are free.
      have noneGranted : before.gate.granted = [] := by
        refine List.eq_nil_iff_forall_not_mem.2 fun other given => ?_
        have waits := reached.toGateSystem.balanced.lined other (List.mem_append_right _ given)
        exact List.not_mem_nil waits
      have isFree : 0 < ((new pipeline signals watched).holding before rest).gate.available := by
        have spare := reached.spare_eq
        change before.gate.available + before.gate.granted.length = _ - rest.length at spare
        rw [noneGranted, List.length_nil] at spare
        rw [List.length_cons] at fits
        change 0 < before.gate.available
        omega
      have unnamed : request ∉ ((new pipeline signals watched).holding before rest).names := by
        change request ∉ [] ++ (rest ++ ([] ++ []))
        rwa [List.append_nil, List.append_nil]
      obtain ⟨changed, stillOpen, entered⟩ := exists_entered isOpen isFree unnamed
        List.not_mem_nil (uncancelled request List.mem_cons_self)
      exact ⟨changed, stillOpen, leads.trans entered⟩

/-! ## Capacity -/

/-- What it means that a gate admits so many requests at once and no more, where a request waits for
so long at most. -/
structure HasCapacityFor (count waitLimit : Nat) (system : SignalledGate) : Prop where
  /-- Any so many requests that are not cancelled can come to hold slots together. -/
  together : ∀ requests : List Nat, requests.Nodup → requests.length = count →
    (∀ request ∈ requests, system.isCancelled request = false) →
      ∃ later, Leads system later ∧ later.gate.isClosed = false ∧ later.holders = requests
  /-- Whatever steps are taken, no more ever do. -/
  atMost : ∀ later, Leads system later → later.holders.length ≤ count
  /-- While so many do, one more that comes begins to wait. -/
  oneMore : ∀ later, Leads system later → later.gate.isClosed = false →
    later.holders.length = count → ∀ request, request ∉ later.names → request ∉ later.arrived →
      later.isCancelled request = false →
        ∃ next, Leads later next ∧ request ∈ next.waiting ∧ next.holders = later.holders
  /-- It goes on waiting, unless it is cancelled, until its time is over. -/
  onward : ∀ later, Leads system later → later.gate.isClosed = false →
    later.holders.length = count → ∀ request admission, (request, admission) ∈ later.seeking →
      later.isCancelled request = false → later.verdict? request admission =
        if later.hasWaitedOut request then some (.refused (.timedOut waitLimit)) else none

/-- A new gate admits as many requests at once as it has slots. -/
theorem hasCapacityFor_new (built : Gate.build? maxConcurrency waitLimit = some pipeline.gate)
    (signals : List Signal) (watched : Nat → String) :
    HasCapacityFor (Gate.capacityFor maxConcurrency) waitLimit (new pipeline signals watched) := by
  have start : Reachable maxConcurrency waitLimit (new pipeline signals watched) :=
    .start pipeline signals watched built
  constructor
  case together =>
    intro requests distinct count uncancelled
    obtain ⟨changed, isOpen, leads⟩ :=
      exists_holding built distinct (Nat.le_of_eq count) uncancelled
    exact ⟨_, leads, isOpen, rfl⟩
  case atMost =>
    intro later leads
    exact (start.leads leads).toGateSystem.balanced.fits
  case oneMore =>
    intro later leads isOpen allHeld request isNew isUnheard uncancelled
    exact IsFull.exists_waiting ⟨isOpen, allHeld⟩ (start.leads leads) isNew isUnheard uncancelled
  case onward =>
    intro later leads isOpen allHeld request admission seeks uncancelled
    exact IsFull.verdict?_eq ⟨isOpen, allHeld⟩ (start.leads leads) seeks uncancelled

end SignalledGate

end PolicyWatch.Reprocess
