import Mathlib.Data.List.Nodup
import PolicyWatch.Proofs.Gate.GateSystem

/-!
# Slots are conserved

The counters of a gate tell how many requests wait, hold a slot and have waited
too long, and no slot is lost or made.  Main statement: this holds whatever steps
the requests take, and a request that ends without a slot changes no counter but
that of the requests that waited too long.
-/

namespace PolicyWatch.Reprocess

/-- What a gate counts: the requests that wait, those that hold a slot, those that
have waited too long, and the slots that nobody holds. -/
structure Tally where
  waiting : Nat
  holding : Nat
  timeouts : Nat
  spare : Nat
  deriving DecidableEq, Repr

namespace Gate

/-- The counts of a gate.  A slot that a request was given and has not taken is
held by nobody. -/
def tally (gate : Gate) : Tally :=
  ⟨gate.queueDepth, gate.holding, gate.timeouts, gate.available + gate.granted.length⟩

/-- The requests that a slot can still be given to or was given to. -/
def line (gate : Gate) : List Nat :=
  gate.waiters ++ gate.granted

theorem capacityFor_le_greatestCapacity_iff {maxConcurrency : Nat} :
    capacityFor maxConcurrency ≤ greatestCapacity ↔ maxConcurrency ≤ greatestCapacity := by
  unfold capacityFor
  split
  · rename_i noSlots
    rw [noSlots]
    exact iff_of_true (by decide +kernel) (Nat.zero_le _)
  · exact Iff.rfl

/-- A gate can be built for some requests at once, unless they are too many. -/
theorem exists_build?_iff {maxConcurrency : Nat} (waitLimit : Nat) :
    (∃ gate, build? maxConcurrency waitLimit = some gate) ↔ maxConcurrency ≤ greatestCapacity := by
  rw [← capacityFor_le_greatestCapacity_iff]
  constructor
  · rintro ⟨gate, built⟩
    refine Decidable.byContradiction fun tooMany => ?_
    cases (if_neg tooMany).symm.trans built
  · intro fits
    exact ⟨_, if_pos fits⟩

theorem eq_of_build? {maxConcurrency waitLimit : Nat} {gate : Gate}
    (built : build? maxConcurrency waitLimit = some gate) :
    gate = ⟨capacityFor maxConcurrency, waitLimit, capacityFor maxConcurrency, [], [], false, 0, 0,
      0⟩ := by
  unfold build? at built
  dsimp only at built
  split at built
  · exact (Option.some.inj built).symm
  · cases built

variable (gate : Gate)

/-! ## What single operations do -/

theorem tally_giveSlot :
    gate.giveSlot.2.tally = { gate.tally with spare := gate.tally.spare + 1 } := by
  unfold giveSlot
  split
  · simp only [tally, available, Tally.mk.injEq, true_and]
    omega
  · simp only [tally, available, List.length_append, List.length_singleton, Nat.add_assoc]

theorem capacity_giveSlot : gate.giveSlot.2.capacity = gate.capacity := by
  unfold giveSlot
  split <;> rfl

theorem line_giveSlot : gate.giveSlot.2.line.Perm gate.line := by
  unfold giveSlot
  split
  · exact .refl _
  · rename_i first rest waits
    have front : gate.line = first :: (rest ++ gate.granted) := by
      rw [line, waits, List.cons_append]
    rw [front]
    change (rest ++ (gate.granted ++ [first])).Perm (first :: (rest ++ gate.granted))
    rw [← List.append_assoc]
    exact List.perm_append_singleton first (rest ++ gate.granted)

/-- A slot that was given and is not taken goes on, so a request that withdraws
changes the number of those that wait and nothing else. -/
theorem tally_withdraw (request : Nat) :
    (gate.withdraw request).2.tally =
      { gate.tally with waiting := gate.tally.waiting - 1 } := by
  unfold withdraw
  dsimp only
  split
  · rename_i given
    have member : request ∈ gate.granted := List.contains_iff_mem.1 given
    have positive : 0 < gate.granted.length := List.length_pos_of_mem member
    rw [tally_giveSlot]
    simp only [tally, available, List.length_erase_of_mem member, Tally.mk.injEq, true_and]
    omega
  · rfl

theorem capacity_withdraw (request : Nat) :
    (gate.withdraw request).2.capacity = gate.capacity := by
  unfold withdraw
  dsimp only
  split
  · exact capacity_giveSlot _
  · rfl

theorem line_withdraw (request : Nat) (once : gate.line.Nodup) :
    (gate.withdraw request).2.line.Perm (gate.line.erase request) := by
  unfold withdraw
  dsimp only
  split
  · rename_i given
    have member : request ∈ gate.granted := List.contains_iff_mem.1 given
    have apart : request ∉ gate.waiters :=
      fun waits => (List.nodup_append.1 once).2.2 request waits request member rfl
    refine (line_giveSlot _).trans ?_
    change (gate.waiters ++ gate.granted.erase request).Perm
      ((gate.waiters ++ gate.granted).erase request)
    rw [List.erase_append_right _ apart]
  · rename_i notGiven
    have absent : request ∉ gate.granted := fun given => notGiven (List.contains_iff_mem.2 given)
    by_cases waits : request ∈ gate.waiters
    · change (gate.waiters.erase request ++ gate.granted).Perm
        ((gate.waiters ++ gate.granted).erase request)
      rw [List.erase_append_left _ waits]
    · have outside : request ∉ gate.line := fun member =>
        (List.mem_append.1 member).elim waits absent
      rw [List.erase_of_not_mem outside]
      change (gate.waiters.erase request ++ gate.granted).Perm (gate.waiters ++ gate.granted)
      rw [List.erase_of_not_mem waits]

/-- What a gate looks like once a request seeks a slot no more. -/
structure Leaves (request : Nat) (before after : Gate) : Prop where
  capacity : after.capacity = before.capacity
  line : after.line.Perm (before.line.erase request)

variable {gate}

theorem Leaves.of_not_mem {request : Nat} (absent : request ∉ gate.line) :
    Leaves request gate gate :=
  ⟨rfl, by rw [List.erase_of_not_mem absent]⟩

theorem Leaves.withdraw (request : Nat) (once : gate.line.Nodup) :
    Leaves request gate (gate.withdraw request).2 :=
  ⟨capacity_withdraw gate request, line_withdraw gate request once⟩

end Gate

namespace GateSystem

/-! ## The invariant -/

theorem waitingAmong_append (left right : List (Nat × Admission)) :
    waitingAmong (left ++ right) = waitingAmong left ++ waitingAmong right := by
  simp only [waitingAmong, List.filter_append, List.map_append]

theorem waitingAmong_cons (request : Nat) (admission : Admission)
    (rest : List (Nat × Admission)) :
    waitingAmong ((request, admission) :: rest) =
      if admission.isWaiting then request :: waitingAmong rest else waitingAmong rest := by
  unfold waitingAmong
  rw [List.filter_cons]
  split <;> simp_all

theorem waitingAmong_subset (seeking : List (Nat × Admission)) :
    waitingAmong seeking ⊆ seeking.map Prod.fst :=
  List.map_subset _ (List.filter_subset_self seeking)

theorem waitingAmong_newcomer (seeking : List (Nat × Admission)) (request : Nat) :
    waitingAmong (seeking ++ [(request, .arriving)]) = waitingAmong seeking := by
  rw [waitingAmong_append, waitingAmong_cons]
  exact List.append_nil _

/-- What a gate with some slots should count. -/
def tally (capacity : Nat) (system : GateSystem) : Tally :=
  ⟨system.waiting.length, system.holders.length, system.timedOut.length,
    capacity - system.holders.length⟩

/-- What holds of a gate and its requests at any time. -/
structure Balanced (capacity : Nat) (system : GateSystem) : Prop where
  capacity_eq : system.gate.capacity = capacity
  tally_eq : system.gate.tally = system.tally capacity
  fits : system.holders.length ≤ capacity
  once : system.gate.line.Nodup
  lined : ∀ request ∈ system.gate.line, request ∈ system.waiting
  distinct : system.names.Nodup

variable {capacity : Nat} {system next : GateSystem} {request : Nat} {admission : Admission}
  {earlier later : List (Nat × Admission)}

theorem waiting_eq (seeks : system.seeking = earlier ++ (request, admission) :: later) :
    system.waiting = waitingAmong earlier ++
      if admission.isWaiting then request :: waitingAmong later else waitingAmong later := by
  rw [waiting, seeks, waitingAmong_append, waitingAmong_cons]

/-- Once a request seeks a slot no more, it is not counted as waiting. -/
theorem length_waitingAmong (seeks : system.seeking = earlier ++ (request, admission) :: later) :
    (waitingAmong (earlier ++ later)).length =
      system.waiting.length - admission.isWaiting.toNat := by
  rw [waiting_eq seeks, waitingAmong_append]
  cases admission.isWaiting <;> simp

theorem Balanced.count_waiting (balanced : Balanced capacity system)
    (seeks : system.seeking = earlier ++ (request, admission) :: later) :
    system.waiting.count request = admission.isWaiting.toNat := by
  have distinct := balanced.distinct
  rw [names, seeks, List.map_append, List.append_assoc, List.map_cons, List.cons_append,
    List.nodup_middle, List.nodup_cons] at distinct
  have notEarlier : request ∉ waitingAmong earlier := fun early =>
    distinct.1 (List.mem_append_left _ (waitingAmong_subset earlier early))
  have notLater : request ∉ waitingAmong later := fun late =>
    distinct.1 (List.mem_append_right _ (List.mem_append_left _ (waitingAmong_subset later late)))
  rw [waiting_eq seeks, List.count_append, List.count_eq_zero.2 notEarlier]
  cases admission.isWaiting with
  | false => simp [List.count_eq_zero.2 notLater]
  | true => simp [List.count_eq_zero.2 notLater]

theorem Balanced.not_mem_line (balanced : Balanced capacity system)
    (seeks : system.seeking = earlier ++ (request, admission) :: later)
    (idle : admission.isWaiting = false) : request ∉ system.gate.line := by
  intro member
  have counted := balanced.count_waiting seeks
  rw [idle] at counted
  exact List.count_eq_zero.1 counted (balanced.lined request member)

/-- Once a request seeks a slot no more, slots are still given only to requests
that wait. -/
theorem Balanced.lined_of_leaves (balanced : Balanced capacity system)
    (seeks : system.seeking = earlier ++ (request, admission) :: later) {after : Gate}
    (left : Gate.Leaves request system.gate after) :
    ∀ other ∈ after.line, other ∈ waitingAmong (earlier ++ later) := by
  intro other member
  have kept := left.line.mem_iff.1 member
  rw [balanced.once.mem_erase_iff] at kept
  have waits := balanced.lined other kept.2
  rw [waiting_eq seeks] at waits
  rw [waitingAmong_append]
  cases waited : admission.isWaiting with
  | false =>
      rw [waited] at waits
      exact waits
  | true =>
      rw [waited] at waits
      simpa [kept.1] using waits

/-- A name that moves further back stays the only one of its kind. -/
theorem nodup_moved {front middle back : List Nat}
    (distinct : (front ++ request :: (middle ++ back)).Nodup) :
    (front ++ (middle ++ request :: back)).Nodup := by
  rw [← List.append_assoc, List.nodup_middle, List.append_assoc]
  exact List.nodup_middle.1 distinct

/-- The names of the requests when one has come before. -/
theorem Balanced.nodup_seeking (balanced : Balanced capacity system)
    (seeks : system.seeking = earlier ++ (request, admission) :: later) :
    (earlier.map Prod.fst ++ request :: (later.map Prod.fst ++
      (system.holders ++ (system.refused.map Prod.fst ++ system.gone)))).Nodup := by
  have distinct := balanced.distinct
  rwa [names, turnedAway, seeks, List.map_append, List.map_cons, List.append_assoc,
    List.cons_append] at distinct

/-! ## Steps of a request that seeks a slot -/

section Seeking

variable {isCancelled : Bool} {changed : Pipeline}

theorem Balanced.wait (balanced : Balanced capacity system) {waiting : Admission}
    (seeks : system.seeking = earlier ++ (request, admission) :: later)
    (moved : admission.step? request isCancelled system.pipeline =
      some (.going waiting, changed)) :
    changed.gate.tally = { system.gate.tally with waiting := system.gate.tally.waiting + 1 } ∧
      Balanced capacity { system with
        pipeline := changed
        seeking := earlier ++ (request, waiting) :: later } := by
  obtain ⟨idle, waits, joined⟩ := Admission.of_step?_going moved
  have before := waiting_eq seeks
  rw [idle, if_neg Bool.false_ne_true] at before
  have after : waitingAmong (earlier ++ (request, waiting) :: later) =
      waitingAmong earlier ++ request :: waitingAmong later := by
    rw [waitingAmong_append, waitingAmong_cons, if_pos waits]
  have line : changed.gate.line.Perm (request :: system.gate.line) := by
    rw [joined, Gate.line, List.append_assoc]
    exact List.perm_middle
  have counted : changed.gate.tally =
      { system.gate.tally with waiting := system.gate.tally.waiting + 1 } := by
    rw [joined]
    rfl
  have longer : (waitingAmong (earlier ++ (request, waiting) :: later)).length =
      system.waiting.length + 1 := by
    rw [after, before, List.length_append, List.length_append, List.length_cons]
    omega
  refine ⟨counted, ?_⟩
  refine ⟨(congrArg Gate.capacity joined).trans balanced.capacity_eq, ?_, balanced.fits, ?_, ?_, ?_⟩
  · refine counted.trans ?_
    rw [balanced.tally_eq]
    exact congrArg (Tally.mk · _ _ _) longer.symm
  · exact line.nodup_iff.2 (List.nodup_cons.2 ⟨balanced.not_mem_line seeks idle, balanced.once⟩)
  · intro other member
    change other ∈ waitingAmong _
    rw [after, List.mem_append, List.mem_cons]
    rcases List.mem_cons.1 (line.mem_iff.1 member) with rfl | known
    · exact .inr (.inl rfl)
    · have waited := balanced.lined other known
      rw [before, List.mem_append] at waited
      exact waited.imp_right .inr
  · have distinct := balanced.nodup_seeking seeks
    simp only [names, turnedAway, List.map_append, List.map_cons, List.append_assoc,
      List.cons_append]
    exact distinct

/-- A request that is admitted takes a slot that nobody held. -/
theorem Balanced.enter (balanced : Balanced capacity system)
    (seeks : system.seeking = earlier ++ (request, admission) :: later)
    (moved : admission.step? request isCancelled system.pipeline =
      some (.over .admitted, changed)) :
    Balanced capacity { system with
      pipeline := changed
      seeking := earlier ++ later
      holders := request :: system.holders } := by
  obtain ⟨left, positive, counted⟩ : Gate.Leaves request system.gate changed.gate ∧
      0 < system.gate.tally.spare ∧
      changed.gate.tally =
        ⟨system.gate.tally.waiting - admission.isWaiting.toNat, system.gate.tally.holding + 1,
          system.gate.tally.timeouts, system.gate.tally.spare - 1⟩ := by
    obtain ⟨idle, isFree, entered⟩ | ⟨waited, given, entered⟩ :=
      Admission.of_step?_admitted moved
    · have stayed := Gate.Leaves.of_not_mem (balanced.not_mem_line seeks idle)
      rw [idle, entered]
      refine ⟨⟨rfl, stayed.line⟩, Nat.add_pos_left isFree _, ?_⟩
      have shifted : system.gate.free - 1 + system.gate.granted.length =
          system.gate.free + system.gate.granted.length - 1 :=
        (Nat.sub_add_comm isFree).symm
      exact congrArg (Tally.mk _ _ _ ·) shifted
    · have apart : request ∉ system.gate.waiters := fun waits =>
        (List.nodup_append.1 balanced.once).2.2 request waits request given rfl
      have positive : 0 < system.gate.granted.length := List.length_pos_of_mem given
      have shorter : (system.gate.granted.erase request).length = system.gate.granted.length - 1 :=
        List.length_erase_of_mem given
      rw [waited, entered]
      refine ⟨⟨rfl, ?_⟩, Nat.add_pos_right _ positive, ?_⟩
      · change (system.gate.waiters ++ system.gate.granted.erase request).Perm
          ((system.gate.waiters ++ system.gate.granted).erase request)
        rw [List.erase_append_right _ apart]
      · have shifted : system.gate.free + (system.gate.granted.erase request).length =
            system.gate.free + system.gate.granted.length - 1 := by
          rw [shorter, Nat.add_sub_assoc positive]
        exact congrArg (Tally.mk _ _ _ ·) shifted
  rw [balanced.tally_eq] at positive counted
  have room : system.holders.length < capacity := Nat.lt_of_sub_pos positive
  refine ⟨left.capacity.trans balanced.capacity_eq, ?_, room,
    left.line.nodup_iff.2 (balanced.once.erase request), balanced.lined_of_leaves seeks left, ?_⟩
  · refine counted.trans ?_
    change Tally.mk _ _ _ (capacity - system.holders.length - 1) = Tally.mk _ _ _ _
    rw [Nat.sub_sub]
    exact congrArg (Tally.mk · _ _ _) (length_waitingAmong seeks).symm
  · have distinct := nodup_moved (balanced.nodup_seeking seeks)
    rwa [← List.append_assoc, ← List.map_append] at distinct

/-- A request that is refused changes no count but that of the requests that have
waited too long, apart from no longer waiting. -/
theorem Balanced.refuse (balanced : Balanced capacity system) {error : AdmissionError}
    (seeks : system.seeking = earlier ++ (request, admission) :: later)
    (moved : admission.step? request isCancelled system.pipeline =
      some (.over (.refused error), changed)) :
    changed.gate.tally =
        { system.gate.tally with
          waiting := system.gate.tally.waiting - admission.isWaiting.toNat
          timeouts := system.gate.tally.timeouts + error.isTimeout.toNat } ∧
      Balanced capacity { system with
        pipeline := changed
        seeking := earlier ++ later
        refused := (request, error) :: system.refused } := by
  obtain ⟨left, counted⟩ : Gate.Leaves request system.gate changed.gate ∧
      changed.gate.tally =
        { system.gate.tally with
          waiting := system.gate.tally.waiting - admission.isWaiting.toNat
          timeouts := system.gate.tally.timeouts + error.isTimeout.toNat } := by
    obtain ⟨idle, inTime, entered⟩ | ⟨waited, entered⟩ := Admission.of_step?_refused moved
    · rw [idle, inTime, entered]
      exact ⟨Gate.Leaves.of_not_mem (balanced.not_mem_line seeks idle), rfl⟩
    · have withdrawn := Gate.Leaves.withdraw request balanced.once
      have withdrawal := Gate.tally_withdraw system.gate request
      rw [waited, entered]
      refine ⟨⟨withdrawn.capacity, withdrawn.line⟩, ?_⟩
      exact congrArg (fun counts : Tally =>
        { counts with timeouts := counts.timeouts + error.isTimeout.toNat }) withdrawal
  refine ⟨counted, left.capacity.trans balanced.capacity_eq, ?_, balanced.fits,
    left.line.nodup_iff.2 (balanced.once.erase request), balanced.lined_of_leaves seeks left, ?_⟩
  · have late : (timedOut { system with refused := (request, error) :: system.refused }).length =
        system.timedOut.length + error.isTimeout.toNat := by
      unfold timedOut
      rw [List.filter_cons]
      cases error.isTimeout <;> rfl
    refine counted.trans ?_
    rw [balanced.tally_eq]
    exact congrArg₂ (Tally.mk · _ · _) (length_waitingAmong seeks).symm late.symm
  · have distinct := balanced.nodup_seeking seeks
    rw [← List.append_assoc (later.map Prod.fst)] at distinct
    have moved := nodup_moved distinct
    rwa [List.append_assoc, ← List.append_assoc, ← List.map_append] at moved

/-- A request that goes away changes no count, apart from no longer waiting. -/
theorem Balanced.abandon (balanced : Balanced capacity system)
    (seeks : system.seeking = earlier ++ (request, admission) :: later) :
    (admission.leave request system.pipeline).gate.tally =
        { system.gate.tally with
          waiting := system.gate.tally.waiting - admission.isWaiting.toNat } ∧
      Balanced capacity { system with
        pipeline := admission.leave request system.pipeline
        seeking := earlier ++ later
        gone := request :: system.gone } := by
  obtain ⟨left, counted⟩ :
      Gate.Leaves request system.gate (admission.leave request system.pipeline).gate ∧
        (admission.leave request system.pipeline).gate.tally =
          { system.gate.tally with
            waiting := system.gate.tally.waiting - admission.isWaiting.toNat } := by
    rw [Admission.gate_leave]
    cases idle : admission.isWaiting with
    | false => exact ⟨Gate.Leaves.of_not_mem (balanced.not_mem_line seeks idle), rfl⟩
    | true => exact ⟨Gate.Leaves.withdraw request balanced.once, Gate.tally_withdraw _ request⟩
  refine ⟨counted, left.capacity.trans balanced.capacity_eq, ?_, balanced.fits,
    left.line.nodup_iff.2 (balanced.once.erase request), balanced.lined_of_leaves seeks left, ?_⟩
  · refine counted.trans ?_
    rw [balanced.tally_eq]
    exact congrArg (Tally.mk · _ _ _) (length_waitingAmong seeks).symm
  · have distinct := balanced.nodup_seeking seeks
    rw [← List.append_assoc system.holders, ← List.append_assoc (later.map Prod.fst)] at distinct
    have moved := nodup_moved distinct
    rwa [List.append_assoc, List.append_assoc, ← List.append_assoc, ← List.map_append] at moved

end Seeking

/-! ## Whole runs -/

theorem Balanced.start {maxConcurrency waitLimit : Nat} {pipeline : Pipeline}
    (built : Gate.build? maxConcurrency waitLimit = some pipeline.gate) :
    Balanced (Gate.capacityFor maxConcurrency) (empty pipeline) := by
  have fresh := Gate.eq_of_build? built
  have line : (empty pipeline).gate.line = [] := by
    rw [gate, empty, fresh]
    rfl
  refine ⟨?_, ?_, Nat.zero_le _, ?_, ?_, List.nodup_nil⟩
  · exact congrArg Gate.capacity fresh
  · exact congrArg Gate.tally fresh
  · rw [line]
    exact List.nodup_nil
  · rw [line]
    intro request impossible
    cases impossible

/-- A request that comes is known by name and counts for nothing yet. -/
theorem Balanced.come (balanced : Balanced capacity system) (isNew : request ∉ system.names) :
    Balanced capacity { system with seeking := system.seeking ++ [(request, .arriving)] } := by
  have sameWaiting := waitingAmong_newcomer system.seeking request
  refine { balanced with tally_eq := ?_, lined := ?_, distinct := ?_ }
  · refine balanced.tally_eq.trans ?_
    exact congrArg (Tally.mk ·.length _ _ _) sameWaiting.symm
  · intro other member
    change other ∈ waitingAmong _
    rw [sameWaiting]
    exact balanced.lined other member
  · simp only [names, List.map_append, List.map_cons, List.map_nil, List.append_assoc,
      List.cons_append, List.nil_append]
    exact List.nodup_middle.2 (List.nodup_cons.2 ⟨isNew, balanced.distinct⟩)

/-- A slot that is given back is held by nobody. -/
theorem Balanced.finish (balanced : Balanced capacity system) {earlier later : List Nat}
    (holds : system.holders = earlier ++ request :: later) :
    Balanced capacity { system with
      pipeline := system.pipeline.release
      holders := earlier ++ later } := by
  have released := system.pipeline.gate_release
  have held : system.holders.length = (earlier ++ later).length + 1 := by
    rw [holds, List.length_append, List.length_append, List.length_cons]
    omega
  have fits := balanced.fits
  have line : system.pipeline.release.gate.line.Perm system.gate.line := by
    rw [released]
    exact Gate.line_giveSlot _
  have counted : system.pipeline.release.gate.tally =
      { system.gate.tally with
        holding := system.gate.tally.holding - 1
        spare := system.gate.tally.spare + 1 } := by
    rw [released]
    exact Gate.tally_giveSlot _
  refine ⟨?_, ?_, ?_, ?_, ?_, ?_⟩
  · refine Eq.trans ?_ balanced.capacity_eq
    exact (congrArg Gate.capacity released).trans (Gate.capacity_giveSlot _)
  · refine counted.trans ?_
    rw [balanced.tally_eq]
    have fewer : system.holders.length - 1 = (earlier ++ later).length := by omega
    have more : capacity - system.holders.length + 1 = capacity - (earlier ++ later).length := by
      omega
    exact congrArg₂ (Tally.mk _ · _ ·) fewer more
  · change (earlier ++ later).length ≤ capacity
    omega
  · exact line.nodup_iff.2 balanced.once
  · intro other member
    exact balanced.lined other (line.mem_iff.1 member)
  · have distinct := balanced.distinct
    rw [names, holds] at distinct
    refine distinct.sublist ?_
    refine (List.Sublist.refl _).append (List.Sublist.append ?_ (List.Sublist.refl _))
    exact (List.Sublist.refl earlier).append (List.sublist_cons_self request later)

/-- Closing the gate changes no count; requests that were given a slot still have
it. -/
theorem Balanced.close (balanced : Balanced capacity system) :
    Balanced capacity { system with pipeline := system.pipeline.closeGate } := by
  have closed := system.pipeline.gate_closeGate
  have line : system.pipeline.closeGate.gate.line.Sublist system.gate.line := by
    rw [closed]
    exact List.sublist_append_right system.gate.waiters system.gate.granted
  refine ⟨?_, ?_, balanced.fits, balanced.once.sublist line, ?_, balanced.distinct⟩
  · exact (congrArg Gate.capacity closed).trans balanced.capacity_eq
  · exact (congrArg Gate.tally closed).trans balanced.tally_eq
  · intro other member
    exact balanced.lined other (line.subset member)

theorem Balanced.step (balanced : Balanced capacity system) (taken : Step system next) :
    Balanced capacity next := by
  cases taken with
  | come request isNew => exact balanced.come isNew
  | wait seeks moved => exact (balanced.wait seeks moved).2
  | enter seeks moved => exact balanced.enter seeks moved
  | refuse seeks moved => exact (balanced.refuse seeks moved).2
  | abandon seeks => exact (balanced.abandon seeks).2
  | finish holds => exact balanced.finish holds
  | close => exact balanced.close
  | elsewhere changed sameGate =>
      have same : ∀ {α : Type} (read : Gate → α), read changed.gate = read system.gate :=
        fun read => congrArg read sameGate
      exact ⟨(same _).trans balanced.capacity_eq, (same _).trans balanced.tally_eq, balanced.fits,
        (same Gate.line).symm ▸ balanced.once, (same Gate.line).symm ▸ balanced.lined,
        balanced.distinct⟩

/-- Whatever has happened at a gate, its counts are right. -/
theorem Reachable.balanced {maxConcurrency waitLimit : Nat}
    (reached : Reachable maxConcurrency waitLimit system) :
    Balanced (Gate.capacityFor maxConcurrency) system := by
  induction reached with
  | start pipeline built => exact .start built
  | step _ taken ih => exact ih.step taken

theorem Balanced.absent_of_turnedAway (balanced : Balanced capacity system)
    (left : request ∈ system.turnedAway) :
    request ∉ system.holders ∧ request ∉ system.waiting ∧ request ∉ system.gate.line := by
  have distinct := balanced.distinct
  rw [names, List.nodup_append] at distinct
  obtain ⟨_, others, apart⟩ := distinct
  have notWaiting : request ∉ system.waiting := fun waits =>
    apart request (waitingAmong_subset _ waits) request (List.mem_append_right _ left) rfl
  refine ⟨?_, notWaiting, fun lined => notWaiting (balanced.lined request lined)⟩
  exact fun holds => (List.nodup_append.1 others).2.2 request holds request left rfl

theorem timedOut_subset (system : GateSystem) : system.timedOut ⊆ system.turnedAway := fun _ late =>
  List.mem_append_left _ (List.map_subset _ (List.filter_subset_self _) late)

/-- Nobody begins to wait when another request stops seeking a slot. -/
theorem waitingAmong_fewer (seeks : system.seeking = earlier ++ (request, admission) :: later) :
    waitingAmong (earlier ++ later) ⊆ system.waiting := by
  intro other member
  rw [waitingAmong_append, List.mem_append] at member
  rw [waiting_eq seeks, List.mem_append]
  cases admission.isWaiting with
  | false => exact member
  | true => exact member.imp_right (List.mem_cons_of_mem request)

theorem Balanced.tally_of_begun (balanced : Balanced capacity system) (taken : Step system next)
    (waits : request ∈ next.waiting) (waited : request ∉ system.waiting) :
    next.gate.tally = { system.gate.tally with waiting := system.gate.tally.waiting + 1 } := by
  cases taken with
  | come other isNew =>
      change request ∈ waitingAmong _ at waits
      rw [waitingAmong_newcomer] at waits
      exact absurd waits waited
  | wait seeks moved => exact (balanced.wait seeks moved).1
  | enter seeks moved => exact absurd (waitingAmong_fewer seeks waits) waited
  | refuse seeks moved => exact absurd (waitingAmong_fewer seeks waits) waited
  | abandon seeks => exact absurd (waitingAmong_fewer seeks waits) waited
  | finish holds => exact absurd waits waited
  | close => exact absurd waits waited
  | elsewhere changed sameGate => exact absurd waits waited

/-- A step in which a request is turned away takes away what its waiting added, and
counts it if it has waited too long. -/
theorem Balanced.tally_of_turnedAway (balanced : Balanced capacity system)
    (taken : Step system next) (left : request ∈ next.turnedAway)
    (stayed : request ∉ system.turnedAway) :
    next.gate.tally = { system.gate.tally with
      waiting := system.gate.tally.waiting - system.waiting.count request
      timeouts := system.gate.tally.timeouts + next.timedOut.count request } := by
  have inTime : system.timedOut.count request = 0 :=
    List.count_eq_zero.2 fun late => stayed (system.timedOut_subset late)
  cases taken with
  | @refuse other admission _ error changed earlier later seeks moved =>
      obtain rfl : request = other :=
        (List.mem_cons.1 left).resolve_right stayed
      have late : (timedOut { system with refused := (request, error) :: system.refused }).count
          request = error.isTimeout.toNat := by
        unfold timedOut at inTime ⊢
        rw [List.filter_cons]
        cases error.isTimeout with
        | false => exact inTime
        | true => exact (List.count_cons_self).trans (congrArg (· + 1) inTime)
      rw [balanced.count_waiting seeks]
      refine (balanced.refuse seeks moved).1.trans ?_
      exact congrArg (fun late => { system.gate.tally with
        waiting := system.gate.tally.waiting - admission.isWaiting.toNat
        timeouts := system.gate.tally.timeouts + late }) late.symm
  | @abandon other admission earlier later seeks =>
      obtain rfl : request = other := by
        rcases List.mem_append.1 left with refused | gone
        · exact absurd (List.mem_append_left _ refused) stayed
        · exact (List.mem_cons.1 gone).resolve_right fun already =>
            stayed (List.mem_append_right _ already)
      rw [balanced.count_waiting seeks]
      refine (balanced.abandon seeks).1.trans ?_
      exact congrArg (fun late => { system.gate.tally with
        waiting := system.gate.tally.waiting - admission.isWaiting.toNat
        timeouts := system.gate.tally.timeouts + late }) inTime.symm
  | come other isNew => exact absurd left stayed
  | wait seeks moved => exact absurd left stayed
  | enter seeks moved => exact absurd left stayed
  | finish holds => exact absurd left stayed
  | close => exact absurd left stayed
  | elsewhere changed sameGate => exact absurd left stayed

/-- Slots are conserved.  Whatever steps requests have taken at a gate, in whatever
order, the requests that hold a slot are those that the gate counts, and no more
than there are slots; every slot is free, held, or on its way to one request that
waits; and the gate counts the requests that wait and those that have waited too
long.  Of a request that was turned away nothing is left: it holds no slot and is
given none.  Its waiting added one to the requests that wait and its end takes that
one away, so it leaves the counts as if it had never come, but for the count of
those that have waited too long. -/
theorem slots_conserved {maxConcurrency waitLimit : Nat} {system : GateSystem}
    (reached : Reachable maxConcurrency waitLimit system) :
    let gate := system.gate
    gate.capacity = Gate.capacityFor maxConcurrency ∧
      (gate.holding = system.holders.length ∧ gate.holding ≤ gate.capacity) ∧
      gate.available + gate.holding + gate.granted.length = gate.capacity ∧
      (gate.granted.Nodup ∧ ∀ request ∈ gate.granted, request ∈ system.waiting) ∧
      gate.queueDepth = system.waiting.length ∧
      gate.timeouts = system.timedOut.length ∧
      (∀ request ∈ system.turnedAway,
        request ∉ system.holders ∧ request ∉ system.waiting ∧ request ∉ gate.line) ∧
      ∀ next, Step system next →
        (∀ request ∈ next.waiting, request ∉ system.waiting →
          next.gate.tally = { gate.tally with waiting := gate.tally.waiting + 1 }) ∧
        ∀ request ∈ next.turnedAway, request ∉ system.turnedAway →
          next.gate.tally = { gate.tally with
            waiting := gate.tally.waiting - system.waiting.count request
            timeouts := gate.tally.timeouts + next.timedOut.count request } := by
  intro gate
  have balanced := reached.balanced
  have capacity_eq : gate.capacity = _ := balanced.capacity_eq
  have holding : gate.holding = system.holders.length := congrArg Tally.holding balanced.tally_eq
  have spare : gate.available + gate.granted.length = _ - system.holders.length :=
    congrArg Tally.spare balanced.tally_eq
  have fits := balanced.fits
  refine ⟨capacity_eq, ⟨holding, ?_⟩, ?_, ⟨?_, ?_⟩, congrArg Tally.waiting balanced.tally_eq,
    congrArg Tally.timeouts balanced.tally_eq, ?_, ?_⟩
  · omega
  · omega
  · exact balanced.once.of_append_right
  · intro request given
    exact balanced.lined request (List.mem_append_right _ given)
  · intro request left
    exact balanced.absent_of_turnedAway left
  · intro next taken
    exact ⟨fun request => balanced.tally_of_begun taken,
      fun request => balanced.tally_of_turnedAway taken⟩

/-- A pipeline with nothing but a gate of one slot. -/
def narrowPipeline : Pipeline where
  collaborators := .prompt
  registry := .empty .none
  answers := fun _ _ => .missing
  instant := ⟨2024, 1, 1, 0, 0, 0, 0⟩
  store := .empty
  gate := ⟨1, 50, 1, [], [], false, 0, 0, 0⟩
  inbox := .empty
  clock := 0
  alarms := 0
  ready := []
  calls := []

/-- Request 0 holds the only slot while requests 1 and 2 wait, and then ends: the
slot is on its way to request 1. -/
def handedOver : GateSystem where
  pipeline := { narrowPipeline with
    gate := ⟨1, 50, 0, [2], [1], false, 2, 0, 0⟩, alarms := 2, ready := [1] }
  seeking := [(1, .waiting (some ⟨50, 0⟩)), (2, .waiting (some ⟨50, 1⟩))]
  holders := []
  refused := []
  gone := []

theorem reachable_handedOver : Reachable 1 50 handedOver := by
  have started : Reachable 1 50 (empty narrowPipeline) := .start _ rfl
  have first := started.step (.come _ 0 (by decide))
  have held := first.step (@Step.enter _ 0 .arriving false _ [] [] rfl rfl)
  have second := held.step (.come _ 1 (by decide))
  have queued := second.step (@Step.wait _ 1 .arriving _ false _ [] [] rfl rfl)
  have third := queued.step (.come _ 2 (by decide))
  have lined := third.step (@Step.wait _ 2 .arriving _ false _ [(1, _)] [] rfl rfl)
  exact lined.step (@Step.finish _ 0 [] [] rfl)

theorem handedOver_conserved :
    Reachable 1 50 handedOver ∧ handedOver.gate.granted = [1] ∧
      handedOver.gate.available + handedOver.gate.holding + handedOver.gate.granted.length = 1 :=
  ⟨reachable_handedOver, rfl, (slots_conserved reachable_handedOver).2.2.1⟩

end GateSystem

end PolicyWatch.Reprocess
