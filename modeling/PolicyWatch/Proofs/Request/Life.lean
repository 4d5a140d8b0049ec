import Mathlib.Algebra.Ring.Nat
import PolicyWatch.Proofs.Request.Turn

/-!
# The life of a request

A request takes its turns while others use the same pipeline between them, time goes
by, and its signal may be sent at any moment.  Main statement: what a request calls and is
answered, how it ends and what becomes of its slot, over its whole life.
-/

namespace PolicyWatch.Reprocess

namespace Request

/-- A turn of a request: what its signal reads, the pipeline that it finds, and what comes
of its step. -/
structure Turn where
  isCancelled : Bool
  request : Request
  before : Pipeline
  progress : Progress Request RequestEnd
  after : Pipeline
  taken : request.step? isCancelled before = some (progress, after)

namespace Turn

def calls (turn : Turn) : List Call :=
  turn.after.calls.take (turn.after.calls.length - turn.before.calls.length)

def ReceivesFetch (turn : Turn) (answer? : Option (Except Failure (Option Deployment))) : Prop :=
  turn.request.ReceivesFetch turn.isCancelled turn.before answer?

def ReceivesRisk (turn : Turn) (deployment : Deployment) (alerts : List Alert)
    (answer? : Option (Except Failure Unit)) : Prop :=
  turn.request.ReceivesRisk turn.isCancelled turn.before deployment alerts answer?

def Ends (turn : Turn) (ending : RequestEnd) : Prop :=
  turn.request.Ends turn.isCancelled turn.before ending

theorem transition (turn : Turn) :
    Transition turn.request turn.isCancelled turn.before turn.progress turn.calls turn.after := by
  obtain ⟨made, transition⟩ := Transition.of_step? turn.taken
  have same : turn.calls = made := by
    unfold calls
    rw [transition.calls_eq, List.length_append, Nat.add_sub_cancel_right, List.take_left]
  rwa [same]

theorem over_iff {turn : Turn} {ending : RequestEnd} :
    turn.progress = .over ending ↔ turn.Ends ending := by
  constructor
  · intro isOver
    have transition := turn.transition
    rw [isOver] at transition
    exact transition.ends
  · intro ends
    obtain ⟨after, ended⟩ := Request.Ends.exists_step? ends
    exact congrArg Prod.fst (Option.some.inj (turn.taken.symm.trans ended))

end Turn

/-- The turns that a request of a task for an ID can have taken so far, and where it stands
then.  Between two turns anything may happen to the pipeline and to its signal. -/
inductive Life (task : Nat) (id : String) : List Turn → Progress Request RequestEnd → Prop where
  | start : Life task id [] (.going (.new task id))
  | turn {turns : List Turn} {request : Request} (soFar : Life task id turns (.going request))
      (turn : Turn) (next : turn.request = request) :
      Life task id (turns ++ [turn]) turn.progress

/-- The calls that are made in turns, oldest first. -/
def callsIn (turns : List Turn) : List Call := turns.flatMap Turn.calls

theorem callsIn_snoc (turns : List Turn) (turn : Turn) :
    callsIn (turns ++ [turn]) = callsIn turns ++ turn.calls := by
  unfold callsIn
  rw [List.flatMap_append, List.flatMap_singleton]

variable {task : Nat} {id : String} {turns : List Turn} {progress : Progress Request RequestEnd}

/-- Whether calls are those of one request in order: at most one fetch, and after it at most
one risk call, which may have ended. -/
def InOrder (task : Nat) (id : String) (calls : List Call) : Prop :=
  calls <+: [.fetchBegun task id] ∨ ∃ deployment alerts,
    calls <+: [.fetchBegun task id, .riskBegun task deployment alerts,
      .riskEnded task deployment alerts]

/-- What has come before a stage of a request: the calls that it has made, and the answer of
the store that it has received. -/
def Foregone (task : Nat) (id : String) (turns : List Turn) : Stage → Prop
  | .queued _ => callsIn turns = []
  | .admitted => callsIn turns = []
  | .fetching _ => callsIn turns = [.fetchBegun task id]
  | .evaluating deployment => callsIn turns = [.fetchBegun task id] ∧
      ∃ turn ∈ turns, turn.ReceivesFetch (some (.ok (some deployment)))
  | .assessing _ deployment alerts =>
      callsIn turns = [.fetchBegun task id, .riskBegun task deployment alerts]

/-- What has come before a request stands where it does. -/
inductive History (task : Nat) (id : String) (turns : List Turn) :
    Progress Request RequestEnd → Prop where
  | going {stage : Stage} (foregone : Foregone task id turns stage) :
      History task id turns (.going ⟨task, id, stage⟩)
  | ended {ending : RequestEnd} (calls : InOrder task id (callsIn turns)) :
      History task id turns (.over ending)

theorem Foregone.inOrder {stage : Stage} (foregone : Foregone task id turns stage) :
    InOrder task id (callsIn turns) := by
  cases stage with
  | queued admission => exact .inl ⟨_, congrArg (· ++ [.fetchBegun task id]) foregone⟩
  | admitted => exact .inl ⟨_, congrArg (· ++ [.fetchBegun task id]) foregone⟩
  | fetching alarm => exact .inl ⟨[], (List.append_nil _).trans foregone⟩
  | evaluating deployment => exact .inl ⟨[], (List.append_nil _).trans foregone.1⟩
  | assessing alarm deployment alerts =>
      exact .inr ⟨deployment, alerts, [.riskEnded task deployment alerts],
        congrArg (· ++ [.riskEnded task deployment alerts]) foregone⟩

theorem History.inOrder (history : History task id turns progress) :
    InOrder task id (callsIn turns) := by
  cases history with
  | going foregone => exact foregone.inOrder
  | ended calls => exact calls

/-- A turn of a request adds its call to those before, in order. -/
theorem Foregone.turn {turn : Turn} (foregone : Foregone task id turns turn.request.stage)
    (sameTask : turn.request.task = task) (sameId : turn.request.id = id) :
    History task id (turns ++ [turn]) turn.progress := by
  have transition := turn.transition
  have more := callsIn_snoc turns turn
  have ended : turn.calls = [] → ∀ ending, History task id (turns ++ [turn]) (.over ending) := by
    intro silent ending
    refine .ended ?_
    rw [more, silent, List.append_nil]
    exact foregone.inOrder
  subst sameTask sameId
  generalize turn.progress = progress, turn.calls = made, turn.after = after
    at transition more ended ⊢
  cases transition with
  | wait stage moved =>
      rw [stage] at foregone
      refine .going ?_
      rw [List.append_nil] at more
      exact more.trans foregone
  | enter stage moved =>
      rw [stage] at foregone
      refine .going ?_
      rw [List.append_nil] at more
      exact more.trans foregone
  | refuse stage moved => exact ended rfl _
  | fetch stage uncancelled alarm alarms =>
      rw [stage] at foregone
      exact .going (more.trans (congrArg (· ++ _) foregone))
  | find heard =>
      have ⟨_, _, alarm, stage, _⟩ := heard
      rw [stage] at foregone
      rw [List.append_nil] at more
      refine .going ⟨more.trans foregone, turn, ?_, heard⟩
      exact List.mem_append_right _ (List.mem_singleton_self turn)
  | assess stage uncancelled alarm alarms =>
      rw [stage] at foregone
      exact .going (more.trans (congrArg (· ++ _) foregone.1))
  | @complete deployment alerts heard =>
      have ⟨_, _, alarm, stage, _⟩ := heard
      rw [stage] at foregone
      refine .ended (.inr ⟨deployment, alerts, [], ?_⟩)
      rw [List.append_nil, more]
      exact congrArg (· ++ [.riskEnded turn.request.task deployment alerts]) foregone
  | finish holds ends incomplete => exact ended rfl _

/-! ## Whole lives -/

theorem Life.history (life : Life task id turns progress) : History task id turns progress := by
  induction life with
  | start => exact .going rfl
  | turn soFar turn next ih =>
      cases ih with
      | @going stage foregone =>
          have stage_eq : turn.request.stage = stage := congrArg Request.stage next
          exact Foregone.turn (stage_eq ▸ foregone) (congrArg Request.task next)
            (congrArg Request.id next)

/-- Every turn of a life comes after a shorter life. -/
theorem Life.before_turn (life : Life task id turns progress) :
    ∀ {earlier later : List Turn} {turn : Turn}, turns = earlier ++ turn :: later →
      Life task id earlier (.going turn.request) := by
  induction life with
  | start =>
      intro earlier later turn split
      cases (List.append_ne_nil_of_right_ne_nil earlier (List.cons_ne_nil turn later)) split.symm
  | @turn turns request soFar last next ih =>
      intro earlier later turn split
      rcases List.eq_nil_or_concat later with rfl | ⟨front, final, rfl⟩
      · obtain ⟨rfl, same⟩ := List.append_inj' split rfl
        cases same
        exact next ▸ soFar
      · rw [List.concat_eq_append, ← List.cons_append, ← List.append_assoc] at split
        exact ih (List.append_inj' split rfl).1

theorem Life.over_of_mem (life : Life task id turns progress) {turn : Turn} {ending : RequestEnd}
    (member : turn ∈ turns) (isOver : turn.progress = .over ending) : progress = .over ending := by
  induction life with
  | start => cases member
  | turn soFar last next ih =>
      rcases List.mem_append.1 member with earlier | isLast
      · cases ih earlier
      · rw [← List.mem_singleton.1 isLast, isOver]

theorem Life.exists_of_over (life : Life task id turns progress) {ending : RequestEnd}
    (isOver : progress = .over ending) : ∃ turn ∈ turns, turn.progress = .over ending := by
  cases life with
  | start => cases isOver
  | turn soFar last next =>
      exact ⟨last, List.mem_append_right _ (List.mem_singleton_self last), isOver⟩

theorem Life.foregone (life : Life task id turns progress) {earlier later : List Turn}
    {turn : Turn} (split : turns = earlier ++ turn :: later) :
    turn.request.task = task ∧ turn.request.id = id ∧
      Foregone task id earlier turn.request.stage := by
  have before := (life.before_turn split).history
  generalize turn.request = request at before
  cases before with
  | going foregone => exact ⟨rfl, rfl, foregone⟩

/-- The slots that a request has taken and not given back by its turns. -/
theorem Life.spare_eq (life : Life task id turns progress) :
    (turns.map fun turn => turn.before.gate.tally.spare).sum =
      (turns.map fun turn => turn.after.gate.tally.spare).sum + slotsAfter progress := by
  induction life with
  | start => rfl
  | turn soFar last next ih =>
      have conserved := last.transition.slots_kept.2
      have held : slotsAfter (.going last.request) = last.request.slots := rfl
      rw [next] at held conserved
      simp only [List.map_append, List.map_cons, List.map_nil, List.sum_append, List.sum_cons,
        List.sum_nil, ih, held]
      omega

/-- What the life of a request is like. -/
structure Lawful (task : Nat) (id : String) (turns : List Turn)
    (progress : Progress Request RequestEnd) : Prop where
  /-- It fetches at most once, and after that makes at most one risk call. -/
  calls : InOrder task id (callsIn turns)
  /-- It makes a call only while it holds a slot and before its signal reads cancelled. -/
  held : ∀ turn ∈ turns, turn.calls ≠ [] →
    turn.request.holdsSlot = true ∧ turn.isCancelled = false
  /-- It makes the risk call for the very deployment that the store gave, with the very alerts
  that the policies raise for it then, also if some of them fail. -/
  handedOver : ∀ earlier turn later, turns = earlier ++ turn :: later →
    ∀ deployment alerts, .riskBegun task deployment alerts ∈ turn.calls →
      (∃ heard ∈ earlier, heard.ReceivesFetch (some (.ok (some deployment)))) ∧
        alerts = (turn.before.registry.matchAll turn.before.answers turn.before.instant
          (.deployment deployment)).1.alerts
  /-- An answer of the risk manager is to a call that it made. -/
  answered : ∀ turn ∈ turns, ∀ deployment alerts answer?,
    turn.ReceivesRisk deployment alerts answer? →
      .riskBegun task deployment alerts ∈ callsIn turns
  /-- A turn in which its signal reads cancelled is its last and makes no call. -/
  cancelled : ∀ turn ∈ turns, turn.isCancelled = true →
    turn.calls = [] ∧ progress = .over (.finished (.failure
      (if turn.request.holdsSlot then .cancelled id else .admission .cancelled)))
  /-- It ends in a way just if it took a turn in which it must; the error of a fetch, of a risk
  call and of a cancellation while it held a slot name its ID. -/
  ended : ∀ ending, progress = .over ending ↔ ∃ turn ∈ turns, turn.Ends ending
  named : ∀ turn ∈ turns, turn.request.id = id
  /-- Unless it is over it takes its next turn at once, but while it waits for a slot or for a
  call that takes longer, and is not cancelled. -/
  prompt : ∀ request, progress = .going request → ∀ isCancelled pipeline,
    request.step? isCancelled pipeline = none →
      isCancelled = false ∧ (request.holdsSlot = true →
        ∃ alarm, request.alarm? = some alarm ∧ pipeline.hasElapsed alarm = false)
  /-- A turn takes a slot from those that nobody holds when it is admitted, and one in which
  it ends with a slot gives it back to the gate. -/
  slots : ∀ turn ∈ turns,
    turn.after.gate.capacity = turn.before.gate.capacity ∧
      turn.after.gate.tally.spare + slotsAfter turn.progress =
        turn.before.gate.tally.spare + turn.request.slots ∧
      (turn.request.holdsSlot = true →
        (∀ next, turn.progress = .going next → turn.after.gate = turn.before.gate) ∧
          ∀ ending, turn.progress = .over ending →
            turn.after.gate = turn.before.gate.release.2)
  /-- Over its whole life it takes one slot if it still holds one, and else none. -/
  balance : (turns.map fun turn => turn.before.gate.tally.spare).sum =
    (turns.map fun turn => turn.after.gate.tally.spare).sum + slotsAfter progress

/-- The life of every request is lawful, whatever others do to the pipeline between its turns
and whenever its signal is sent. -/
theorem Life.lawful (life : Life task id turns progress) : Lawful task id turns progress := by
  have named : ∀ turn ∈ turns, turn.request.id = id := by
    intro turn member
    obtain ⟨earlier, later, split⟩ := List.append_of_mem member
    exact (life.foregone split).2.1
  have ended : ∀ ending, progress = .over ending ↔ ∃ turn ∈ turns, turn.Ends ending := by
    intro ending
    constructor
    · intro isOver
      obtain ⟨turn, member, ends⟩ := life.exists_of_over isOver
      exact ⟨turn, member, Turn.over_iff.1 ends⟩
    · rintro ⟨turn, member, ends⟩
      exact life.over_of_mem member (Turn.over_iff.2 ends)
  refine ⟨life.history.inOrder, ?_, ?_, ?_, ?_, ended, named, ?_, ?_, life.spare_eq⟩
  · intro turn member calls
    exact turn.transition.holdsSlot_of_call calls
  · intro earlier turn later split deployment alerts called
    obtain ⟨_, _, foregone⟩ := life.foregone split
    have transition := turn.transition
    generalize turn.calls = made, turn.progress = stand, turn.after = after at transition called
    cases transition with
    | assess stage uncancelled alarm alarms =>
        cases List.mem_singleton.1 called
        rw [stage] at foregone
        exact ⟨foregone.2, rfl⟩
    | fetch stage uncancelled alarm alarms => cases List.mem_singleton.1 called
    | complete heard => cases List.mem_singleton.1 called
    | _ => cases called
  · intro turn member deployment alerts answer? heard
    obtain ⟨earlier, later, split⟩ := List.append_of_mem member
    obtain ⟨_, _, foregone⟩ := life.foregone split
    obtain ⟨_, _, alarm, stage, _⟩ := heard
    rw [stage] at foregone
    have made : callsIn earlier = [.fetchBegun task id, .riskBegun task deployment alerts] :=
      foregone
    rw [split, callsIn, List.flatMap_append]
    refine List.mem_append_left _ ?_
    rw [← callsIn, made]
    exact List.mem_cons_of_mem _ List.mem_cons_self
  · intro turn member isCancelled
    constructor
    · by_cases silent : turn.calls = []
      · exact silent
      · cases isCancelled.symm.trans (turn.transition.holdsSlot_of_call silent).2
    · obtain ⟨after, isOver⟩ := turn.request.exists_step?_of_cancelled turn.before
      have taken := turn.taken
      rw [isCancelled] at taken
      refine life.over_of_mem member ?_
      rw [← named turn member]
      exact congrArg Prod.fst (Option.some.inj (taken.symm.trans isOver))
  · intro request _ isCancelled pipeline waits
    exact alarm_of_step?_none waits
  · intro turn member
    obtain ⟨capacity, spare⟩ := turn.transition.slots_kept
    exact ⟨capacity, spare, turn.transition.gate_eq⟩

/-- A pipeline with one free slot and one deployment that is stored. -/
def storedPipeline : Pipeline where
  collaborators := .prompt
  registry := .empty .none
  answers := fun _ _ => .missing
  instant := ⟨2024, 1, 1, 0, 0, 0, 0⟩
  store := ⟨[⟨"web", "web", "c1", "shop", "n1", 1, .empty, []⟩]⟩
  gate := ⟨1, 50, 1, [], [], false, 0, 0, 0⟩
  inbox := .empty
  clock := 0
  alarms := 0
  ready := []
  calls := []

/-- Task 7 is admitted and fetches the deployment, and its signal is sent before it looks
again. -/
theorem web_cancelled_after_fetch :
    ∃ turns, Life 7 "web" turns (.over (.finished (.failure (.cancelled "web")))) ∧
      callsIn turns = [.fetchBegun 7 "web"] ∧
      Lawful 7 "web" turns (.over (.finished (.failure (.cancelled "web")))) := by
  let enter : Turn := ⟨false, .new 7 "web", storedPipeline, _, _, rfl⟩
  let fetch : Turn := ⟨false, ⟨7, "web", .admitted⟩, enter.after, _, _, rfl⟩
  let cancel : Turn := ⟨true, ⟨7, "web", .fetching none⟩, fetch.after, _, _, rfl⟩
  have life : Life 7 "web" ([] ++ [enter] ++ [fetch] ++ [cancel])
      (.over (.finished (.failure (.cancelled "web")))) :=
    .turn (.turn (.turn .start enter rfl) fetch rfl) cancel rfl
  exact ⟨_, life, rfl, life.lawful⟩

end Request

end PolicyWatch.Reprocess
