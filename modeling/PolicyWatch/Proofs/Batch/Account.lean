import PolicyWatch.Proofs.Batch.Progress

/-!
# The account of a batch

What the risk manager has been told of a batch, next to the books of the pool that works on it.
Main statements: whatever turns the workers take, and however time goes by, the pool is done after
a bounded number of turns, some task can take a turn until it is, and in the end the risk manager
was told of each stored deployment of the batch once, unless a request has waited too long.
-/

namespace PolicyWatch.Reprocess

theorem Occupation.Act.of_leave {source before after : Pipeline} {worker : Worker} {number : Nat}
    {counted? : Option (String × Result)}
    (act : Act source number before worker.occupation none counted? after) :
    worker.counts? false before = none ∧ after = before ∧ before.inbox.queue.order = [] := by
  obtain ⟨task, occupation, summary⟩ := worker
  cases act with
  | leave isEmpty => exact ⟨rfl, rfl, isEmpty⟩

/-! ## What a turn tells -/

/-- What the risk manager is told while IDs are counted: of each that is stored, unless a request
has waited too long. -/
structure Schedule.Tells (source : Pipeline) (schedule : Schedule)
    (counted : List (Nat × String × Result)) (next : Schedule) : Prop where
  told : next.pipeline.told =
    schedule.pipeline.told ++ counted.filterMap fun entry => source.outcome? entry.2
  honest : ∀ entry ∈ counted,
    source.outcome? entry.2 = source.report? entry.2.1 ∨ 0 < next.pipeline.gate.timeouts
  timeouts : schedule.pipeline.gate.timeouts ≤ next.pipeline.gate.timeouts

namespace Schedule

variable {source : Pipeline} {schedule next : Schedule} {number : Nat}

/-- Nobody is told of anything while nothing is counted. -/
theorem Tells.nothing (calls : next.pipeline.calls = schedule.pipeline.calls)
    (timeouts : next.pipeline.gate.timeouts = schedule.pipeline.gate.timeouts) :
    Tells source schedule [] next := by
  refine ⟨?_, fun _ impossible => ?_, Nat.le_of_eq timeouts.symm⟩
  · exact (Pipeline.told_of_calls calls).trans (List.append_nil _).symm
  · cases impossible

theorem counts_eq (silent : schedule.signals = []) {tag signal : String} {pool : Nat}
    {worker : Worker} (here : schedule.tasks[number]? = some ⟨tag, signal, .working pool worker⟩) :
    schedule.counts number =
      (worker.counts? false schedule.pipeline).toList.map (number, ·) := by
  unfold counts
  rw [here]
  dsimp only
  rw [isCancelled_of_silent silent]

theorem Tells.act {occupation : Occupation} {next? : Option Occupation}
    {counted? : Option (String × Result)}
    (act : Occupation.Act source number schedule.pipeline occupation next? counted? next.pipeline) :
    Tells source schedule (counted?.toList.map (number, ·)) next := by
  refine ⟨?_, ?_, act.timeouts_le⟩
  · rw [act.told_eq]
    cases counted? with
    | none => rfl
    | some counted =>
        change _ ++ (source.outcome? counted).toList = _ ++ List.filterMap _ [(number, counted)]
        rw [List.filterMap_cons, List.filterMap_nil]
        cases source.outcome? counted <;> rfl
  · intro entry listed
    cases counted? with
    | none => cases listed
    | some counted =>
        cases List.mem_singleton.1 listed
        exact act.outcome?_eq

theorem Turn.tells (invariant : BatchInvariant source schedule)
    (turn : Turn source schedule number next) :
    Tells source schedule (schedule.counts number) next := by
  cases turn with
  | @spawnWorkers tag signal workers here =>
      have nothing : schedule.counts 0 = [] := by
        unfold counts
        rw [here]
      rw [nothing]
      exact .nothing (Pipeline.calls_wakeAll _ _)
        (congrArg Gate.timeouts (Pipeline.gate_wakeAll _ _))
  | @act _ tag signal worker later changed here isLater sameTask act =>
      rw [counts_eq invariant.silent here]
      exact .act act
  | @leave _ tag signal worker changed here isLater act =>
      obtain ⟨nothing, rfl, _⟩ := act.of_leave
      rw [counts_eq invariant.silent here, nothing]
      refine .nothing ?_ ?_
      · rw [pipeline_joinWorker]
        rfl
      · rw [pipeline_joinWorker]
        rfl

end Schedule

end PolicyWatch.Reprocess
