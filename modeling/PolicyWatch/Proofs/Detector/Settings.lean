import PolicyWatch.Proofs.Detector.Registration
import PolicyWatch.Proofs.Detector.Reprocessing
import PolicyWatch.Proofs.Gate.Capacity

/-!
# Settings that a run accepts

What becomes of reprocessing with settings that a run has settled on.  Main statement: a gate is
built for them just if they ask for no more slots than a gate can have, it then admits as many
requests at once as they say and no more, and if they ask for more the program breaks off.
-/

namespace PolicyWatch

open Reprocess (Gate SignalledGate Pipeline Signal)

/-- Settings are accepted that ask for a slot and a worker at least. -/
theorem ReprocessingSettings.validate_eq_ok_iff (settings : ReprocessingSettings) :
    settings.validate = .ok () ↔ 0 < settings.maxConcurrency ∧ 0 < settings.workers := by
  unfold validate
  split
  · rename_i noSlots
    simp [noSlots]
  · rename_i slots
    split
    · rename_i noWorkers
      simp [noWorkers]
    · rename_i workers
      simp [Nat.pos_of_ne_zero slots, Nat.pos_of_ne_zero workers]

namespace Detector

variable {files : FileTree} {request : CommandLine.Request} {settings : Settings}

theorem validate_of_settle (settled : settle files request = .ok settings) :
    settings.reprocessing.validate = .ok () := by
  unfold settle at settled
  obtain ⟨loaded, _, merged⟩ := Checks.bind_eq_ok_iff.1 settled
  obtain ⟨_, valid, made⟩ := Checks.bind_eq_ok_iff.1 merged
  cases made
  exact valid

/-! ## Which runs break off -/

theorem ending_evaluate_ne_crash (detector : Detector) (files : FileTree) (input : String)
    (path? : Option String) : (detector.evaluate files input path?).ending ≠ .crash := by
  unfold evaluate
  split
  · exact RunEnd.noConfusion
  · split <;> exact RunEnd.noConfusion

theorem ending_reprocess_eq_crash_iff (detector : Detector) (files : FileTree)
    (settings : ReprocessingSettings) (path : String) (cluster? : Option String) :
    (detector.reprocess files settings path cluster?).ending = .crash ↔
      (∃ store, loadDeployments files path = .ok store) ∧
        Gate.greatestCapacity < settings.maxConcurrency := by
  rw [← Nat.not_le, ← Gate.exists_build?_iff settings.waitMilliseconds]
  unfold reprocess
  cases loadDeployments files path with
  | error failure => simp [RunReport.failed]
  | ok store =>
      cases Gate.build? settings.maxConcurrency settings.waitMilliseconds with
      | none => simp
      | some gate => simp [reprocessStore]

/-- Whether a command asks to reprocess the deployments of a file that can be read. -/
def Reprocesses (files : FileTree) (command : CommandLine.Command) : Prop :=
  ∃ path cluster? maxConcurrency? waitSeconds? workers? store,
    command = .reprocess path cluster? maxConcurrency? waitSeconds? workers? ∧
      loadDeployments files path = .ok store

theorem ending_carryOut_eq_crash_iff (detector : Detector) (files : FileTree) (input : String)
    (failed : Nat) (settings : Settings) (command : CommandLine.Command) :
    (detector.carryOut files input failed settings command).ending = .crash ↔
      Reprocesses files command ∧ Gate.greatestCapacity < settings.reprocessing.maxConcurrency := by
  unfold Reprocesses
  cases command with
  | check =>
      refine iff_of_false ?_ (by simp)
      rw [carryOut, ending_check]
      split <;> exact RunEnd.noConfusion
  | evaluate events =>
      refine iff_of_false ?_ (by simp)
      exact ending_evaluate_ne_crash detector files input events
  | reprocess path cluster? maxConcurrency? waitSeconds? workers? =>
      refine (ending_reprocess_eq_crash_iff detector files settings.reprocessing path _).trans ?_
      refine and_congr_left fun _ => ?_
      simp

/-- A run breaks off just if it has loaded its policies, is asked to reprocess deployments that can
be read, and has settled on more slots than a gate can have. -/
theorem Invocation.ending_eq_crash_iff [SizeLimit] {invocation : Invocation}
    (parsed : CommandLine.parse invocation.words = .ok request)
    (settled : settle invocation.files request = .ok settings) (now : Instant) :
    (invocation.report now).ending = .crash ↔
      (∃ policies, loadPolicies invocation.files settings.policies = .ok policies) ∧
        Reprocesses invocation.files request.command ∧
        Gate.greatestCapacity < settings.reprocessing.maxConcurrency := by
  cases loaded : loadPolicies invocation.files settings.policies with
  | ok policies =>
      rw [(report_of_loaded parsed settled loaded now).1, ending_carryOut_eq_crash_iff]
      simp
  | error failure =>
      refine iff_of_false ?_ (by simp)
      unfold report run
      simp only [parsed, settled, runWith, loaded]
      exact RunEnd.noConfusion

/-! ## Accepted settings -/

/-- What it means that settings which a run has settled on can be run with, unless they ask for too
many slots. -/
structure RunsUnlessTooMany [SizeLimit] (invocation : Invocation) (request : CommandLine.Request)
    (settings : Settings) : Prop where
  /-- They ask for a slot and a worker at least. -/
  positive : 0 < settings.reprocessing.maxConcurrency ∧ 0 < settings.reprocessing.workers
  /-- There is a gate for them just if they do not ask for too many slots. -/
  built : (∃ gate, Gate.build? settings.reprocessing.maxConcurrency
      settings.reprocessing.waitMilliseconds = some gate) ↔
    settings.reprocessing.maxConcurrency ≤ Gate.greatestCapacity
  /-- It has as many slots as they say: that many requests can hold one at once, and one more has to
  wait. -/
  capacity : ∀ (pipeline : Pipeline) (signals : List Signal) (watched : Nat → String),
    Gate.build? settings.reprocessing.maxConcurrency settings.reprocessing.waitMilliseconds =
        some pipeline.gate →
      pipeline.gate.capacity = settings.reprocessing.maxConcurrency ∧
        (SignalledGate.new pipeline signals watched).HasCapacityFor
          settings.reprocessing.maxConcurrency settings.reprocessing.waitMilliseconds
  /-- The run breaks off just if it comes to reprocess deployments without a gate. -/
  crashes : ∀ now, (invocation.report now).ending = .crash ↔
    (∃ policies, loadPolicies invocation.files settings.policies = .ok policies) ∧
      Reprocesses invocation.files request.command ∧
      Gate.greatestCapacity < settings.reprocessing.maxConcurrency

/-- Settings that a run has settled on can be run with, unless they ask for more slots than a gate
can have. -/
theorem accepted_settings_run [SizeLimit] {invocation : Invocation}
    (parsed : CommandLine.parse invocation.words = .ok request)
    (settled : settle invocation.files request = .ok settings) :
    RunsUnlessTooMany invocation request settings := by
  have positive := (settings.reprocessing.validate_eq_ok_iff).1 (validate_of_settle settled)
  have capacity : Gate.capacityFor settings.reprocessing.maxConcurrency =
      settings.reprocessing.maxConcurrency := if_neg (Nat.ne_of_gt positive.1)
  constructor
  case positive => exact positive
  case built => exact Gate.exists_build?_iff _
  case capacity =>
    intro pipeline signals watched built
    have hasCapacity := SignalledGate.hasCapacityFor_new built signals watched
    rw [capacity] at hasCapacity
    exact ⟨(congrArg Gate.capacity (Gate.eq_of_build? built)).trans capacity, hasCapacity⟩
  case crashes =>
    intro now
    exact Invocation.ending_eq_crash_iff parsed settled now

/-- A run that reprocesses one deployment with so many slots. -/
def withSlots (maxConcurrency : String) : Invocation where
  files := ⟨fun path =>
    if path = "policies.yaml" then some (.file twoPolicies)
    else if path = "deployments" then some (.file (lineOf "web" "web" "east")) else none⟩
  input := ""
  words := ["--policies", "policies.yaml", "reprocess", "--deployments", "deployments",
    "--max-concurrency", maxConcurrency]

/-- With as many slots as a gate can have there is a gate, and the run does not break off. -/
theorem withSlots_greatest :
    let invocation := withSlots "2305843009213693951"
    let settings : Settings := ⟨"info", "policies.yaml", .default, ⟨Gate.greatestCapacity, 30, 17⟩⟩
    let request : CommandLine.Request := ⟨"config.yaml", some "policies.yaml", none,
      .reprocess "deployments" none (some Gate.greatestCapacity) none none⟩
    CommandLine.parse invocation.words = .ok request ∧
      settle invocation.files request = .ok settings ∧
      RunsUnlessTooMany invocation request settings ∧
      (∃ gate, Gate.build? settings.reprocessing.maxConcurrency
        settings.reprocessing.waitMilliseconds = some gate) ∧
      ∀ now, (invocation.report now).ending ≠ .crash := by
  intro invocation settings request
  have parsed : CommandLine.parse invocation.words = .ok request := by decide +kernel
  have settled : settle invocation.files request = .ok settings := by decide +kernel
  have runs : RunsUnlessTooMany invocation request settings := accepted_settings_run parsed settled
  have atMost : settings.reprocessing.maxConcurrency ≤ Gate.greatestCapacity :=
    Nat.le_refl Gate.greatestCapacity
  refine ⟨parsed, settled, runs, runs.built.2 atMost, fun now crashed => ?_⟩
  exact Nat.not_lt.2 atMost ((runs.crashes now).1 crashed).2.2

/-- With one slot more the settings are accepted as well, but there is no gate for them, and the run
breaks off. -/
theorem withSlots_tooMany :
    let invocation := withSlots "2305843009213693952"
    let settings : Settings :=
      ⟨"info", "policies.yaml", .default, ⟨2305843009213693952, 30, 17⟩⟩
    let request : CommandLine.Request := ⟨"config.yaml", some "policies.yaml", none,
      .reprocess "deployments" none (some 2305843009213693952) none none⟩
    CommandLine.parse invocation.words = .ok request ∧
      settle invocation.files request = .ok settings ∧
      settings.reprocessing.validate = .ok () ∧
      Gate.build? settings.reprocessing.maxConcurrency settings.reprocessing.waitMilliseconds =
        none ∧
      (invocation.report ⟨2024, 2, 29, 12, 0, 0, 0⟩).ending = .crash := by
  decide +kernel

end Detector

end PolicyWatch
