import PolicyWatch.Proofs.CompiledPolicy.Acceptance
import PolicyWatch.Registry.NotifierRemoval

/-!
# What describes a policy only

Some fields of a policy describe it, and have no part in what it detects.  Main
statement: policies that differ in such fields only compile to the same checks
or are refused with the same error.
-/

namespace PolicyWatch

namespace Policy

/-- Whether two policies differ in descriptive fields only. -/
structure DetectsAlike (left right : Policy) : Prop where
  id : right.id = left.id
  name : right.name = left.name
  stages : right.stages = left.stages
  eventSource : right.eventSource = left.eventSource
  groups : right.sections.map PolicySection.groups = left.sections.map PolicySection.groups
  scopes : right.scopes = left.scopes
  exclusions : right.exclusions = left.exclusions

theorem detectsAlike_withoutNotifier (policy : Policy) (notifier : String) :
    policy.DetectsAlike (policy.withoutNotifier notifier) :=
  ⟨rfl, rfl, rfl, rfl, rfl, rfl, rfl⟩

theorem withoutNotifier_id (policy : Policy) (notifier : String) :
    (policy.withoutNotifier notifier).id = policy.id := rfl

theorem namesNotifier_withoutNotifier (policy : Policy) (notifier : String) :
    (policy.withoutNotifier notifier).namesNotifier notifier = false := by
  simp [namesNotifier, withoutNotifier]

end Policy

variable {left right : Policy}

theorem CompiledSection.compile_of_detectsAlike [SizeLimit] (alike : left.DetectsAlike right)
    (index : Nat) {clause other : PolicySection} (same : other.groups = clause.groups) :
    compile right index other = compile left index clause := by
  unfold compile
  rw [same, alike.id, alike.eventSource]

theorem CompiledSection.compileFrom_of_detectsAlike [SizeLimit] (alike : left.DetectsAlike right) :
    ∀ (index : Nat) {clauses others : List PolicySection},
      others.map PolicySection.groups = clauses.map PolicySection.groups →
        compileFrom right index others = compileFrom left index clauses
  | _, [], [], _ => rfl
  | _, [], _ :: _, same => by cases same
  | _, _ :: _, [], same => by cases same
  | index, clause :: clauses, other :: others, same => by
      obtain ⟨sameFirst, sameRest⟩ := List.cons.inj same
      unfold compileFrom
      rw [compile_of_detectsAlike alike index sameFirst,
        compileFrom_of_detectsAlike alike (index + 1) sameRest]

namespace CompiledPolicy

theorem checkHead_of_detectsAlike (alike : left.DetectsAlike right) :
    checkHead right = checkHead left := by
  have sameSections : right.sections.isEmpty = left.sections.isEmpty := by
    rw [← List.isEmpty_map (f := PolicySection.groups), alike.groups, List.isEmpty_map]
  unfold checkHead Policy.hasStage
  rw [alike.id, alike.name, sameSections, alike.stages, alike.eventSource]

theorem compile_of_detectsAlike [SizeLimit] (supply : LabelSupply)
    (alike : left.DetectsAlike right) :
    compile supply right =
      (compile supply left).map fun compiled => { compiled with policy := right } := by
  unfold compile
  rw [checkHead_of_detectsAlike alike, alike.scopes, alike.exclusions,
    CompiledSection.compileFrom_of_detectsAlike alike 0 alike.groups]
  cases checkHead left with
  | error => rfl
  | ok =>
      cases CompiledSection.compileFrom left 0 left.sections with
      | error => rfl
      | ok sections =>
          cases compileScopes supply left.scopes with
          | error => rfl
          | ok scope =>
              cases left.exclusions.mapM (CompiledExclusion.compile supply) <;> rfl

def withoutNotifier (compiled : CompiledPolicy) (notifier : String) : CompiledPolicy :=
  { compiled with policy := compiled.policy.withoutNotifier notifier }

theorem compile_withoutNotifier [SizeLimit] {supply : LabelSupply} {compiled : CompiledPolicy}
    (made : compile supply compiled.policy = .ok compiled) (notifier : String) :
    compile supply (compiled.policy.withoutNotifier notifier) =
      .ok (compiled.withoutNotifier notifier) := by
  rw [compile_of_detectsAlike supply (compiled.policy.detectsAlike_withoutNotifier notifier), made]
  rfl

end CompiledPolicy

end PolicyWatch
