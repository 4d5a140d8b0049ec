import PolicyWatch.Proofs.Policy.WellFormed
import PolicyWatch.Regex.Size

/-!
# Which policies compile

Each step of compiling goes through its part of the requirements on a policy, in
order.  Main statement: a policy compiles just if it is well-formed and none of
its path patterns nests too deep, and else the fault is that of the first
requirement that is not met.
-/

namespace PolicyWatch

open Checks

/-! ## Groups -/

theorem Condition.reports_ofValue [SizeLimit] (field : Field) (listed : String) :
    Reports (ofValue field listed) (field.requirements listed) := by
  unfold ofValue Field.requirements Field.Reads
  cases field.kind with
  | regex ignoreCase =>
      dsimp only
      split
      · rename_i expression built
        exact .of_met (by simp [built]) _
      · rename_i unbuilt
        exact .refused (by simp [unbuilt])
  | path =>
      dsimp only [PathPattern.ofValue]
      by_cases absolute : Text.startsWith ['/'] listed.toList = true
      · refine .skip absolute ?_
        rw [if_pos absolute]
        cases Glob.ofText listed.toList with
        | ok tokens => exact .ok _
        | error fault => exact .refused not_false
      · rw [if_neg absolute]
        exact .refused absolute
  | boolean =>
      dsimp only
      simp only [← flagOfText?_eq_some_iff]
      split
      · rename_i flag read
        exact .of_met (by simp [read]) _
      · rename_i unread
        exact .refused (by simp [unread])
  | numeric =>
      dsimp only
      cases Comparison.ofText listed.toList with
      | ok comparison => exact .ok _
      | error fault => exact .refused not_false
  | fileOperation =>
      dsimp only
      simp only [← FileOperation.ofText?_eq_some_iff]
      split
      · rename_i operation read
        exact .of_met (by simp [read]) _
      · rename_i unread
        exact .refused (by simp [unread])

namespace FieldMatcher

theorem reports_checkPatterns (field : Field) (values : List String) :
    Reports (checkPatterns field values) (field.patternRequirements values) := by
  unfold checkPatterns Field.patternRequirements
  split
  · have together := (Glob.reports_setFault? (patterns values)).mapError
      (CompileError.invalidGlob field (String.intercalate "," values))
    cases fault : Glob.setFault? (patterns values) with
    | some fault =>
        rw [fault] at together
        exact together
    | none =>
        rw [fault] at together
        exact together
  · exact .ok ()

theorem reports_compile [SizeLimit] (field : Field) (values : List String) :
    Reports (compile field values)
      (values.flatMap field.requirements ++ field.patternRequirements values) := by
  have read : Reports (values.mapM (Condition.ofValue field)) (values.flatMap field.requirements) :=
    .mapM fun listed _ => Condition.reports_ofValue field listed
  refine read.bind fun conditions _ => ?_
  exact (reports_checkPatterns field values).make fun _ => FieldMatcher.mk field conditions

end FieldMatcher

namespace CompiledGroup

theorem reports_checkOperations (field : Field) (operations : Option (List FileOperation)) :
    Reports (checkOperations field operations) (field.operationRequirements operations) := by
  cases operations with
  | none => exact .ok none
  | some listed =>
      refine Reports.guard ?_ fun _ => Reports.guard ?_ fun _ => .ok (some listed)
      · simp [Field.isPath]
      · simp

theorem reports_compile [SizeLimit] (eventSource : EventSource) (group : PolicyGroup) :
    Reports (compile eventSource group) (group.requirements eventSource) := by
  unfold compile PolicyGroup.requirements
  cases named : Field.named? group.fieldName with
  | none => exact .refused (by simp)
  | some field =>
      refine .skip ⟨field, rfl⟩ ?_
      have permitted : field.isAllowedFor eventSource = true ↔
          (eventSource = .nodeEvent → field.source = .fileAccess) := by
        cases eventSource <;> simp [Field.isAllowedFor]
      by_cases allowed : field.isAllowedFor eventSource = true
      · refine .skip (permitted.1 allowed) ?_
        dsimp only
        rw [if_pos allowed, ← List.append_assoc]
        refine (FieldMatcher.reports_compile field group.values).bind fun matcher _ => ?_
        exact (reports_checkOperations field group.operations).make
          (CompiledGroup.mk matcher group.negate)
      · dsimp only
        rw [if_neg allowed]
        exact .refused fun holds => allowed (permitted.2 holds)

end CompiledGroup

/-! ## Sections -/

namespace CompiledSection

theorem reports_compile [SizeLimit] (policy : Policy) (index : Nat) (clause : PolicySection) :
    Reports (compile policy index clause) (clause.requirements policy index) := by
  have checked : Reports (clause.groups.mapM (CompiledGroup.compile policy.eventSource))
      (clause.groups.flatMap (PolicyGroup.requirements policy.eventSource)) :=
    .mapM fun group _ => CompiledGroup.reports_compile policy.eventSource group
  unfold compile PolicySection.requirements
  refine Reports.guard ?_ fun _ => checked.make CompiledSection.mk
  simp

/-- Sections are checked one after another, each at its index. -/
theorem compileFrom_eq_mapM [SizeLimit] (policy : Policy) (index : Nat)
    (clauses : List PolicySection) :
    compileFrom policy index clauses =
      (clauses.zipIdx index).mapM fun entry => compile policy entry.2 entry.1 := by
  induction clauses generalizing index with
  | nil => rfl
  | cons clause rest ih =>
      rw [List.zipIdx_cons, List.mapM_cons, ← ih]
      rfl

theorem reports_compileFrom [SizeLimit] (policy : Policy) (clauses : List PolicySection) :
    Reports (compileFrom policy 0 clauses)
      (clauses.zipIdx.flatMap fun entry => entry.1.requirements policy entry.2) := by
  rw [compileFrom_eq_mapM]
  exact .mapM fun entry _ => reports_compile policy entry.2 entry.1

end CompiledSection

/-! ## Scopes and exclusions -/

namespace ScopeRule

theorem reports_compile (supply : LabelSupply) (index : Nat) (scope : Scope) :
    Reports (compile supply index scope) (scope.requirements supply index) := by
  have isDirect : (scope.cluster.isSome || scope.namespaceName.isSome) = true ↔
      scope.IsDirect := by
    simp [Scope.IsDirect, Option.isSome_iff_ne_none]
  have isLabelled : (scope.clusterLabel.isSome || scope.namespaceLabel.isSome) = true ↔
      scope.IsLabelled := by
    simp [Scope.IsLabelled, Option.isSome_iff_ne_none]
  have keyed : (scope.clusterLabel.all ScopeLabel.isKeyed &&
        scope.namespaceLabel.all ScopeLabel.isKeyed) = true ↔
      ∀ label, scope.clusterLabel = some label ∨ scope.namespaceLabel = some label →
        label.key ≠ "" := by
    simp [Option.all_eq_true, ScopeLabel.isKeyed, or_imp, forall_and]
  unfold compile Scope.requirements
  refine Reports.guard (by rw [Bool.and_eq_true, isDirect, isLabelled, not_not]) fun unmixed => ?_
  by_cases direct : scope.IsDirect
  · rw [if_pos (isDirect.2 direct)]
    have unlabelled : ¬ scope.IsLabelled := fun labelled => unmixed ⟨direct, labelled⟩
    refine .skip (.inl direct) (Reports.guard ?_ fun _ => .of_met ?_ _)
    · rw [Bool.or_eq_true, beq_iff_eq, beq_iff_eq, not_and_or, not_not, not_not]
    · simp_all [Scope.IsLabelled]
  · rw [if_neg fun tested => direct (isDirect.1 tested)]
    by_cases labelled : scope.IsLabelled
    · rw [if_pos (isLabelled.2 labelled)]
      refine .skip (.inr labelled) (.skip ?_ (Reports.guard ?_ fun _ => Reports.guard ?_ fun _ =>
        Reports.guard ?_ fun _ => .ok _))
      · simp_all [Scope.IsDirect]
      · rw [← Bool.not_and, Bool.not_eq_true', ← Bool.not_eq_true, keyed]
      · simp [Option.isSome_iff_ne_none]
      · simp [Option.isSome_iff_ne_none]
    · rw [if_neg fun tested => labelled (isLabelled.1 tested)]
      exact .refused fun set => set.elim direct labelled

theorem compileFrom_eq_mapM (supply : LabelSupply) (index : Nat) (scopes : List Scope) :
    compileFrom supply index scopes =
      (scopes.zipIdx index).mapM fun entry => compile supply entry.2 entry.1 := by
  induction scopes generalizing index with
  | nil => rfl
  | cons scope rest ih =>
      rw [List.zipIdx_cons, List.mapM_cons, ← ih]
      rfl

end ScopeRule

namespace ScopeResolver

theorem reports_compile (supply : LabelSupply) (scopes : List Scope) :
    Reports (compile supply scopes)
      (scopes.zipIdx.flatMap fun entry => entry.1.requirements supply entry.2) := by
  unfold compile
  rw [ScopeRule.compileFrom_eq_mapM]
  have each : Reports (scopes.zipIdx.mapM fun entry => ScopeRule.compile supply entry.2 entry.1)
      (scopes.zipIdx.flatMap fun entry => entry.1.requirements supply entry.2) :=
    .mapM fun entry _ => ScopeRule.reports_compile supply entry.2 entry.1
  exact each.make fun rules => ScopeResolver.mk rules supply

end ScopeResolver

theorem CompiledExclusion.reports_compile (supply : LabelSupply) (exclusion : Exclusion) :
    Reports (compile supply exclusion) (exclusion.requirements supply) := by
  unfold compile Exclusion.requirements
  cases exclusion.deployment with
  | none => exact .refused (by simp)
  | some excluded =>
      obtain ⟨name, scope?⟩ := excluded
      refine .skip (by simp) ?_
      cases scope? with
      | none => exact .ok _
      | some scope =>
          have reported := (ScopeResolver.reports_compile supply [scope]).mapError fun fault =>
            CompileError.exclusion exclusion.name (.scope fault)
          rw [List.zipIdx_singleton, List.flatMap_singleton] at reported
          dsimp only [compileScope]
          cases checked : ScopeResolver.compile supply [scope] with
          | ok resolver =>
              rw [checked] at reported
              exact reported
          | error fault =>
              rw [checked] at reported
              exact reported

/-! ## Policies -/

namespace CompiledPolicy

theorem reports_checkHead (policy : Policy) :
    Reports (checkHead policy) policy.headRequirements := by
  unfold checkHead Policy.headRequirements
  refine Reports.guard ?_ fun _ => Reports.guard ?_ fun _ => Reports.guard ?_ fun _ =>
    Reports.guard ?_ fun _ => .ok ()
  · simp
  · simp
  · simp
  · simp [Policy.hasStage]

theorem reports_compileScopes (supply : LabelSupply) (scopes : List Scope) :
    Reports (compileScopes supply scopes)
      ((scopes.zipIdx.flatMap fun entry => entry.1.requirements supply entry.2).map
        (.map .scope)) := by
  have wrapped : compileScopes supply scopes =
      (ScopeResolver.compile supply scopes).mapError CompileError.scope := by
    unfold compileScopes
    cases ScopeResolver.compile supply scopes <;> rfl
  rw [wrapped]
  exact (ScopeResolver.reports_compile supply scopes).mapError CompileError.scope

theorem reports_compile [SizeLimit] (supply : LabelSupply) (policy : Policy) :
    Reports (compile supply policy) (policy.requirements supply) := by
  unfold Policy.requirements
  rw [List.append_assoc, List.append_assoc]
  refine (reports_checkHead policy).bind fun _ _ => ?_
  refine (CompiledSection.reports_compileFrom policy policy.sections).bind fun sections _ => ?_
  refine (reports_compileScopes supply policy.scopes).bind fun scope _ => ?_
  have exclusions : Reports (policy.exclusions.mapM (CompiledExclusion.compile supply))
      (policy.exclusions.flatMap (Exclusion.requirements supply)) :=
    .mapM fun exclusion _ => CompiledExclusion.reports_compile supply exclusion
  exact exclusions.make (CompiledPolicy.mk policy sections scope)

/-- Exactly the well-formed policies whose path patterns nest within the limit
compile, and any other policy is refused with the fault of the first requirement
that it does not meet. -/
theorem compile_iff_wellFormed [SizeLimit] (supply : LabelSupply) (policy : Policy) :
    ((∃ compiled, compile supply policy = .ok compiled) ↔
        policy.WellFormed supply ∧ policy.NestsWithinLimit) ∧
      ∀ fault, compile supply policy = .error fault ↔
        FirstViolated fault (policy.requirements supply) := by
  have reported := reports_compile supply policy
  exact ⟨reported.exists_ok_iff.trans Policy.met_requirements, reported.eq_error_iff⟩

/-- A path pattern of a letter in a number of braces. -/
def bracedPattern (depth : Nat) : String :=
  String.ofList ('/' :: Glob.braces depth)

/-- A policy about one path pattern of a letter in braces. -/
def bracedFile (depth : Nat) : Policy where
  id := "p1"
  name := "test policy"
  description := none
  severity := .high
  disabled := false
  stages := [.runtime]
  eventSource := .nodeEvent
  categories := []
  sections := [⟨none, [⟨"Actual Path", [bracedPattern depth], false, none⟩]⟩]
  scopes := []
  exclusions := []
  notifiers := []

theorem ofText_bracedPattern (depth : Nat) :
    Glob.ofText (bracedPattern depth).toList = .ok [.literal '/', Glob.nested depth] := by
  rw [bracedPattern, String.toList_ofList]
  exact Glob.ofText_braces depth

theorem bracedFile_wellFormed [SizeLimit] (depth : Nat) (supply : LabelSupply) :
    (bracedFile depth).WellFormed supply := by
  have absolute : Text.startsWith ['/'] (bracedPattern depth).toList = true := by
    rw [bracedPattern, String.toList_ofList]
    rfl
  have group : PolicyGroup.WellFormed .nodeEvent
      ⟨"Actual Path", [bracedPattern depth], false, none⟩ := by
    refine ⟨.actualPath, rfl, fun _ => rfl, ?_, fun _ impossible => by cases impossible⟩
    rw [List.forall_mem_singleton]
    exact ⟨absolute, _, ofText_bracedPattern depth⟩
  constructor
  case sections =>
    refine List.forall_mem_singleton.2 ⟨by simp, ?_⟩
    exact List.forall_mem_singleton.2 group
  all_goals simp [bracedFile]

theorem bracedFile_nests_iff (depth : Nat) :
    (bracedFile depth).NestsWithinLimit ↔ depth < Glob.greatestHeight := by
  have named : Field.named? "Actual Path" = some .actualPath := rfl
  have path : Field.actualPath.kind = .path := rfl
  simp only [Policy.NestsWithinLimit, bracedFile, List.forall_mem_singleton,
    PolicyGroup.NestsWithinLimit, named, path, Option.some_inj, forall_eq', forall_const,
    ofText_bracedPattern, Except.ok.injEq, Glob.height_braces, Nat.succ_le_iff]

theorem bracedFile_compiles_iff [SizeLimit] (depth : Nat) (supply : LabelSupply) :
    (∃ compiled, compile supply (bracedFile depth) = .ok compiled) ↔
      depth < Glob.greatestHeight := by
  rw [(reports_compile supply (bracedFile depth)).exists_ok_iff, Policy.met_requirements,
    bracedFile_nests_iff]
  exact and_iff_right (bracedFile_wellFormed depth supply)

/-- A well-formed policy whose path pattern nests too deep does not compile. -/
theorem bracedFile_wellFormed_refused :
    (bracedFile 300).WellFormed .none ∧
      ¬ ∃ compiled, compile .none (bracedFile 300) = .ok compiled := by
  refine ⟨bracedFile_wellFormed 300 .none, ?_⟩
  intro compiles
  exact absurd ((bracedFile_compiles_iff 300 .none).1 compiles) (by decide)

end CompiledPolicy

end PolicyWatch
