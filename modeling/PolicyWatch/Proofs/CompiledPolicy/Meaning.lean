import PolicyWatch.Proofs.Field.Matcher
import PolicyWatch.Proofs.Scope.Meaning
import PolicyWatch.Regex.Size

/-!
# Compiling keeps the meaning of a policy

Each part of a compiled policy decides what the part of the policy that it was
compiled from means.  Main statement: where no look-up fails, a compiled policy
finds violations in an event just if the policy as written matches it.
-/

namespace PolicyWatch

open Checks

/-! ## Groups -/

namespace CompiledGroup

variable {eventSource : EventSource} {group : PolicyGroup} {compiled : CompiledGroup}

theorem checkOperations_eq_ok {field : Field}
    {operations checked : Option (List FileOperation)}
    (passed : checkOperations field operations = .ok checked) : checked = operations := by
  unfold checkOperations at passed
  split at passed
  · cases passed
    rfl
  · split at passed
    · cases passed
    · split at passed
      · cases passed
      · cases passed
        rfl

theorem of_compile [SizeLimit] (accepted : compile eventSource group = .ok compiled) :
    ∃ field, Field.named? group.fieldName = some field ∧
      FieldMatcher.compile field group.values = .ok compiled.matcher ∧
      compiled.negate = group.negate ∧ compiled.operations = group.operations := by
  unfold compile at accepted
  split at accepted
  · cases accepted
  · rename_i field named
    split at accepted
    · obtain ⟨matcher, tested, rest⟩ := bind_eq_ok_iff.1 accepted
      obtain ⟨operations, checked, made⟩ := bind_eq_ok_iff.1 rest
      cases made
      exact ⟨field, named, tested, rfl, checkOperations_eq_ok checked⟩
    · cases accepted

theorem isCarried_iff [SizeLimit] (accepted : compile eventSource group = .ok compiled)
    (kind : EventKind) :
    compiled.matcher.field.isAvailableOn kind = true ↔
      ∃ field, Field.named? group.fieldName = some field ∧ field.isAvailableOn kind = true := by
  obtain ⟨field, named, tested, _⟩ := of_compile accepted
  rw [named, (FieldMatcher.of_compile tested).1]
  simp

theorem listsOperation_iff (operations : List FileOperation) (event : Event) :
    listsOperation operations event = true ↔
      ∃ access, event.fileAccess? = some access ∧ access.operation ∈ operations := by
  unfold listsOperation
  cases event.fileAccess? <;> simp

/-- A test differs from a flag just if it is met where the flag is off. -/
theorem bne_eq_true_iff (met negate : Bool) :
    (met != negate) = true ↔ (met = true ↔ ¬ negate = true) := by
  cases met <;> cases negate <;> simp

theorem isMet_iff [SizeLimit] (accepted : compile eventSource group = .ok compiled)
    (event : Event) :
    compiled.isMet event = true ↔ group.Holds event := by
  obtain ⟨field, named, tested, sameNegate, sameOperations⟩ := of_compile accepted
  have met := FieldMatcher.isMet_iff tested event
  unfold isMet PolicyGroup.Holds
  rw [sameNegate, sameOperations, named]
  cases group.operations with
  | none =>
      simp only [bne_eq_true_iff, met, Option.some_inj, exists_eq_left', PolicyGroup.FieldHolds]
  | some operations =>
      simp only [Bool.and_eq_true, bne_eq_true_iff, met, listsOperation_iff, Option.some_inj,
        exists_eq_left', PolicyGroup.FieldHolds]

end CompiledGroup

/-! ## Sections -/

namespace CompiledSection

variable {policy : Policy} {index : Nat} {clause : PolicySection} {compiled : CompiledSection}

theorem of_compile [SizeLimit] (accepted : compile policy index clause = .ok compiled) :
    compiled.groups ≠ [] ∧
      List.Forall₂
        (fun group checked => CompiledGroup.compile policy.eventSource group = .ok checked)
        clause.groups compiled.groups := by
  unfold compile at accepted
  split at accepted
  · cases accepted
  · rename_i present
    obtain ⟨groups, checked, made⟩ := bind_eq_ok_iff.1 accepted
    cases made
    have related := mapM_eq_ok_iff.1 checked
    refine ⟨?_, related⟩
    intro absent
    exact present (List.isEmpty_iff.2 ((eq_nil_iff_of_forall₂ related).1 absent))

/-- A checked section matches just the events that the section holds of. -/
theorem isMet_iff [SizeLimit] (accepted : compile policy index clause = .ok compiled)
    (event : Event) :
    compiled.isMet event = true ↔ clause.Holds event := by
  obtain ⟨_, related⟩ := of_compile accepted
  unfold isMet PolicySection.Holds
  rw [Bool.and_eq_true, List.all_eq_true, List.all_eq_true]
  have carried := forall_mem_iff_of_forall₂ related fun group checked made =>
    (CompiledGroup.isCarried_iff made event.kind).symm
  have held := forall_mem_iff_of_forall₂ related fun group checked made =>
    (CompiledGroup.isMet_iff made event).symm
  exact and_congr carried.symm held.symm

end CompiledSection

namespace Event

theorem violations_ne_nil (event : Event) {groupMatches : List GroupMatch}
    (present : groupMatches ≠ []) : event.violations groupMatches ≠ [] := by
  cases event <;> simp [violations, present]

end Event

/-! ## Exclusions -/

namespace CompiledExclusion

variable {supply : LabelSupply} {exclusion : Exclusion} {compiled : CompiledExclusion}

/-- The checked scope of an exclusion is its scope checked alone. -/
theorem of_compileScope {scope? : Option Scope} {resolver? : Option ScopeResolver}
    (accepted : compileScope supply scope? = .ok resolver?) :
    (scope? = none ∧ resolver? = none) ∨
      ∃ scope resolver, scope? = some scope ∧ resolver? = some resolver ∧
        ScopeResolver.compile supply [scope] = .ok resolver := by
  unfold compileScope at accepted
  split at accepted
  · cases accepted
    exact .inl ⟨rfl, rfl⟩
  · rename_i scope
    split at accepted
    · rename_i resolver made
      cases accepted
      exact .inr ⟨scope, resolver, rfl, rfl, made⟩
    · cases accepted

theorem of_compile (accepted : compile supply exclusion = .ok compiled) :
    ∃ excluded, exclusion.deployment = some excluded ∧
      compileScope supply excluded.scope = .ok compiled.scope ∧
      compiled.deploymentName = excluded.name.filter (· != "") ∧
      compiled.expiration = exclusion.expiration := by
  unfold compile at accepted
  split at accepted
  · cases accepted
  · rename_i excluded given
    split at accepted
    · rename_i scope checked
      cases accepted
      exact ⟨excluded, given, checked, rfl, rfl⟩
    · cases accepted

theorem isMeant_iff (accepted : compile supply exclusion = .ok compiled)
    {excluded : ExcludedDeployment} (given : exclusion.deployment = some excluded)
    (now : Instant) (subject : Deployment) :
    (compiled.isInForce now && compiled.deploymentName.all (· == subject.name)) = true ↔
      exclusion.Means now subject excluded := by
  obtain ⟨other, same, _, named, expiring⟩ := of_compile accepted
  cases given.symm.trans same
  have inForce : compiled.isInForce now = true ↔
      ∀ expiration, exclusion.expiration = some expiration → now.isBefore expiration = true := by
    rw [isInForce, expiring, Option.all_eq_true]
  have means : compiled.deploymentName.all (· == subject.name) = true ↔
      ∀ name, excluded.name = some name → name = "" ∨ name = subject.name := by
    rw [named]
    cases excluded.name with
    | none => simp
    | some name => by_cases unnamed : name = "" <;> simp [unnamed]
  rw [Bool.and_eq_true, inForce, means]
  rfl

theorem value_inquiry (accepted : compile supply exclusion = .ok compiled)
    (labelling : Labelling) (now : Instant) {event : Event} {subject : Deployment}
    (reported : event.deployment? = some subject) :
    (compiled.inquiry now subject event.place).value labelling = true ↔
      exclusion.Concerns labelling now event := by
  obtain ⟨excluded, given, checked, _⟩ := of_compile accepted
  have concerns : exclusion.Concerns labelling now event ↔
      exclusion.Means now subject excluded ∧
        ∀ scope, excluded.scope = some scope → scope.Covers labelling event.place := by
    rw [Exclusion.concerns_iff, reported, given]
    simp
  rw [concerns, ← isMeant_iff accepted given now subject, inquiry]
  split
  · rename_i concerned
    rw [and_iff_right concerned]
    rcases of_compileScope checked with ⟨absent, unset⟩ | ⟨scope, resolver, present, set, made⟩
    · rw [absent, unset]
      simp
    · rw [present, set]
      have covering := ScopeResolver.value_inquiry made labelling event.place
      simpa using covering
  · rename_i unconcerned
    simp [unconcerned]

end CompiledExclusion

namespace CompiledPolicy

variable {supply : LabelSupply} {policy : Policy} {compiled : CompiledPolicy}

theorem of_compile [SizeLimit] (accepted : compile supply policy = .ok compiled) :
    compiled.policy = policy ∧
      CompiledSection.compileFrom policy 0 policy.sections = .ok compiled.sections ∧
      compileScopes supply policy.scopes = .ok compiled.scope ∧
      policy.exclusions.mapM (CompiledExclusion.compile supply) = .ok compiled.exclusions := by
  unfold compile at accepted
  obtain ⟨_, _, rest⟩ := bind_eq_ok_iff.1 accepted
  obtain ⟨sections, sectionsChecked, rest⟩ := bind_eq_ok_iff.1 rest
  obtain ⟨scope, scopeChecked, rest⟩ := bind_eq_ok_iff.1 rest
  obtain ⟨exclusions, exclusionsChecked, made⟩ := bind_eq_ok_iff.1 rest
  cases made
  exact ⟨rfl, sectionsChecked, scopeChecked, exclusionsChecked⟩

theorem sections_related [SizeLimit] (accepted : compile supply policy = .ok compiled) :
    List.Forall₂
      (fun clause checked => ∃ index, CompiledSection.compile policy index clause = .ok checked)
      policy.sections compiled.sections := by
  have checked := (of_compile accepted).2.1
  rw [CompiledSection.compileFrom_eq_mapM] at checked
  exact forall₂_of_mapM_zipIdx checked

/-- Some section of a compiled policy matches an event just if some section of
the policy holds of it. -/
theorem groupMatches?_eq_none_iff [SizeLimit] (accepted : compile supply policy = .ok compiled)
    (event : Event) :
    compiled.groupMatches? event = none ↔ ¬ ∃ clause ∈ policy.sections, clause.Holds event := by
  have related := exists_mem_iff_of_forall₂ (sections_related accepted)
    fun clause checked ⟨_, made⟩ => (CompiledSection.isMet_iff made event).symm
  unfold groupMatches?
  rw [Option.map_eq_none_iff, List.find?_eq_none, related, not_exists]
  simp only [not_and]

theorem groupMatches?_ne_nil [SizeLimit] (accepted : compile supply policy = .ok compiled)
    {event : Event}
    {groupMatches : List GroupMatch} (shown : compiled.groupMatches? event = some groupMatches) :
    groupMatches ≠ [] := by
  have present := forall_mem_of_forall₂ (sections_related accepted)
    fun _ _ ⟨_, made⟩ => (CompiledSection.of_compile made).1
  unfold groupMatches? at shown
  obtain ⟨checked, found, rfl⟩ := Option.map_eq_some_iff.1 shown
  have grouped := present checked (List.mem_of_find?_eq_some found)
  simpa using grouped

theorem value_exclusionInquiry [SizeLimit] (accepted : compile supply policy = .ok compiled)
    (labelling : Labelling) (now : Instant) (event : Event) :
    (compiled.exclusionInquiry now event).value labelling = true ↔
      ∃ exclusion ∈ policy.exclusions, exclusion.Concerns labelling now event := by
  have related := mapM_eq_ok_iff.1 (of_compile accepted).2.2.2
  unfold exclusionInquiry
  cases reported : event.deployment? with
  | none =>
      constructor
      · intro impossible
        cases impossible
      · rintro ⟨_, _, subject, _, found, _⟩
        rw [reported] at found
        cases found
  | some subject =>
      have concerning := exists_mem_iff_of_forall₂ related fun exclusion checked made =>
        (CompiledExclusion.value_inquiry made labelling now reported).symm
      rw [Inquiry.value_any, List.any_eq_true, concerning]

theorem of_compileScopes {scopes : List Scope} {resolver : ScopeResolver}
    (accepted : compileScopes supply scopes = .ok resolver) :
    ScopeResolver.compile supply scopes = .ok resolver := by
  unfold compileScopes at accepted
  split at accepted
  · rename_i made
    cases accepted
    exact made
  · cases accepted

theorem value_concernInquiry [SizeLimit] (accepted : compile supply policy = .ok compiled)
    (labelling : Labelling) (now : Instant) (event : Event) :
    (compiled.concernInquiry now event).value labelling = true ↔
      (policy.scopes = [] ∨ ∃ scope ∈ policy.scopes, scope.Covers labelling event.place) ∧
        ¬ ∃ exclusion ∈ policy.exclusions, exclusion.Concerns labelling now event := by
  have scopes := of_compileScopes (of_compile accepted).2.2.1
  rw [concernInquiry, Inquiry.value_and, Bool.and_eq_true,
    ScopeResolver.value_inquiry scopes labelling event.place, Inquiry.value_bind,
    Inquiry.value_done, Bool.not_eq_true', ← Bool.not_eq_true,
    value_exclusionInquiry accepted labelling now event]

theorem value_inquiry_ne_nil [SizeLimit] (accepted : compile supply policy = .ok compiled)
    (labelling : Labelling) (now : Instant) (event : Event) :
    (compiled.inquiry now event).value labelling ≠ [] ↔ policy.Matches labelling now event := by
  have concerned := value_concernInquiry accepted labelling now event
  have unmet := groupMatches?_eq_none_iff accepted event
  unfold inquiry Policy.Matches
  cases shown : compiled.groupMatches? event with
  | none => simp [unmet.1 shown]
  | some groupMatches =>
      have met : ∃ clause ∈ policy.sections, clause.Holds event := by
        by_contra absent
        rw [unmet.2 absent] at shown
        cases shown
      have violated := event.violations_ne_nil (groupMatches?_ne_nil accepted shown)
      rw [and_iff_right met, ← concerned, Inquiry.value_bind, Inquiry.value_done]
      split
      · rename_i inForce
        exact iff_of_true violated inForce
      · rename_i free
        exact iff_of_false (fun present => present rfl) free

/-- Compiling keeps the meaning of a policy: where no look-up fails, a compiled
policy finds violations in an event just if the policy as written matches it. -/
theorem violations_ne_nil_iff_matches [SizeLimit] (accepted : compile supply policy = .ok compiled)
    (labelling : Labelling) (now : Instant) (event : Event) :
    ∃ violations learned,
      compiled.violations labelling.answers now event LabelCache.empty = (.ok violations, learned) ∧
        (violations ≠ [] ↔ policy.Matches labelling now event) := by
  have nothingKnown : LabelCache.empty.overlay labelling.answers = labelling.answers := rfl
  have ends : (compiled.violations labelling.answers now event LabelCache.empty).1 =
      .ok ((compiled.inquiry now event).value labelling) := by
    rw [violations_eq_through, Inquiry.through_eq, nothingKnown, Inquiry.direct_answers]
    rfl
  exact ⟨_, _, Prod.ext ends rfl, value_inquiry_ne_nil accepted labelling now event⟩

/-- A policy about accesses other than opening below a directory, by containers
without privileges in namespaces of one team, with an exemption that has an end. -/
def guardedFiles (ending : Instant) : Policy where
  id := "guarded-files"
  name := "Guarded files"
  description := none
  severity := .high
  disabled := false
  stages := [.runtime]
  eventSource := .deploymentEvent
  categories := []
  sections := [
    ⟨none, [⟨"Replicas", [">= 100"], false, none⟩]⟩,
    ⟨none, [
      ⟨"Privileged Container", ["true"], true, none⟩,
      ⟨"Actual Path", ["/etc/*"], true, some [.openFile]⟩]⟩]
  scopes := [⟨none, none, none, some ⟨"team", "red"⟩⟩]
  exclusions := [⟨"migration", some ⟨some "", none⟩, some ending⟩]
  notifiers := []

/-- A file below the directory is created in a container without privileges. -/
def fileCreated : Event :=
  .deploymentFileAccess
    ⟨"d1", "web", "east", "shop", "n1", 3, .empty, [⟨"main", ⟨"registry", "web", "1"⟩, false⟩]⟩
    ⟨⟨"/etc/passwd", ""⟩, .create⟩

/-- Every namespace belongs to one team. -/
def oneTeam : Labelling
  | .clusterLabels, _ => none
  | .namespaceLabels, _ => some (LabelMap.empty.insert "team" "red")

/-- At the very end of the exemption the policy matches, and violations are found. -/
theorem guardedFiles_matches_at_ending :
    ∃ ending compiled violations learned,
      compile .full (guardedFiles ending) = .ok compiled ∧
        compiled.violations oneTeam.answers ending fileCreated LabelCache.empty =
          (.ok violations, learned) ∧
        violations ≠ [] ∧ (guardedFiles ending).Matches oneTeam ending fileCreated := by
  let ending : Instant := ⟨2024, 2, 29, 12, 0, 0, 0⟩
  obtain ⟨compiled, accepted⟩ : ∃ compiled, compile .full (guardedFiles ending) = .ok compiled :=
    ⟨_, rfl⟩
  obtain ⟨violations, learned, ends, meaning⟩ :=
    violations_ne_nil_iff_matches accepted oneTeam ending fileCreated
  have found : violations ≠ [] := by
    rintro rfl
    cases accepted
    have shown : Except.ok [Violation.fileAccess ⟨⟨"/etc/passwd", ""⟩, .create⟩] =
        (Except.ok [] : Except EvaluationError (List Violation)) := congrArg Prod.fst ends
    cases shown
  exact ⟨ending, compiled, violations, learned, accepted, ends, found, meaning.1 found⟩

end CompiledPolicy

end PolicyWatch
