import PolicyWatch.Proofs.CompiledPolicy.Meaning
import PolicyWatch.Proofs.Policy.Walk
import PolicyWatch.Regex.Size

/-!
# What violations say

A policy that matches an event says what it found.  Main statement: a process or a file access is
reported as it is, once; of a deployment each group of the first section that holds tells its own
part, with just the values that pass, unless the group is negated.
-/

namespace PolicyWatch

/-! ## Passing is decidable -/

instance decidableAchieved {ε α : Type} {required : α → Prop} [DecidablePred required]
    (result : Except ε α) : Decidable (∃ value, result = .ok value ∧ required value) :=
  match result with
  | .ok value => decidable_of_iff (required value) (by simp)
  | .error _ => isFalse (by simp)

instance Comparator.decidableRelates (value operand : Int) (comparator : Comparator) :
    Decidable (comparator.Relates value operand) :=
  decidable_of_iff _ (comparator.holds_iff value operand)

instance Field.decidablePasses [SizeLimit] (field : Field) (listed : String) (value : FieldValue) :
    Decidable (field.Passes listed value) := by
  unfold Field.Passes
  split <;> infer_instance

/-! ## Values of deployments -/

namespace Field

/-- The values of a field that a deployment shows: one for each container in order, or its number
of replicas. -/
def shownBy (subject : Deployment) : Field → List FieldValue
  | imageTag => subject.containers.map fun container => .text container.image.tag
  | imageRegistry => subject.containers.map fun container => .text container.image.registry
  | imageRemote => subject.containers.map fun container => .text container.image.remote
  | containerName => subject.containers.map fun container => .text container.name
  | privilegedContainer => subject.containers.map fun container => .flag container.privileged
  | replicas => [.integer subject.replicas]
  | _ => []

theorem extract_deployment (field : Field) (subject : Deployment) :
    field.extract (.deployment subject) = field.shownBy subject := by
  cases field <;>
    simp [extract, isAvailableOn, source, Event.kind, carried, ofContainers, Event.deployment?,
      shownBy]

theorem name_of_named? {name : String} {field : Field} (named : named? name = some field) :
    field.name = name :=
  of_decide_eq_true (List.find?_some (p := fun field : Field => decide (field.name = name)) named)

end Field

/-! ## What groups say -/

namespace PolicyGroup

/-- Whether a value of a field passes: it passes a value that the group lists, or none is
listed. -/
def Accepts [SizeLimit] (group : PolicyGroup) (field : Field) (value : FieldValue) : Prop :=
  group.values = [] ∨ ∃ listed ∈ group.values, field.Passes listed value

instance decidableAccepts [SizeLimit] (group : PolicyGroup) (field : Field) (value : FieldValue) :
    Decidable (group.Accepts field value) :=
  inferInstanceAs (Decidable (_ ∨ _))

def matchedText (group : PolicyGroup) (shown : List FieldValue) : String :=
  "'" ++ group.fieldName ++ "' matched: " ++ String.intercalate ", " (shown.map FieldValue.toText)

/-- What a group says where no value has to pass. -/
def unmatchedText (group : PolicyGroup) : String :=
  "'" ++ group.fieldName ++ "' does not match any allowed value"

theorem matchedText_ne_unmatchedText (group : PolicyGroup) (shown : List FieldValue) :
    group.matchedText shown ≠ group.unmatchedText := by
  intro same
  have letters := congrArg String.toList same
  simp [matchedText, unmatchedText] at letters

/-- What it means that a violation tells what a group that holds of a deployment found in it. -/
structure Tells [SizeLimit] (group : PolicyGroup) (subject : Deployment) (violation : Violation) :
    Prop where
  kind : violation.kind = .generic
  negated : group.negate = true → violation.message = group.unmatchedText
  /-- Unless it is negated, it lists just the values that pass, in their order, and some do. -/
  matched : group.negate = false → ∃ field, Field.named? group.fieldName = some field ∧
    (field.shownBy subject).filter (group.Accepts field ·) ≠ [] ∧
    violation.message = group.matchedText ((field.shownBy subject).filter (group.Accepts field ·)) ∧
    violation.message ≠ group.unmatchedText

end PolicyGroup

namespace CompiledGroup

variable {eventSource : EventSource} {group : PolicyGroup} {compiled : CompiledGroup}

/-- Unless it is negated, a group that matches shows a value. -/
theorem passing_ne_nil_of_isMet {event : Event} (met : compiled.isMet event = true)
    (plain : compiled.negate = false) : compiled.matcher.passing event ≠ [] := by
  have tested : compiled.matcher.isMet event = true := by
    unfold isMet at met
    rw [plain] at met
    cases operations : compiled.operations with
    | none => simpa [operations] using met
    | some listed =>
        rw [operations] at met
        exact (Bool.and_eq_true_iff.1 met).1
  simpa [FieldMatcher.isMet] using tested

theorem passing_deployment [SizeLimit] {field : Field}
    (tested : FieldMatcher.compile field group.values = .ok compiled.matcher)
    (subject : Deployment) :
    compiled.matcher.passing (.deployment subject) =
      (field.shownBy subject).filter (group.Accepts field ·) := by
  unfold FieldMatcher.passing
  rw [(FieldMatcher.of_compile tested).1, Field.extract_deployment]
  refine List.filter_congr fun value _ => ?_
  rw [Bool.eq_iff_iff, decide_eq_true_iff]
  exact FieldMatcher.accepts_iff tested value

theorem tells_message [SizeLimit] (accepted : compile eventSource group = .ok compiled)
    {subject : Deployment} (met : compiled.isMet (.deployment subject) = true) :
    group.Tells subject (.generic (compiled.groupMatch (.deployment subject)).message) := by
  obtain ⟨field, named, tested, sameNegate, _⟩ := of_compile accepted
  have shown := passing_deployment tested subject
  have name : compiled.matcher.field.name = group.fieldName := by
    rw [(FieldMatcher.of_compile tested).1, Field.name_of_named? named]
  constructor
  case kind => rfl
  case negated =>
    intro negated
    change GroupMatch.message _ = _
    rw [GroupMatch.message, groupMatch, sameNegate, negated, name]
    rfl
  case matched =>
    intro plain
    have found := passing_ne_nil_of_isMet met (sameNegate.trans plain)
    have message : (compiled.groupMatch (.deployment subject)).message =
        group.matchedText (compiled.matcher.passing (.deployment subject)) := by
      simp [GroupMatch.message, groupMatch, sameNegate, plain, found, name,
        PolicyGroup.matchedText]
    rw [shown] at found message
    refine ⟨field, named, found, message, ?_⟩
    change (compiled.groupMatch (.deployment subject)).message ≠ _
    rw [message]
    exact group.matchedText_ne_unmatchedText _

end CompiledGroup

/-! ## What policies report -/

/-- Where the first member of a list is found that passes, the first member of a related list is
found whose partner does. -/
theorem exists_first_of_forall₂ {α β : Type} {Related : α → β → Prop} {Left : α → Prop}
    {right : β → Bool} {lefts : List α} {rights : List β}
    (related : List.Forall₂ Related lefts rights)
    (agree : ∀ first second, Related first second → (Left first ↔ right second = true))
    {found : β} (isFirst : rights.find? right = some found) :
    ∃ earlier first later, lefts = earlier ++ first :: later ∧ (∀ other ∈ earlier, ¬ Left other) ∧
      Related first found := by
  induction related with
  | nil => cases isFirst
  | @cons first second lefts rights pair _ ih =>
      rw [List.find?_cons] at isFirst
      cases passes : right second with
      | true =>
          rw [passes] at isFirst
          cases isFirst
          exact ⟨[], first, lefts, rfl, List.forall_mem_nil _, pair⟩
      | false =>
          rw [passes] at isFirst
          obtain ⟨earlier, chosen, later, rfl, missed, partner⟩ := ih isFirst
          refine ⟨first :: earlier, chosen, later, rfl, ?_, partner⟩
          rw [List.forall_mem_cons]
          refine ⟨fun holds => ?_, missed⟩
          rw [agree first second pair, passes] at holds
          cases holds

def Policy.Tells [SizeLimit] (policy : Policy) (event : Event) (violations : List Violation) :
    Prop :=
  match event with
  | .deployment subject =>
      ∃ earlier clause later, policy.sections = earlier ++ clause :: later ∧
        (∀ other ∈ earlier, ¬ other.Holds event) ∧ clause.Holds event ∧
        List.Forall₂ (fun group violation => group.Tells subject violation)
          clause.groups violations
  | .process _ indicator =>
      ∃ violation, violations = [violation] ∧ violation.kind = .process ∧
        violation.process? = some indicator ∧ violation.fileAccess? = none
  | .deploymentFileAccess _ access =>
      ∃ violation, violations = [violation] ∧ violation.kind = .fileAccess ∧
        violation.fileAccess? = some access ∧ violation.process? = none
  | .nodeFileAccess _ access =>
      ∃ violation, violations = [violation] ∧ violation.kind = .fileAccess ∧
        violation.fileAccess? = some access ∧ violation.process? = none

theorem CompiledSection.tells_violations [SizeLimit] {policy : Policy} {index : Nat}
    {clause : PolicySection}
    {compiled : CompiledSection} (accepted : compile policy index clause = .ok compiled)
    {subject : Deployment} (met : compiled.isMet (.deployment subject) = true) :
    List.Forall₂ (fun group violation => group.Tells subject violation) clause.groups
      (Event.violations (.deployment subject)
        (compiled.groups.map fun group => group.groupMatch (.deployment subject))) := by
  obtain ⟨_, related⟩ := of_compile accepted
  have eachMet := List.all_eq_true.1 (Bool.and_eq_true_iff.1 met).2
  simp only [Event.violations, List.map_map, List.forall₂_map_right_iff]
  generalize clause.groups = groups, compiled.groups = checked at related eachMet
  induction related with
  | nil => exact .nil
  | cons made _ ih =>
      obtain ⟨firstMet, othersMet⟩ := List.forall_mem_cons.1 eachMet
      exact .cons (CompiledGroup.tells_message made firstMet) (ih othersMet)

namespace CompiledPolicy

variable {supply : LabelSupply} {policy : Policy} {compiled : CompiledPolicy}

theorem exists_groupMatches_of_violations {answers : LabelAnswers} {now : Instant} {event : Event}
    {cache learned : LabelCache} {violations : List Violation}
    (evaluated : compiled.violations answers now event cache = (.ok violations, learned))
    (found : violations ≠ []) :
    ∃ groupMatches, compiled.groupMatches? event = some groupMatches ∧
      violations = event.violations groupMatches := by
  unfold CompiledPolicy.violations at evaluated
  cases shown : compiled.groupMatches? event with
  | none =>
      rw [shown] at evaluated
      cases evaluated
      exact absurd rfl found
  | some groupMatches =>
      simp only [shown] at evaluated
      split at evaluated
      · cases evaluated
        exact ⟨groupMatches, rfl, rfl⟩
      · cases evaluated
        exact absurd rfl found
      · cases evaluated

/-- Violations tell what the policy found in the event. -/
theorem violations_tell_event [SizeLimit] (accepted : compile supply policy = .ok compiled)
    {answers : LabelAnswers} {now : Instant} {event : Event} {cache learned : LabelCache}
    {violations : List Violation}
    (evaluated : compiled.violations answers now event cache = (.ok violations, learned))
    (found : violations ≠ []) : policy.Tells event violations := by
  obtain ⟨groupMatches, shown, rfl⟩ := exists_groupMatches_of_violations evaluated found
  cases event with
  | process subject indicator => exact ⟨_, rfl, rfl, rfl, rfl⟩
  | deploymentFileAccess subject access => exact ⟨_, rfl, rfl, rfl, rfl⟩
  | nodeFileAccess node access => exact ⟨_, rfl, rfl, rfl, rfl⟩
  | deployment subject =>
      obtain ⟨checked, isFirst, rfl⟩ := Option.map_eq_some_iff.1 shown
      have met := List.find?_some (p := fun clause : CompiledSection =>
        clause.isMet (.deployment subject)) isFirst
      obtain ⟨earlier, clause, later, parts, missed, index, made⟩ :=
        exists_first_of_forall₂ (sections_related accepted)
          (fun clause checked ⟨_, made⟩ => (CompiledSection.isMet_iff made _).symm) isFirst
      exact ⟨earlier, clause, later, parts, missed, (CompiledSection.isMet_iff made _).1 met,
        CompiledSection.tells_violations made met⟩

/-- A policy about deployments that are small and without privileges, whatever their containers
are called. -/
def smallDeployments : Policy where
  id := "small-deployments"
  name := "Small deployments"
  description := none
  severity := .low
  disabled := false
  stages := [.deploy]
  eventSource := .notApplicable
  categories := []
  sections := [
    ⟨none, [⟨"Replicas", [">= 100"], false, none⟩]⟩,
    ⟨none, [
      ⟨"Container Name", [], false, none⟩,
      ⟨"Privileged Container", ["true"], true, none⟩,
      ⟨"Replicas", ["< 2", "3"], false, none⟩]⟩]
  scopes := []
  exclusions := []
  notifiers := []

/-- A deployment of which two containers have one name. -/
def shop : Deployment :=
  ⟨"d1", "web", "east", "shop", "n1", 3, .empty,
    [⟨"main", ⟨"registry", "web", "1"⟩, false⟩, ⟨"side", ⟨"registry", "log", "1"⟩, false⟩,
      ⟨"main", ⟨"registry", "web", "2"⟩, false⟩]⟩

/-- The second section holds, and each of its groups tells what it found. -/
theorem smallDeployments_tell_shop :
    ∃ compiled answers now violations learned,
      compile .none smallDeployments = .ok compiled ∧
        compiled.violations answers now (.deployment shop) .empty = (.ok violations, learned) ∧
        violations ≠ [] ∧
        violations.map Violation.message =
          ["'Container Name' matched: main, side, main",
            "'Privileged Container' does not match any allowed value", "'Replicas' matched: 3"] ∧
        smallDeployments.Tells (.deployment shop) violations := by
  let answers : LabelAnswers := fun _ _ => .missing
  let now : Instant := ⟨2024, 2, 29, 12, 0, 0, 0⟩
  obtain ⟨compiled, accepted⟩ : ∃ compiled, compile .none smallDeployments = .ok compiled :=
    ⟨_, rfl⟩
  have tells : ∀ violations learned,
      compiled.violations answers now (.deployment shop) .empty = (.ok violations, learned) →
        violations ≠ [] → smallDeployments.Tells (.deployment shop) violations :=
    fun _ _ evaluated found => violations_tell_event accepted evaluated found
  cases accepted
  exact ⟨_, answers, now, _, _, rfl, rfl, by decide, by decide, tells _ _ rfl (by decide)⟩

end CompiledPolicy

end PolicyWatch
