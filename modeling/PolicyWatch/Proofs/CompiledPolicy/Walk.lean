import PolicyWatch.Proofs.CompiledPolicy.Meaning
import PolicyWatch.Proofs.Policy.Walk
import PolicyWatch.Regex.Size

/-!
# Labels are looked up only when they are needed

A compiled policy looks up just the labels that the policy as written needs.  Main statement:
nothing is looked up unless a section holds; else what is looked up is what the scopes and
exclusions need, in order and up to the first look-up that does not answer; and evaluation
fails just if there is one.
-/

namespace PolicyWatch

open Checks

/-! ## Scopes -/

/-- A name that is missing needs as little as an empty one. -/
theorem neededFor_getD (kind : LabelKind) (label? : Option ScopeLabel) (id? : Option String) :
    neededFor kind label? (some (id?.getD "")) = neededFor kind label? id? := by
  cases label? <;> cases id? <;> simp [neededFor]

namespace ScopeResolver

variable {supply : LabelSupply} {resolver : ScopeResolver}

theorem walk_labelInquiry? {kind : LabelKind} {label? : Option ScopeLabel}
    (supplied : label?.isSome → resolver.supply.covers kind = true) (labelling : Labelling)
    (id : String) :
    (resolver.labelInquiry? kind id label?).walk labelling = neededFor kind label? (some id) := by
  cases label? with
  | none => rfl
  | some label =>
      rw [labelInquiry?, labelInquiry, supplied rfl, neededFor]
      by_cases unnamed : id = "" <;> simp [unnamed]

theorem walk_ruleInquiry {index : Nat} {scope : Scope} {rule : ScopeRule}
    (accepted : ScopeRule.compile resolver.supply index scope = .ok rule) (labelling : Labelling)
    (place : Place) :
    (resolver.ruleInquiry place rule).walk labelling = scope.walk labelling place := by
  unfold Scope.walk
  rcases ScopeRule.of_compile accepted with
    ⟨rfl, noClusterLabel, noNamespaceLabel⟩ | ⟨rfl, _, _, clusters, namespaces⟩
  · rw [noClusterLabel, noNamespaceLabel]
    simp [ruleInquiry, neededFor]
  · rw [ruleInquiry, Inquiry.walk_and, walk_labelInquiry? clusters, walk_labelInquiry? namespaces,
      neededFor_getD]
    simp only [value_labelInquiry? clusters]

/-- A checked list of scopes asks for what the scopes need in order until one covers. -/
theorem walk_inquiry {scopes : List Scope} (accepted : compile supply scopes = .ok resolver)
    (labelling : Labelling) (place : Place) :
    (resolver.inquiry place).walk labelling =
      (upToFirst (fun scope => scope.Covers labelling place) scopes).flatMap
        (Scope.walk labelling place) := by
  obtain ⟨rfl, related⟩ := of_compile accepted
  have walked := flatMap_upToFirst_of_forall₂ related fun scope rule ⟨_, made⟩ =>
    ⟨(value_ruleInquiry made labelling place).symm, (walk_ruleInquiry made labelling place).symm⟩
  rw [walked]
  unfold inquiry isWildcard
  cases resolver.rules with
  | nil => rfl
  | cons first rest => exact Inquiry.walk_any ..

end ScopeResolver

/-! ## Exclusions -/

namespace CompiledExclusion

variable {supply : LabelSupply} {exclusion : Exclusion} {compiled : CompiledExclusion}

theorem walk_inquiry (accepted : compile supply exclusion = .ok compiled)
    (labelling : Labelling) (now : Instant) (subject : Deployment) (place : Place) :
    (compiled.inquiry now subject place).walk labelling =
      exclusion.walk labelling now subject place := by
  obtain ⟨excluded, given, checked, _⟩ := of_compile accepted
  have means := isMeant_iff accepted given now subject
  rw [Exclusion.walk, given, inquiry]
  dsimp only
  split
  · rename_i isMeant
    rw [if_pos (means.1 isMeant)]
    rcases of_compileScope checked with ⟨absent, unset⟩ | ⟨scope, resolver, present, set, made⟩
    · rw [absent, unset]
      rfl
    · rw [present, set, Option.toList_some, List.flatMap_singleton]
      refine (ScopeResolver.walk_inquiry made labelling place).trans ?_
      cases covers : decide (scope.Covers labelling place) <;> simp [upToFirst, covers]
  · rename_i isNotMeant
    rw [if_neg fun isMeant => isNotMeant (means.2 isMeant)]
    rfl

end CompiledExclusion

/-! ## Policies -/

namespace CompiledPolicy

variable {supply : LabelSupply} {policy : Policy} {compiled : CompiledPolicy}

/-- A compiled policy asks for what the policy needs to tell whether it concerns itself with
an event. -/
theorem walk_concernInquiry [SizeLimit] (accepted : compile supply policy = .ok compiled)
    (labelling : Labelling) (now : Instant) (event : Event) :
    (compiled.concernInquiry now event).walk labelling = policy.walk labelling now event := by
  obtain ⟨_, _, scopesChecked, exclusionsChecked⟩ := of_compile accepted
  have scopes := of_compileScopes scopesChecked
  have covered := ScopeResolver.value_inquiry scopes labelling event.place
  rw [concernInquiry, Inquiry.walk_and, Inquiry.walk_bind, Inquiry.walk_done, List.append_nil,
    ScopeResolver.walk_inquiry scopes, Policy.walk, exclusionInquiry]
  cases reported : event.deployment? with
  | none => simp
  | some subject =>
      have walked := flatMap_upToFirst_of_forall₂ (mapM_eq_ok_iff.1 exclusionsChecked)
        fun exclusion checked made =>
          ⟨(CompiledExclusion.value_inquiry made labelling now reported).symm,
            (CompiledExclusion.walk_inquiry made labelling now subject event.place).symm⟩
      dsimp only
      rw [walked, Inquiry.walk_any]
      congr 1
      exact if_congr covered rfl rfl

/-- Where a section holds, a compiled policy asks for what the policy needs. -/
theorem walk_inquiry [SizeLimit] (accepted : compile supply policy = .ok compiled) {event : Event}
    (met : ∃ clause ∈ policy.sections, clause.Holds event) (labelling : Labelling)
    (now : Instant) :
    (compiled.inquiry now event).walk labelling = policy.walk labelling now event := by
  unfold inquiry
  cases shown : compiled.groupMatches? event with
  | none => exact absurd met ((groupMatches?_eq_none_iff accepted event).1 shown)
  | some groupMatches =>
      dsimp only
      rw [Inquiry.walk_bind, Inquiry.walk_done, List.append_nil,
        walk_concernInquiry accepted labelling now event]

/-- Where no section holds, a compiled policy asks for nothing and finds nothing. -/
theorem inquiry_of_unmet [SizeLimit] (accepted : compile supply policy = .ok compiled)
    {event : Event} (unmet : ¬ ∃ clause ∈ policy.sections, clause.Holds event) (now : Instant) :
    compiled.inquiry now event = .done [] := by
  unfold inquiry
  rw [(groupMatches?_eq_none_iff accepted event).2 unmet]

/-- A fault of a look-up that is made is a fault of an unknown ID. -/
theorem fault_iff_lookups (policy : Policy) (answers : LabelAnswers) (now : Instant)
    (event : Event) (cache : LabelCache) (fault : LookupFault) :
    (policy.walk (cache.overlay answers).view now event).findSome? (cache.overlay answers).fault? =
        some fault ↔
      ∃ key ∈ policy.lookups answers now event cache, answers.fault? key = some fault := by
  let seen := cache.overlay answers
  rw [findSome?_eq_some_iff_upToFirst]
  change (∃ key ∈ upToFirst seen.fails (policy.walk seen.view now event),
    seen.fault? key = some fault) ↔ _
  unfold Policy.lookups
  constructor
  · rintro ⟨key, onWalk, faulty⟩
    rw [LabelCache.fault?_overlay] at faulty
    split at faulty
    · rename_i unknown
      exact ⟨key, LabelCache.mem_unknownOf.2 ⟨onWalk, unknown⟩, faulty⟩
    · cases faulty
  · rintro ⟨key, looked, faulty⟩
    obtain ⟨onWalk, unknown⟩ := LabelCache.mem_unknownOf.1 looked
    refine ⟨key, onWalk, ?_⟩
    rw [LabelCache.fault?_overlay, if_pos unknown, faulty]

theorem ofFault_of_fault?_iff (policyId : String) (answers : LabelAnswers) (kind : LabelKind)
    (id : String) (error : EvaluationError) :
    (∃ fault, answers.fault? (kind, id) = some fault ∧ error = .ofFault policyId fault) ↔
      (∃ message, answers kind id = .failed message ∧ error = .lookupFailed kind id message) ∨
        ∃ report, answers kind id = .crashed report ∧ error = .crashed policyId report := by
  unfold LabelAnswers.fault?
  dsimp only
  cases answers kind id <;> simp [LabelAnswer.fault?, EvaluationError.ofFault]

/-- What it means that an evaluation looks up what a policy needs, and nothing else. -/
structure LooksUpAsNeeded [SizeLimit] (policy : Policy) (answers : LabelAnswers) (now : Instant)
    (event : Event) (cache : LabelCache) (result : Except EvaluationError (List Violation))
    (learned : LabelCache) : Prop where
  /-- Where no section holds, nothing is looked up and nothing goes wrong. -/
  unmatched : (¬ ∃ clause ∈ policy.sections, clause.Holds event) →
    result = .ok [] ∧ learned = cache
  /-- Where one does, the look-ups are those that the policy needs, in order. -/
  asked : (∃ clause ∈ policy.sections, clause.Holds event) →
    learned.asked = (policy.lookups answers now event cache).reverse ++ cache.asked
  /-- Each of them is made for labels that were not known, and what it lets know is known then. -/
  remembered : (∃ clause ∈ policy.sections, clause.Holds event) → ∀ kind id,
    ((kind, id) ∈ policy.lookups answers now event cache →
        cache.get? kind id = none ∧ learned.get? kind id = (answers kind id).labels?) ∧
      ((kind, id) ∉ policy.lookups answers now event cache →
        learned.get? kind id = cache.get? kind id)
  /-- The evaluation fails just if one of them does, and reports it. -/
  failed : ∀ error, result = .error error ↔
    (∃ clause ∈ policy.sections, clause.Holds event) ∧
      ∃ kind id, (kind, id) ∈ policy.lookups answers now event cache ∧
        ((∃ message, answers kind id = .failed message ∧ error = .lookupFailed kind id message) ∨
          ∃ report, answers kind id = .crashed report ∧ error = .crashed policy.id report)
  /-- Otherwise it finds violations just if the policy matches the event. -/
  ended : ∀ violations, result = .ok violations →
    (violations ≠ [] ↔ policy.Matches (cache.overlay answers).view now event)

/-- An evaluation looks up what the policy needs and nothing else, and fails just if one of
these look-ups does. -/
theorem violations_looksUpAsNeeded [SizeLimit] (accepted : compile supply policy = .ok compiled)
    (answers : LabelAnswers) (now : Instant) (event : Event) (cache : LabelCache) :
    LooksUpAsNeeded policy answers now event cache
      (compiled.violations answers now event cache).1
      (compiled.violations answers now event cache).2 := by
  let seen := cache.overlay answers
  have named : compiled.id = policy.id := congrArg Policy.id (of_compile accepted).1
  have evaluated := violations_eq_through compiled answers now event cache
  rw [Inquiry.through_eq, Inquiry.direct_eq, Inquiry.needed_eq, named] at evaluated
  have matching := value_inquiry_ne_nil accepted seen.view now event
  rw [evaluated]
  by_cases met : ∃ clause ∈ policy.sections, clause.Holds event
  · have walked := walk_inquiry accepted met seen.view now
    rw [walked]
    change LooksUpAsNeeded policy answers now event cache _
      (cache.learn answers (policy.lookups answers now event cache))
    refine ⟨absurd met, fun _ => LabelCache.asked_learn .., fun _ kind id => ⟨?_, ?_⟩, ?_, ?_⟩
    · intro sought
      have unknown := (LabelCache.mem_unknownOf.1 sought).2
      refine ⟨unknown, ?_⟩
      rw [LabelCache.get?_learn, if_pos sought, unknown, Option.or_none]
    · intro unsought
      rw [LabelCache.get?_learn, if_neg unsought]
    · intro error
      simp only [and_iff_right met, ← ofFault_of_fault?_iff]
      have faults := fault_iff_lookups policy answers now event cache
      cases first : (policy.walk seen.view now event).findSome? seen.fault? with
      | none =>
          refine iff_of_false (fun impossible => by cases impossible) ?_
          rintro ⟨kind, id, looked, fault, faulty, _⟩
          have found := (faults fault).2 ⟨(kind, id), looked, faulty⟩
          cases first.symm.trans found
      | some fault =>
          constructor
          · intro ended
            cases ended
            obtain ⟨⟨kind, id⟩, looked, faulty⟩ := (faults fault).1 first
            exact ⟨kind, id, looked, fault, faulty, rfl⟩
          · rintro ⟨kind, id, looked, other, faulty, rfl⟩
            have found := (faults other).2 ⟨(kind, id), looked, faulty⟩
            cases first.symm.trans found
            rfl
    · intro violations ended
      cases first : (policy.walk seen.view now event).findSome? seen.fault? with
      | none =>
          rw [first] at ended
          cases ended
          exact matching
      | some fault =>
          rw [first] at ended
          cases ended
  · have quiet := inquiry_of_unmet accepted met now
    rw [quiet] at matching ⊢
    refine ⟨fun _ => ⟨rfl, rfl⟩, fun impossible => absurd impossible met,
      fun impossible => absurd impossible met, fun error => ?_, fun violations ended => ?_⟩
    · refine iff_of_false (fun impossible => by cases impossible) ?_
      rintro ⟨impossible, _⟩
      exact met impossible
    · cases ended
      exact matching

def guardedProduction (ending : Instant) : Policy :=
  { guardedFiles ending with
    scopes := [⟨none, none, some ⟨"stage", "production"⟩, some ⟨"team", "red"⟩⟩] }

def namespacesDown : LabelAnswers
  | .clusterLabels, _ => .found (LabelMap.empty.insert "stage" "production")
  | .namespaceLabels, _ => .failed "timeout"

/-- The label of the cluster stands, so the namespace is looked up, and evaluation fails. -/
theorem guardedProduction_asks_for_namespace :
    ∃ now compiled learned, compile .full (guardedProduction now) = .ok compiled ∧
      compiled.violations namespacesDown now fileCreated .empty =
        (.error (.lookupFailed .namespaceLabels "n1" "timeout"), learned) ∧
      learned.asked = [(.namespaceLabels, "n1"), (.clusterLabels, "east")] ∧
      LooksUpAsNeeded (guardedProduction now) namespacesDown now fileCreated .empty
        (.error (.lookupFailed .namespaceLabels "n1" "timeout")) learned := by
  let now : Instant := ⟨2024, 2, 29, 12, 0, 0, 0⟩
  obtain ⟨compiled, accepted⟩ :
      ∃ compiled, compile .full (guardedProduction now) = .ok compiled := ⟨_, rfl⟩
  have asNeeded := violations_looksUpAsNeeded accepted namespacesDown now fileCreated .empty
  cases accepted
  exact ⟨now, _, _, rfl, rfl, rfl, asNeeded⟩

end CompiledPolicy

end PolicyWatch
