import PolicyWatch.Proofs.CompiledPolicy.Inquiry
import PolicyWatch.Registry.Matching

/-!
# Isolation of policies

Policies share the labels looked up in one pass over the registry.  Main
statement: the pass reports of each policy exactly what the policy shows when it
is matched alone, with no labels known, whatever the other policies do.
-/

namespace PolicyWatch

namespace LabelCache

/-- Whether all that is known is what look-ups answer. -/
def AgreesWith (cache : LabelCache) (answers : LabelAnswers) : Prop :=
  cache.overlay answers = answers

theorem agreesWith_empty (answers : LabelAnswers) : empty.AgreesWith answers := rfl

theorem AgreesWith.learn {cache : LabelCache} {answers : LabelAnswers}
    (agrees : cache.AgreesWith answers) (keys : List (LabelKind × String)) :
    (cache.learn answers keys).AgreesWith answers := by
  funext kind id
  have before := congrFun (congrFun agrees kind) id
  unfold overlay at before ⊢
  rw [get?_learn]
  by_cases member : (kind, id) ∈ keys
  · cases found : (answers kind id).labels? with
    | some labels => simpa [member, found] using (LabelAnswer.eq_ofLabels_of_labels? found).symm
    | none => simpa [member, found] using before
  · simpa [member] using before

end LabelCache

/-- The name under which the failures of a policy are reported. -/
def policyTag (id : String) : String :=
  "policy '" ++ id ++ "'"

theorem policyTag_injective {left right : String} (same : policyTag left = policyTag right) :
    left = right :=
  (String.append_right_inj _).1 ((String.append_left_inj _).1 same)

namespace CompiledPolicy

def verdictAlone (compiled : CompiledPolicy) (answers : LabelAnswers) (now : Instant)
    (event : Event) : Except EvaluationError (List Violation) :=
  (compiled.violations answers now event LabelCache.empty).1

/-- The alert of an eligible policy that finds violations alone. -/
def alertAlone? (answers : LabelAnswers) (now : Instant) (event : Event)
    (compiled : CompiledPolicy) : Option Alert :=
  if compiled.isEligible event then
    match compiled.verdictAlone answers now event with
    | .ok [] => none
    | .ok violations => some (Alert.raise compiled.policy event violations)
    | .error _ => none
  else none

def failureAlone? (answers : LabelAnswers) (now : Instant) (event : Event)
    (compiled : CompiledPolicy) : Option Failure :=
  if compiled.isEligible event then
    match compiled.verdictAlone answers now event with
    | .ok _ => none
    | .error error => some ⟨error.messages⟩
  else none

def taggedFailure? (answers : LabelAnswers) (now : Instant) (event : Event)
    (compiled : CompiledPolicy) : Option Failure :=
  (compiled.failureAlone? answers now event).map (Failure.within · (policyTag compiled.id))

variable {answers : LabelAnswers} {cache : LabelCache}

/-- With labels known that agree with the look-ups, a policy shows what it shows
alone, and the labels known afterwards agree as well. -/
theorem violations_of_agreesWith (compiled : CompiledPolicy)
    (agrees : cache.AgreesWith answers) (now : Instant) (event : Event) :
    ∃ learned, learned.AgreesWith answers ∧
      compiled.violations answers now event cache =
        (compiled.verdictAlone answers now event, learned) := by
  refine ⟨_, agrees.learn (cache.unknownOf ((compiled.inquiry now event).needed answers)), ?_⟩
  have alone := LabelCache.agreesWith_empty answers
  unfold LabelCache.AgreesWith at agrees alone
  simp only [verdictAlone, violations_eq_through, Inquiry.through_eq, agrees, alone]

end CompiledPolicy

open CompiledPolicy

theorem MatchPass.visit_eq_alone {answers : LabelAnswers} {cache : LabelCache}
    (agrees : cache.AgreesWith answers) (now : Instant) (event : Event)
    (compiled : CompiledPolicy) (raised : List Alert) :
    ∃ learned, learned.AgreesWith answers ∧
      MatchPass.visit answers now event compiled ⟨cache, raised⟩ =
        (match compiled.failureAlone? answers now event with
          | some failure => .error failure
          | none => .ok (),
        ⟨learned, (compiled.alertAlone? answers now event).toList ++ raised⟩) := by
  unfold MatchPass.visit alertAlone? failureAlone?
  split
  · obtain ⟨learned, agreesAfter, shown⟩ := compiled.violations_of_agreesWith agrees now event
    refine ⟨learned, agreesAfter, ?_⟩
    rw [shown]
    cases compiled.verdictAlone answers now event with
    | error error => rfl
    | ok violations => cases violations <;> rfl
  · exact ⟨cache, agrees, rfl⟩

theorem visitEach_eq_alone {answers : LabelAnswers} {cache : LabelCache}
    (agrees : cache.AgreesWith answers) (now : Instant) (event : Event)
    (policies : List CompiledPolicy) (raised : List Alert) :
    ∃ learned, learned.AgreesWith answers ∧
      Registry.visitEach (MatchPass.visit answers now event) policies ⟨cache, raised⟩ =
        (policies.filterMap (taggedFailure? answers now event),
          ⟨learned, (policies.filterMap (alertAlone? answers now event)).reverse ++ raised⟩) := by
  induction policies generalizing cache raised with
  | nil => exact ⟨cache, agrees, rfl⟩
  | cons compiled rest ih =>
      obtain ⟨middle, agreesMiddle, visited⟩ :=
        MatchPass.visit_eq_alone agrees now event compiled raised
      obtain ⟨learned, agreesAfter, others⟩ :=
        ih agreesMiddle ((compiled.alertAlone? answers now event).toList ++ raised)
      refine ⟨learned, agreesAfter, ?_⟩
      unfold Registry.visitEach
      rw [visited]
      simp only [others]
      cases failed : compiled.failureAlone? answers now event <;>
        cases alert : compiled.alertAlone? answers now event <;>
          simp [taggedFailure?, failed, alert, policyTag]

theorem filter_filterMap_eq {β : Type} {entries : List Entry}
    (distinct : (entries.map Entry.id).Nodup) (report : CompiledPolicy → Option β)
    (belongs : β → Bool) (id : String)
    (owned : ∀ compiled value, report compiled = some value →
      (belongs value = true ↔ compiled.id = id)) :
    ((entries.map Entry.compiled).filterMap report).filter belongs =
      ((entries.find? fun entry => entry.id == id).bind fun entry =>
        report entry.compiled).toList := by
  induction entries with
  | nil => rfl
  | cons entry rest ih =>
      obtain ⟨fresh, restDistinct⟩ := List.nodup_cons.1 distinct
      have others := ih restDistinct
      rw [List.map_cons, List.filterMap_cons, List.find?_cons]
      by_cases same : entry.id = id
      · have absent : rest.find? (fun entry => entry.id == id) = none := by
          rw [List.find?_eq_none]
          intro other member isSame
          exact fresh (List.mem_map.2 ⟨other, member, (beq_iff_eq.1 isSame).trans same.symm⟩)
        rw [absent] at others
        cases reported : report entry.compiled with
        | none => simpa [same, reported] using others
        | some value =>
            have mine := (owned entry.compiled value reported).2 same
            simpa [same, reported, mine] using others
      · have apart : (entry.id == id) = false := by simpa using same
        rw [apart]
        cases reported : report entry.compiled with
        | none => exact others
        | some value =>
            have foreign : belongs value = false := by
              rw [Bool.eq_false_iff]
              exact fun mine => same ((owned entry.compiled value reported).1 mine)
            simpa [foreign] using others

theorem policyId_of_alertAlone? {answers : LabelAnswers} {now : Instant} {event : Event}
    {compiled : CompiledPolicy} {alert : Alert}
    (raised : compiled.alertAlone? answers now event = some alert) :
    alert.policyId = compiled.id := by
  unfold alertAlone? at raised
  split at raised
  · split at raised
    · cases raised
    · cases raised
      rfl
    · cases raised
  · cases raised

theorem head_of_taggedFailure? {answers : LabelAnswers} {now : Instant} {event : Event}
    {compiled : CompiledPolicy} {failure : Failure}
    (failed : taggedFailure? answers now event compiled = some failure) :
    failure.messages.head? = some (policyTag compiled.id) := by
  obtain ⟨cause, _, rfl⟩ := Option.map_eq_some_iff.1 failed
  rfl

theorem Registry.matchAll_reports (registry : Registry) (answers : LabelAnswers) (now : Instant)
    (event : Event) :
    (registry.matchAll answers now event).1.alerts =
        (registry.entries.map Entry.compiled).filterMap (alertAlone? answers now event) ∧
      (registry.matchAll answers now event).1.errors.failures =
        (registry.entries.map Entry.compiled).filterMap (taggedFailure? answers now event) := by
  obtain ⟨learned, _, visited⟩ := visitEach_eq_alone (LabelCache.agreesWith_empty answers)
    now event (registry.entries.map Entry.compiled) []
  unfold matchAll visitAll
  simp [visited]

/-- Policies do not interfere.  Matching an event against a registry, whose
entries may stand in any order, raises exactly one alert for each eligible policy
that finds violations alone, and reports exactly one failure for each that fails
alone, under its ID.  Another order of the entries reorders the same alerts and
failures, and what is said of an ID depends on the entry under that ID only. -/
theorem matchAll_eq_alone (registry : Registry) (answers : LabelAnswers) (now : Instant)
    (event : Event) :
    let outcome := (registry.matchAll answers now event).1
    let policies := registry.entries.map Entry.compiled
    outcome.alerts = policies.filterMap (alertAlone? answers now event) ∧
      outcome.errors.failures = policies.filterMap (taggedFailure? answers now event) ∧
      (∀ other : Registry, other.entries.Perm registry.entries →
        (other.matchAll answers now event).1.alerts.Perm outcome.alerts ∧
          (other.matchAll answers now event).1.errors.failures.Perm outcome.errors.failures) ∧
      ∀ id : String,
        outcome.alerts.filter (fun alert => alert.policyId == id) =
            ((registry.find? id).bind fun entry =>
              entry.compiled.alertAlone? answers now event).toList ∧
          outcome.errors.failures.filter
              (fun failure => failure.messages.head? == some (policyTag id)) =
            ((registry.find? id).bind fun entry =>
              taggedFailure? answers now event entry.compiled).toList := by
  intro outcome policies
  obtain ⟨alerts, failures⟩ := registry.matchAll_reports answers now event
  refine ⟨alerts, failures, ?_, ?_⟩
  · intro other reordered
    obtain ⟨otherAlerts, otherFailures⟩ := other.matchAll_reports answers now event
    have policiesReordered := reordered.map Entry.compiled
    refine ⟨?_, ?_⟩
    · rw [otherAlerts, alerts]
      exact policiesReordered.filterMap _
    · rw [otherFailures, failures]
      exact policiesReordered.filterMap _
  · intro id
    refine ⟨?_, ?_⟩
    · rw [alerts]
      refine filter_filterMap_eq registry.distinct _ _ id ?_
      intro compiled alert raised
      rw [policyId_of_alertAlone? raised, beq_iff_eq]
    · rw [failures]
      refine filter_filterMap_eq registry.distinct _ _ id ?_
      intro compiled failure failed
      rw [head_of_taggedFailure? failed, beq_iff_eq, Option.some_inj]
      exact ⟨policyTag_injective, congrArg policyTag⟩

end PolicyWatch
