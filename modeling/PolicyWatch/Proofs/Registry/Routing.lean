import PolicyWatch.Proofs.Registry.Catalogue
import PolicyWatch.Regex.Size

/-!
# Which policies an event reaches

An event is matched against many policies, not all of which listen to it.  Main statement: what a
pass over a registry reports, it reports of policies that listen to the event, whatever look-ups
answer meanwhile; so a policy for nodes is silent at the deployment of anything, although the test
before the match lets it pass there.
-/

namespace PolicyWatch

/-! ## Listening -/

/-- Whether events of a source are raised as an event is: on a node, with a deployment, or for a
deployment itself. -/
def EventSource.Suits (eventSource : EventSource) (event : Event) : Prop :=
  match eventSource with
  | .nodeEvent => ∃ node access, event = .nodeFileAccess node access
  | .deploymentEvent => ∃ subject, event.deployment? = some subject
  | .notApplicable => ∃ subject, event = .deployment subject

namespace Event

theorem source_suits (event : Event) : event.source.Suits event := by
  cases event with
  | deployment subject => exact ⟨subject, rfl⟩
  | process subject indicator => exact ⟨subject, rfl⟩
  | deploymentFileAccess subject access => exact ⟨subject, rfl⟩
  | nodeFileAccess node access => exact ⟨node, access, rfl⟩

theorem eq_deployment_of_kind {event : Event} (isDeployment : event.kind = .deployment) :
    ∃ subject, event = .deployment subject := by
  cases event with
  | deployment subject => exact ⟨subject, rfl⟩
  | _ => cases isDeployment

end Event

structure Policy.ListensTo (policy : Policy) (event : Event) : Prop where
  enabled : policy.disabled = false
  staged : event.stage ∈ policy.stages
  sourced : policy.eventSource.Suits event

namespace CompiledPolicy

variable {supply : LabelSupply} {policy : Policy} {compiled : CompiledPolicy}

theorem wellFormed_of_compile [SizeLimit] (accepted : compile supply policy = .ok compiled) :
    policy.WellFormed supply := by
  have met := (reports_compile supply policy).exists_ok_iff.1 ⟨compiled, accepted⟩
  exact (Policy.met_requirements.1 met).1

/-- A policy for nodes tests nothing that a deployment shows, so none of its sections holds. -/
theorem groupMatches?_of_nodeEvent [SizeLimit] (accepted : compile supply policy = .ok compiled)
    (forNodes : policy.eventSource = .nodeEvent) (subject : Deployment) :
    compiled.groupMatches? (.deployment subject) = none := by
  rw [groupMatches?_eq_none_iff accepted]
  rintro ⟨clause, member, carried, _⟩
  obtain ⟨grouped, wellFormed⟩ := (wellFormed_of_compile accepted).sections clause member
  obtain ⟨group, isGroup⟩ := List.exists_mem_of_ne_nil _ grouped
  obtain ⟨field, named, ofFiles, _⟩ := wellFormed group isGroup
  obtain ⟨other, sameName, available⟩ := carried group isGroup
  cases named.symm.trans sameName
  rw [Field.isAvailableOn, ofFiles forNodes] at available
  cases available

theorem listensTo_of_isEligible {event : Event} (eligible : compiled.isEligible event = true) :
    compiled.policy.ListensTo event ∨
      compiled.policy.eventSource = .nodeEvent ∧ ∃ subject, event = .deployment subject := by
  simp only [isEligible, Bool.and_eq_true, Bool.or_eq_true, Bool.not_eq_true', beq_iff_eq,
    Policy.hasStage, List.contains_iff_mem] at eligible
  obtain ⟨⟨enabled, staged⟩, atDeployment | sameSource⟩ := eligible
  · obtain ⟨subject, rfl⟩ := Event.eq_deployment_of_kind atDeployment
    cases source : compiled.policy.eventSource with
    | nodeEvent => exact .inr ⟨rfl, subject, rfl⟩
    | deploymentEvent => exact .inl ⟨enabled, staged, by rw [source]; exact ⟨subject, rfl⟩⟩
    | notApplicable => exact .inl ⟨enabled, staged, by rw [source]; exact ⟨subject, rfl⟩⟩
  · refine .inl ⟨enabled, staged, ?_⟩
    rw [sameSource]
    exact event.source_suits

end CompiledPolicy

/-! ## One visit -/

def MatchPass.visitAmid (labels : CompiledPolicy → LabelAnswers) (clock : CompiledPolicy → Instant)
    (event : Event) (compiled : CompiledPolicy) (pass : MatchPass) :
    Except Failure Unit × MatchPass :=
  visit (labels compiled) (clock compiled) event compiled pass

namespace MatchPass

variable {labels : CompiledPolicy → LabelAnswers} {clock : CompiledPolicy → Instant}
  {event : Event} {compiled : CompiledPolicy}

variable (labels clock) in
theorem visitAmid_of_not_listensTo [SizeLimit] {supply : LabelSupply}
    (accepted : CompiledPolicy.compile supply compiled.policy = .ok compiled)
    (deaf : ¬ compiled.policy.ListensTo event) (pass : MatchPass) :
    visitAmid labels clock event compiled pass = (.ok (), pass) := by
  unfold visitAmid visit
  split
  · rename_i eligible
    rcases compiled.listensTo_of_isEligible eligible with listens | ⟨forNodes, subject, rfl⟩
    · exact absurd listens deaf
    · have unmet := CompiledPolicy.groupMatches?_of_nodeEvent accepted forNodes subject
      simp only [CompiledPolicy.violations, unmet]
  · rfl

theorem mem_raised_visitAmid {pass : MatchPass} {alert : Alert}
    (raised : alert ∈ (visitAmid labels clock event compiled pass).2.raised) :
    alert ∈ pass.raised ∨ alert.policyId = compiled.id := by
  unfold visitAmid visit at raised
  split at raised
  · split at raised
    · exact .inl raised
    · rcases List.mem_cons.1 raised with rfl | earlier
      · exact .inr rfl
      · exact .inl earlier
    · exact .inl raised
  · exact .inl raised

end MatchPass

/-! ## A whole pass -/

/-- Whether an outcome says something of an ID: it has an alert or a failure under it. -/
def MatchOutcome.Mentions (outcome : MatchOutcome) (id : String) : Prop :=
  (∃ alert ∈ outcome.alerts, alert.policyId = id) ∨
    ∃ failure ∈ outcome.errors.failures, failure.messages.head? = some (policyTag id)

namespace Registry

variable {supply : LabelSupply} {labels : CompiledPolicy → LabelAnswers}
  {clock : CompiledPolicy → Instant} {event : Event}

/-- Match an event against every policy while the time goes on and look-ups come to answer
otherwise from one policy to the next. -/
def matchAllAmid (registry : Registry) (labels : CompiledPolicy → LabelAnswers)
    (clock : CompiledPolicy → Instant) (event : Event) : MatchOutcome × LabelCache :=
  let (errors, pass) := registry.visitAll (MatchPass.visitAmid labels clock event)
    ⟨LabelCache.empty, []⟩
  (⟨pass.raised.reverse, errors⟩, pass.cache)

/-- Where nothing changes meanwhile, it is matched as at one instant. -/
theorem matchAllAmid_steady (registry : Registry) (answers : LabelAnswers) (now : Instant)
    (event : Event) :
    registry.matchAllAmid (fun _ => answers) (fun _ => now) event =
      registry.matchAll answers now event := rfl

theorem head_of_visitFailure? {noted : CompiledPolicy × Except Failure Unit} {failure : Failure}
    (failed : visitFailure? noted = some failure) :
    failure.messages.head? = some (policyTag noted.1.id) := by
  unfold visitFailure? at failed
  split at failed
  · cases failed
  · cases failed
    rfl

variable (labels clock event) in
theorem visitEach_listensTo [SizeLimit] {policies : List CompiledPolicy}
    (accepted : ∀ compiled ∈ policies,
      CompiledPolicy.compile supply compiled.policy = .ok compiled) (pass : MatchPass) :
    (∀ alert ∈ (visitEach (MatchPass.visitAmid labels clock event) policies pass).2.raised,
        alert ∈ pass.raised ∨
          ∃ compiled ∈ policies, compiled.policy.ListensTo event ∧ alert.policyId = compiled.id) ∧
      ∀ failure ∈ (visitEach (MatchPass.visitAmid labels clock event) policies pass).1,
        ∃ compiled ∈ policies, compiled.policy.ListensTo event ∧
          failure.messages.head? = some (policyTag compiled.id) := by
  induction policies generalizing pass with
  | nil =>
      constructor
      · intro alert raised
        exact .inl raised
      · intro failure impossible
        cases impossible
  | cons first rest ih =>
      obtain ⟨firstAccepted, restAccepted⟩ := List.forall_mem_cons.1 accepted
      obtain ⟨raisedLater, failedLater⟩ :=
        ih restAccepted (MatchPass.visitAmid labels clock event first pass).2
      simp only [visitEach_cons, List.exists_mem_cons_iff]
      by_cases listens : first.policy.ListensTo event
      · constructor
        · intro alert raised
          rcases raisedLater alert raised with earlier | later
          · rcases MatchPass.mem_raised_visitAmid earlier with known | named
            · exact .inl known
            · exact .inr (.inl ⟨listens, named⟩)
          · exact .inr (.inr later)
        · intro failure failed
          rcases List.mem_append.1 failed with own | later
          · exact .inl ⟨listens, head_of_visitFailure? (Option.mem_toList.1 own)⟩
          · exact .inr (failedLater failure later)
      · have unchanged :=
          MatchPass.visitAmid_of_not_listensTo labels clock firstAccepted listens pass
        rw [unchanged] at raisedLater failedLater ⊢
        constructor
        · intro alert raised
          exact (raisedLater alert raised).imp_right .inr
        · intro failure failed
          exact .inr (failedLater failure failed)

theorem eq_of_id_eq {registry : Registry} {entry other : Entry} (isEntry : entry ∈ registry.entries)
    (isOther : other ∈ registry.entries) (same : other.id = entry.id) : other = entry :=
  List.inj_on_of_nodup_map registry.distinct isOther isEntry same

theorem listensTo_of_mentions [SizeLimit] {registry : Registry} (coherent : registry.Coherent)
    {id : String} (mentioned : (registry.matchAllAmid labels clock event).1.Mentions id) :
    ∃ entry ∈ registry.entries, entry.id = id ∧ entry.compiled.policy.ListensTo event := by
  obtain ⟨raised, failed⟩ := visitEach_listensTo labels clock event
    (List.forall_mem_map.2 coherent) ⟨LabelCache.empty, []⟩
  rcases mentioned with ⟨alert, told, rfl⟩ | ⟨failure, told, tagged⟩
  · obtain ⟨compiled, member, listens, named⟩ :=
      (raised alert (List.mem_reverse.1 told)).resolve_left List.not_mem_nil
    obtain ⟨entry, isEntry, rfl⟩ := List.mem_map.1 member
    exact ⟨entry, isEntry, named.symm, listens⟩
  · obtain ⟨compiled, member, listens, named⟩ := failed failure told
    obtain ⟨entry, isEntry, rfl⟩ := List.mem_map.1 member
    rw [named] at tagged
    exact ⟨entry, isEntry, policyTag_injective (Option.some.inj tagged), listens⟩

/-- What it means that an outcome tells of policies that listen, and of no others. -/
structure RoutesAlerts (registry : Registry) (event : Event) (outcome : MatchOutcome) : Prop where
  /-- Every failure carries the ID of a policy, as every alert does. -/
  tagged : ∀ failure ∈ outcome.errors.failures, ∃ id, failure.messages.head? = some (policyTag id)
  /-- What is said under an ID is said of the policy there, and that listens to the event. -/
  heard : ∀ id, outcome.Mentions id →
    ∃ policy, registry.policy? id = some policy ∧ policy.ListensTo event
  /-- A policy for nodes that lists the stage of deployments counts as eligible when something is
  deployed, but nothing is said of it then. -/
  silent : ∀ entry ∈ registry.entries, entry.compiled.policy.eventSource = .nodeEvent →
    .deploy ∈ entry.compiled.policy.stages → ∀ subject, event = .deployment subject →
      entry.compiled.isEligible event = !entry.compiled.policy.disabled ∧
        ¬ outcome.Mentions entry.id

theorem matchAllAmid_routesAlerts [SizeLimit] {registry : Registry} (coherent : registry.Coherent)
    (labels : CompiledPolicy → LabelAnswers) (clock : CompiledPolicy → Instant) (event : Event) :
    registry.RoutesAlerts event (registry.matchAllAmid labels clock event).1 := by
  constructor
  case tagged =>
    intro failure told
    obtain ⟨compiled, _, _, named⟩ := (visitEach_listensTo labels clock event
      (List.forall_mem_map.2 coherent) ⟨LabelCache.empty, []⟩).2 failure told
    exact ⟨compiled.id, named⟩
  case heard =>
    intro id mentioned
    obtain ⟨entry, isEntry, rfl, listens⟩ := listensTo_of_mentions coherent mentioned
    have found := (registry.mem_entries_iff_find? entry).1 isEntry
    exact ⟨entry.compiled.policy, congrArg (Option.map _) found, listens⟩
  case silent =>
    rintro entry isEntry forNodes atDeploy subject rfl
    constructor
    · have staged : entry.compiled.policy.hasStage .deploy = true :=
        List.contains_iff_mem.2 atDeploy
      simp [CompiledPolicy.isEligible, Event.stage, Event.kind, staged]
    · intro mentioned
      obtain ⟨other, isOther, same, listens⟩ := listensTo_of_mentions coherent mentioned
      cases eq_of_id_eq isEntry isOther same
      have suits := listens.sourced
      rw [forNodes] at suits
      obtain ⟨node, access, impossible⟩ := suits
      cases impossible

/-- Alerts and failures tell of policies that listen to the event only, whatever look-ups answer
while it is matched. -/
theorem alerts_reach_listeners [SizeLimit] {registry : Registry}
    (reached : Reachable supply registry) (event : Event) :
    (∀ answers now, registry.RoutesAlerts event (registry.matchAll answers now event).1) ∧
      ∀ labels clock, registry.RoutesAlerts event
        (registry.matchAllAmid labels clock event).1 := by
  have routes := matchAllAmid_routesAlerts reached.coherent.2
  constructor
  · intro answers now
    rw [← matchAllAmid_steady]
    exact routes (fun _ => answers) (fun _ => now) event
  · intro labels clock
    exact routes labels clock event

end Registry

/-- A policy for nodes that lists the stage of deployments too, about all files but one. -/
def otherFiles : Policy where
  id := "other-files"
  name := "Other files"
  description := none
  severity := .low
  disabled := false
  stages := [.deploy, .runtime]
  eventSource := .nodeEvent
  categories := []
  sections := [⟨none, [⟨"Actual Path", ["/etc/passwd"], true, none⟩]⟩]
  scopes := []
  exclusions := []
  notifiers := []

/-- When something privileged is deployed, both policies are eligible, and one raises an alert. -/
theorem otherFiles_silent_at_deployment :
    ∃ registry subject answers now,
      Registry.Reachable .none registry ∧
        registry.RoutesAlerts (.deployment subject)
          (registry.matchAll answers now (.deployment subject)).1 ∧
        (∃ entry, registry.find? "other-files" = some entry ∧
          entry.compiled.isEligible (.deployment subject) = true) ∧
        (registry.matchAll answers now (.deployment subject)).1.alerts.map Alert.policyId =
          ["privileged"] := by
  obtain ⟨first, registry, firstInstalled, installed⟩ : ∃ first registry,
      (Registry.empty .none).upsert (privilegedContainers "Privileged" []) = .ok first ∧
        first.upsert otherFiles = .ok registry := ⟨_, _, rfl, rfl⟩
  have reached : Registry.Reachable .none registry :=
    .upsert _ (.upsert _ .empty firstInstalled) installed
  let subject : Deployment := ⟨"d1", "web", "east", "shop", "n1", 3, .empty,
    [⟨"main", ⟨"registry", "web", "1"⟩, true⟩]⟩
  let down : LabelAnswers := fun _ _ => .failed "timeout"
  let now : Instant := ⟨2024, 2, 29, 12, 0, 0, 0⟩
  have routes := (Registry.alerts_reach_listeners reached (.deployment subject)).1 down now
  cases firstInstalled
  cases installed
  exact ⟨_, subject, down, now, reached, routes, ⟨_, rfl, rfl⟩, rfl⟩

end PolicyWatch
