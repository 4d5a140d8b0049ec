import PolicyWatch.Proofs.CompiledPolicy.Inquiry
import PolicyWatch.Proofs.Registry.NotifierRemoval
import PolicyWatch.Regex.Size

/-!
# Rewriting what describes a policy

Policies that differ in descriptive fields only find the same.  When a notifier is
removed, a policy is rewritten after it was written to a store, and it could then
be too late to refuse it.  Main statement: a rewritten policy is never refused, and
finds the same as before, whatever others do to the registry meanwhile.
-/

namespace PolicyWatch

namespace CompiledPolicy

/-- Whether compiled policies find the same in every event, and ask for the same
labels in the same order to find it. -/
structure FindsAlike (first second : CompiledPolicy) : Prop where
  inquiry : ∀ now event, second.inquiry now event = first.inquiry now event
  violations : ∀ answers now event cache,
    second.violations answers now event cache = first.violations answers now event cache

theorem FindsAlike.refl (compiled : CompiledPolicy) : compiled.FindsAlike compiled :=
  ⟨fun _ _ => rfl, fun _ _ _ _ => rfl⟩

theorem findsAlike_of_id_eq (compiled : CompiledPolicy) {policy : Policy}
    (sameId : policy.id = compiled.id) :
    compiled.FindsAlike { compiled with policy } where
  inquiry _ _ := rfl
  violations answers now event cache := by
    have renamed : CompiledPolicy.id { compiled with policy } = compiled.id := sameId
    rw [violations_eq_through, violations_eq_through, renamed]
    rfl

theorem compile_cases_of_detectsAlike [SizeLimit] {left right : Policy} (supply : LabelSupply)
    (alike : left.DetectsAlike right) :
    (∃ error, compile supply left = .error error ∧ compile supply right = .error error) ∨
      ∃ first second, compile supply left = .ok first ∧ compile supply right = .ok second ∧
        first.FindsAlike second := by
  have same := compile_of_detectsAlike supply alike
  cases made : compile supply left with
  | error error =>
      rw [made] at same
      exact .inl ⟨error, rfl, same⟩
  | ok first =>
      rw [made] at same
      have kept : first.policy = left := (of_compile made).1
      have sameId : right.id = first.id := alike.id.trans (congrArg Policy.id kept).symm
      exact .inr ⟨first, _, rfl, same, findsAlike_of_id_eq first sameId⟩

/-- Whether a compiled policy that replaces another is matched against the same events
and finds the same in them. -/
structure StandsInFor (second first : CompiledPolicy) : Prop where
  eligible : ∀ event, second.isEligible event = first.isEligible event
  finds : first.FindsAlike second

theorem StandsInFor.refl (compiled : CompiledPolicy) : compiled.StandsInFor compiled :=
  ⟨fun _ => rfl, .refl compiled⟩

theorem standsInFor_withoutNotifier (compiled : CompiledPolicy) (notifier : String) :
    (compiled.withoutNotifier notifier).StandsInFor compiled :=
  ⟨fun _ => rfl, findsAlike_of_id_eq compiled (Policy.withoutNotifier_id _ notifier)⟩

end CompiledPolicy

/-! ## Orderly stores -/

namespace Registry

/-- Whether a registry comes from another by what others may do to it: they install
policies, remove them, and list them in another order. -/
inductive ComesFrom [SizeLimit] (before : Registry) : Registry → Prop where
  | refl : ComesFrom before before
  | install {between after : Registry} (policy : Policy) (earlier : ComesFrom before between)
      (installed : between.upsert policy = .ok after) : ComesFrom before after
  | remove {between : Registry} (id : String) (earlier : ComesFrom before between) :
      ComesFrom before (between.remove id)
  | reorder {between after : Registry} (earlier : ComesFrom before between)
      (sameSupply : after.supply = between.supply)
      (sameEntries : after.entries.Perm between.entries) : ComesFrom before after

/-- Others keep the sources of labels, and compile what they install. -/
theorem ComesFrom.frame [SizeLimit] {before after : Registry} (later : ComesFrom before after)
    (coherent : before.Coherent) : after.supply = before.supply ∧ after.Coherent := by
  induction later with
  | refl => exact ⟨rfl, coherent⟩
  | install policy _ installed ih =>
      have frame := ChangedAt.of_upsert installed
      exact ⟨frame.supply.trans ih.1, frame.coherent ih.2⟩
  | @remove between id _ ih =>
      have frame := ChangedAt.remove between id
      exact ⟨frame.supply.trans ih.1, frame.coherent ih.2⟩
  | reorder _ sameSupply sameEntries ih =>
      exact ⟨sameSupply.trans ih.1, ih.2.of_perm sameSupply sameEntries⟩

theorem comesFrom_disturb [SizeLimit] {before between : Registry}
    (earlier : ComesFrom before between)
    (id : String) (act : Interference) : ComesFrom before (between.disturb id act) := by
  cases act with
  | remove => exact earlier.remove id
  | install policy =>
      cases made : CompiledPolicy.compile between.supply (policy.under id) with
      | ok compiled =>
          rw [disturb_install_of_ok made]
          exact earlier.install (policy.under id) (upsert_of_ok made)
      | error =>
          rw [disturb_install_of_error made]
          exact earlier

theorem comesFrom_interfere [SizeLimit] {before between : Registry}
    (earlier : ComesFrom before between)
    (id : String) (acts : List Interference) : ComesFrom before (between.interfere id acts) := by
  unfold interfere
  induction acts generalizing between with
  | nil => exact earlier
  | cons act _ ih => exact ih (comesFrom_disturb earlier id act)

end Registry

namespace PolicyStore

variable {σ : Type}

/-- Whether others do to the registry only what they may while the store writes. -/
def IsOrderly [SizeLimit] (store : PolicyStore σ) : Prop :=
  ∀ (policy : Policy) (registry : Registry) (state : σ),
    registry.ComesFrom (store.update policy registry state).2.1

theorem isOrderly_rival [SizeLimit] (rival : Rival) : rival.store.IsOrderly :=
  fun policy _ _ => Registry.comesFrom_interfere .refl policy.id _

end PolicyStore

/-! ## Failures of a removal -/

/-- Whether a failure is one that the removal of a notifier under an ID may end in:
the store failed, or the policy changed at every attempt. -/
def Failure.IsOfRemoval (failure : Failure) (id : String) : Prop :=
  failure = keptChanging id ∨ ∃ cause, failure = updateFailed id cause

/-- Texts that differ in the first character differ whatever follows. -/
theorem append_ne_of_head?_ne {front other : String} (present : front.toList ≠ [])
    (presentToo : other.toList ≠ []) (apart : front.toList.head? ≠ other.toList.head?)
    (rest more : String) : front ++ rest ≠ other ++ more := by
  intro same
  have heads := congrArg (fun text => text.toList.head?) same
  simp only [String.toList_append] at heads
  rw [List.head?_append_of_ne_nil _ present, List.head?_append_of_ne_nil _ presentToo] at heads
  exact apart heads

/-- The failure to put a rewritten policy in its place is worded otherwise, from the
first character on. -/
theorem Failure.IsOfRemoval.head?_ne {failure : Failure} {id : String}
    (ofRemoval : failure.IsOfRemoval id) (other : String) :
    failure.messages.head? ≠ some ("re-upserting policy '" ++ other ++ "'") := by
  intro same
  rcases ofRemoval with rfl | ⟨cause, rfl⟩
  · have worded := Option.some.inj same
    rw [String.append_assoc, String.append_assoc] at worded
    exact append_ne_of_head?_ne (by decide) (by decide) (by decide) _ _ worded
  · have worded := Option.some.inj same
    rw [String.append_assoc, String.append_assoc] at worded
    exact append_ne_of_head?_ne (by decide) (by decide) (by decide) _ _ worded

namespace Registry

variable {σ : Type} {store : PolicyStore σ} {notifier id : String}

theorem coherent_of_replace? [SizeLimit] {registry changed : Registry} {current : Entry}
    {policy : Policy} {compiled : CompiledPolicy} (coherent : registry.Coherent)
    (made : CompiledPolicy.compile registry.supply policy = .ok compiled)
    (replaced : registry.replace? current compiled = some changed) : changed.Coherent := by
  rw [replace?_eq] at replaced
  obtain ⟨_, same⟩ := Option.ite_none_right_eq_some.1 replaced
  cases same
  exact (ChangedAt.insert made).coherent coherent

/-- An attempt to drop a notifier from an entry that names it, beside an orderly store: the
policy compiles without the notifier whatever was done meanwhile. -/
theorem exists_attempt [SizeLimit] (orderly : store.IsOrderly) {registry : Registry}
    (coherent : registry.Coherent) {current : Entry} (found : registry.find? id = some current)
    (named : current.compiled.policy.namesNotifier notifier = true) (attempts : Nat) (state : σ) :
    ∃ (result : Except Failure Unit) (changed : Registry) (next : σ), changed.Coherent ∧
      CompiledPolicy.compile changed.supply (current.compiled.policy.withoutNotifier notifier) =
        .ok (current.compiled.withoutNotifier notifier) ∧
      removeNotifierFrom store notifier id (attempts + 1) registry state =
        match result with
        | .error cause => (.error (updateFailed id cause), changed, next)
        | .ok () =>
            match changed.replace? current (current.compiled.withoutNotifier notifier) with
            | some published => (.ok (), published, next)
            | none => removeNotifierFrom store notifier id attempts changed next := by
  obtain ⟨result, changed, next, written⟩ : ∃ result changed next,
      store.update (current.compiled.policy.withoutNotifier notifier) registry state =
        (result, changed, next) := ⟨_, _, _, rfl⟩
  have later : registry.ComesFrom changed := by
    have leads := orderly (current.compiled.policy.withoutNotifier notifier) registry state
    rw [written] at leads
    exact leads
  obtain ⟨sameSupply, coherentLater⟩ := later.frame coherent
  -- The sources of labels are the old ones, with which the entry was compiled.
  have compiles : CompiledPolicy.compile changed.supply
      (current.compiled.policy.withoutNotifier notifier) =
        .ok (current.compiled.withoutNotifier notifier) := by
    rw [sameSupply]
    exact CompiledPolicy.compile_withoutNotifier (coherent current (mem_of_find? found)) notifier
  refine ⟨result, changed, next, coherentLater, compiles, ?_⟩
  rw [removeNotifierFrom]
  simp only [found, named, if_true, written]
  cases result with
  | error cause => rfl
  | ok =>
      cases replaced : changed.replace? current (current.compiled.withoutNotifier notifier) with
      | none => simp only [compiles, replaced]
      | some published => simp only [compiles, replaced]

/-- Attempts to drop a notifier from a policy leave every entry the compilation of its
own policy, and never end in the failure to compile what was written. -/
theorem removeNotifierFrom_ends [SizeLimit] (orderly : store.IsOrderly) (notifier id : String)
    (attempts : Nat) {registry : Registry} (coherent : registry.Coherent) (state : σ) :
    ∃ result changed next,
      removeNotifierFrom store notifier id attempts registry state = (result, changed, next) ∧
        (∀ failure, result = .error failure → failure.IsOfRemoval id) ∧ changed.Coherent := by
  induction attempts generalizing registry state with
  | zero =>
      refine ⟨.error (keptChanging id), registry, state, rfl, ?_, coherent⟩
      intro failure same
      cases same
      exact .inl rfl
  | succ attempts ih =>
      cases found : registry.find? id with
      | none =>
          exact ⟨.ok (), registry, state, by simp [removeNotifierFrom, found], nofun, coherent⟩
      | some current =>
          cases named : current.compiled.policy.namesNotifier notifier with
          | false =>
              exact ⟨.ok (), registry, state, by simp [removeNotifierFrom, found, named], nofun,
                coherent⟩
          | true =>
              obtain ⟨answer, changed, next, coherentLater, compiles, attempt⟩ :=
                exists_attempt orderly coherent found named attempts state
              rw [attempt]
              cases answer with
              | error cause =>
                  refine ⟨_, _, _, rfl, ?_, coherentLater⟩
                  intro failure same
                  cases same
                  exact .inr ⟨cause, rfl⟩
              | ok =>
                  dsimp only
                  cases replaced : changed.replace? current
                      (current.compiled.withoutNotifier notifier) with
                  | none => exact ih coherentLater next
                  | some published =>
                      exact ⟨.ok (), published, next, rfl, nofun,
                        coherent_of_replace? coherentLater compiles replaced⟩

theorem removeNotifierFromEach_fails [SizeLimit] (orderly : store.IsOrderly) (ids : List String)
    {registry : Registry} (coherent : registry.Coherent) (state : σ) :
    ∀ failure ∈ (removeNotifierFromEach store notifier ids registry state).1,
      ∃ id ∈ ids, failure.IsOfRemoval id := by
  induction ids generalizing registry state with
  | nil => exact fun _ member => nomatch member
  | cons first rest ih =>
      obtain ⟨result, changed, next, ends, fails, coherentLater⟩ :=
        removeNotifierFrom_ends orderly notifier first removalAttempts coherent state
      have later : ∀ failure ∈ (removeNotifierFromEach store notifier rest changed next).1,
          ∃ id ∈ first :: rest, failure.IsOfRemoval id := by
        intro failure member
        obtain ⟨id, among, ofRemoval⟩ := ih coherentLater next failure member
        exact ⟨id, List.mem_cons_of_mem first among, ofRemoval⟩
      intro failure member
      rw [removeNotifierFromEach] at member
      simp only [ends] at member
      cases result with
      | ok => exact later failure member
      | error _ =>
          rcases List.mem_cons.1 member with rfl | isLater
          · exact ⟨first, List.mem_cons_self, fails _ rfl⟩
          · exact later failure isLater

/-- A removal that no rival disturbs comes back to the entry that it began with. -/
theorem leftByOthers_of_undisturbed {original : Option Entry} {calls : List StoreCall}
    (linked : Linked original calls) (undisturbed : ∀ call ∈ calls, call.left = call.found) :
    leftByOthers original calls = original := by
  induction calls generalizing original with
  | nil => rfl
  | cons call rest ih =>
      obtain ⟨same, restUndisturbed⟩ := List.forall_mem_cons.1 undisturbed
      obtain ⟨isFound, restLinked⟩ := linked
      rw [leftByOthers, List.foldl_cons]
      exact (ih restLinked restUndisturbed).trans (same.trans isFound)

theorem standsInFor_of_keepsUpdates [SizeLimit] {supply : LabelSupply}
    {original final : Option Entry}
    {calls : List StoreCall} (keeps : KeepsUpdates supply notifier id original calls final) :
    Option.Rel CompiledPolicy.StandsInFor (final.map Entry.compiled)
      ((leftByOthers original calls).map Entry.compiled) := by
  rcases keeps.kept with same | ⟨entry, stamp, isLast, _, same⟩
  · rw [same]
    cases (leftByOthers original calls).map Entry.compiled with
    | none => exact .none
    | some compiled => exact .some (.refl compiled)
  · rw [same, isLast]
    exact .some (entry.compiled.standsInFor_withoutNotifier notifier)

end Registry

/-- What only describes a policy has no part in what it detects.  Policies that differ
in such fields are refused with the same error or find the same by the same look-ups.
So the removal of a notifier never fails to put a rewritten policy in its place, and
each policy finds the same as before: the same as what others left last under its ID. -/
theorem Policy.description_never_detects [SizeLimit] (supply : LabelSupply) :
    (∀ left right : Policy, left.DetectsAlike right →
      (∃ error, CompiledPolicy.compile supply left = .error error ∧
          CompiledPolicy.compile supply right = .error error) ∨
        ∃ first second, CompiledPolicy.compile supply left = .ok first ∧
          CompiledPolicy.compile supply right = .ok second ∧ first.FindsAlike second) ∧
    (∀ registry : Registry, Registry.Reachable supply registry →
      (∀ (σ : Type) (store : PolicyStore σ), store.IsOrderly → ∀ (notifier : String) (state : σ),
        ∀ failure ∈ (registry.removeNotifier store notifier state).1.failures,
          (∃ id ∈ registry.ids, failure.IsOfRemoval id) ∧
            ∀ id, failure.messages.head? ≠ some ("re-upserting policy '" ++ id ++ "'")) ∧
      ∀ (rival : Rival) (notifier : String), ∃ errors changed calls,
        registry.removeNotifier rival.store notifier [] = (errors, changed, calls) ∧
          ∀ id, Option.Rel CompiledPolicy.StandsInFor (changed.version id)
              ((leftByOthers (registry.find? id) (callsFor id calls)).map Entry.compiled) ∧
            ((∀ call ∈ callsFor id calls, ∀ act ∈ call.acts, ¬ act.TakesEffect supply id) →
              leftByOthers (registry.find? id) (callsFor id calls) = registry.find? id)) := by
  refine ⟨fun left right alike => CompiledPolicy.compile_cases_of_detectsAlike supply alike, ?_⟩
  intro registry reached
  obtain ⟨rfl, coherent⟩ := reached.coherent
  refine ⟨?_, ?_⟩
  · intro σ store orderly notifier state failure member
    obtain ⟨id, among, ofRemoval⟩ :=
      Registry.removeNotifierFromEach_fails orderly registry.ids coherent state failure member
    exact ⟨⟨id, among, ofRemoval⟩, ofRemoval.head?_ne⟩
  · intro rival notifier
    obtain ⟨changed, calls, ends, runs, untouched, _⟩ :=
      Registry.removeNotifier_eq registry coherent rival notifier
    refine ⟨_, changed, calls, ends, fun id => ?_⟩
    by_cases among : id ∈ registry.ids
    · obtain ⟨before, result, _, run⟩ := runs id among
      have keeps := run.keepsUpdates
      refine ⟨Registry.standsInFor_of_keepsUpdates keeps, fun idle => ?_⟩
      refine Registry.leftByOthers_of_undisturbed keeps.linked fun call member => ?_
      refine keeps.undisturbed call member (Bool.eq_false_iff.2 fun disturbed => ?_)
      obtain ⟨act, isAct, takes⟩ := (keeps.disturbed_iff call member).1 disturbed
      exact idle call member act isAct takes
    · obtain ⟨noCalls, absent⟩ := untouched id among
      have absentBefore : registry.find? id = none := by
        by_contra present
        exact among (Registry.mem_ids_iff.2 (Option.ne_none_iff_exists'.1 present))
      unfold Registry.version
      rw [noCalls, absent, absentBefore]
      exact ⟨.none, fun _ => rfl⟩

/-- A policy with a description and without notifiers compiles as before.  While a
notifier is removed from it, a rival installs it under another name, and the store
may refuse it: the new version is kept and stands in for what the rival left. -/
theorem privilegedContainers_described :
    ∃ first second registry changed calls,
      CompiledPolicy.compile .none (privilegedContainers "Privileged" ["slack"]) = .ok first ∧
        CompiledPolicy.compile .none { privilegedContainers "Privileged" [] with
          description := some "Containers without confinement", severity := .low,
          disabled := true, categories := ["Privileges"] } = .ok second ∧
        first.FindsAlike second ∧
        Registry.Reachable .none registry ∧
        (registry.removeNotifier (Rival.mk fun _ _ => ([], .error (.ofMessage "full"))).store
          "slack" []).1.failures = [updateFailed "privileged" (.ofMessage "full")] ∧
        (updateFailed "privileged" (.ofMessage "full")).messages.head? ≠
          some ("re-upserting policy '" ++ "privileged" ++ "'") ∧
        registry.removeNotifier
            (Rival.installing (privilegedContainers "Renamed" ["slack", "pager"])).store "slack"
            [] = (⟨"notifier removal", []⟩, changed, calls) ∧
        Option.Rel CompiledPolicy.StandsInFor (changed.version "privileged")
          ((leftByOthers (registry.find? "privileged") (callsFor "privileged" calls)).map
            Entry.compiled) ∧
        (changed.version "privileged").map CompiledPolicy.policy =
          some (privilegedContainers "Renamed" ["pager"]) := by
  obtain ⟨registry, installed⟩ : ∃ registry, (Registry.empty .none).upsert
      (privilegedContainers "Privileged" ["slack"]) = .ok registry := ⟨_, rfl⟩
  have reached : Registry.Reachable .none registry := .upsert _ .empty installed
  obtain ⟨compiles, rewrites⟩ := Policy.description_never_detects .none
  have alike := compiles (privilegedContainers "Privileged" ["slack"])
    { privilegedContainers "Privileged" [] with
      description := some "Containers without confinement", severity := .low,
      disabled := true, categories := ["Privileges"] } ⟨rfl, rfl, rfl, rfl, rfl, rfl, rfl⟩
  obtain ⟨fails, stands⟩ := rewrites registry reached
  have worded := fails _ _ (PolicyStore.isOrderly_rival
    (.mk fun _ _ => ([], .error (.ofMessage "full")))) "slack" []
  obtain ⟨errors, changed, calls, ends, standsIn⟩ :=
    stands (Rival.installing (privilegedContainers "Renamed" ["slack", "pager"])) "slack"
  cases installed
  rcases alike with ⟨_, impossible, _⟩ | ⟨first, second, made, madeToo, findsAlike⟩
  · cases impossible
  have left := (standsIn "privileged").1
  obtain rfl : _ = changed := congrArg (fun outcome => outcome.2.1) ends
  obtain rfl : _ = calls := congrArg (fun outcome => outcome.2.2) ends
  exact ⟨first, second, _, _, _, made, madeToo, findsAlike, reached, rfl,
    (worded _ List.mem_cons_self).2 "privileged", rfl, left, rfl⟩

end PolicyWatch
