import PolicyWatch.Proofs.Registry.Removal
import PolicyWatch.Regex.Size

/-!
# Removing a notifier beside rivals

A notifier is removed from the policies of a registry one after another.  Main
statement: whatever rivals do meanwhile, the versions that they install are kept,
or kept without the notifier, each ID is reported just if its own calls say so,
and nothing that happens to one ID matters to another.
-/

namespace PolicyWatch

theorem callsFor_append (id : String) (earlier calls : List StoreCall) :
    callsFor id (earlier ++ calls) = callsFor id earlier ++ callsFor id calls :=
  List.filter_append earlier calls

namespace Registry

/-- Dropping a notifier from the policies under distinct IDs is a removal from each,
and touches no other policy. -/
theorem removals_of_removeNotifierFromEach [SizeLimit] (rival : Rival) (notifier : String)
    {ids : List String} (distinct : ids.Nodup) {registry : Registry}
    (coherent : registry.Coherent) (earlier : List StoreCall) :
    ∃ calls changed,
      removeNotifierFromEach rival.store notifier ids registry earlier =
          (ids.filterMap fun id => removalFailure? removalAttempts id (callsFor id calls),
            changed, earlier ++ calls) ∧
        (∀ id ∈ ids, ∃ before result, callsFor id before = callsFor id earlier ∧
          Removal rival registry.supply notifier id before removalAttempts (registry.find? id)
            (callsFor id calls) result (changed.find? id)) ∧
        (∀ id, id ∉ ids → callsFor id calls = [] ∧ changed.find? id = registry.find? id) ∧
        changed.supply = registry.supply ∧ changed.Coherent := by
  induction ids generalizing registry earlier with
  | nil =>
      refine ⟨[], registry, ?_, by simp, fun id _ => ⟨rfl, rfl⟩, rfl, coherent⟩
      rw [List.append_nil]
      rfl
  | cons first rest ih =>
      obtain ⟨fresh, restDistinct⟩ := List.nodup_cons.1 distinct
      obtain ⟨own, result, between, ends, run, frame⟩ :=
        removal_of_removeNotifierFrom rival notifier first removalAttempts coherent earlier
      obtain ⟨others, changed, endsLater, runs, untouched, supplied, coherentAfter⟩ :=
        ih restDistinct (frame.coherent coherent) (earlier ++ own)
      have firstCalls : callsFor first (own ++ others) = own := by
        rw [callsFor_append, run.callsFor_self, (untouched first fresh).1, List.append_nil]
      have otherCalls : ∀ {id : String}, id ≠ first →
          callsFor id (own ++ others) = callsFor id others := by
        intro id apart
        rw [callsFor_append, run.callsFor_other apart, List.nil_append]
      refine ⟨own ++ others, changed, ?_, ?_, ?_, supplied.trans frame.supply, coherentAfter⟩
      · have laterReports : (rest.filterMap fun id =>
              removalFailure? removalAttempts id (callsFor id (own ++ others))) =
            rest.filterMap fun id => removalFailure? removalAttempts id (callsFor id others) := by
          refine List.filterMap_congr fun id member => ?_
          have apart : id ≠ first := fun same => fresh (same ▸ member)
          rw [otherCalls apart]
        rw [removeNotifierFromEach, ends]
        simp only [endsLater]
        rw [List.filterMap_cons, firstCalls, laterReports, run.result_eq]
        cases removalFailure? removalAttempts first own with
        | none => simp
        | some failure => simp
      · intro id member
        rcases List.mem_cons.1 member with rfl | later
        · refine ⟨earlier, result, rfl, ?_⟩
          rw [firstCalls, (untouched id fresh).2]
          exact run
        · have apart : id ≠ first := fun same => fresh (same ▸ later)
          obtain ⟨before, outcome, history, runLater⟩ := runs id later
          refine ⟨before, outcome, ?_, ?_⟩
          · rw [history, callsFor_append, run.callsFor_other apart, List.append_nil]
          · rw [otherCalls apart, ← frame.others id apart, ← frame.supply]
            exact runLater
      · intro id absent
        obtain ⟨apart, notLater⟩ := not_or.1 (fun member => absent (List.mem_cons.2 member))
        obtain ⟨noCalls, same⟩ := untouched id notLater
        exact ⟨(otherCalls apart).trans noCalls, same.trans (frame.others id apart)⟩

/-! ## Registries in use -/

/-- The registries that can come about, in any order of their entries. -/
inductive Reachable [SizeLimit] (supply : LabelSupply) : Registry → Prop where
  | empty : Reachable supply (Registry.empty supply)
  | upsert {registry changed : Registry} (policy : Policy) (reached : Reachable supply registry)
      (installed : registry.upsert policy = .ok changed) : Reachable supply changed
  | remove {registry : Registry} (id : String) (reached : Reachable supply registry) :
      Reachable supply (registry.remove id)
  | removeNotifier {registry : Registry} (rival : Rival) (notifier : String)
      (reached : Reachable supply registry) :
      Reachable supply (registry.removeNotifier rival.store notifier []).2.1
  | reorder {registry other : Registry} (reached : Reachable supply registry)
      (sameSupply : other.supply = registry.supply)
      (sameEntries : other.entries.Perm registry.entries) : Reachable supply other

theorem removeNotifier_eq [SizeLimit] (registry : Registry) (coherent : registry.Coherent)
    (rival : Rival) (notifier : String) :
    ∃ changed calls,
      registry.removeNotifier rival.store notifier [] =
          (⟨"notifier removal", registry.ids.filterMap fun id =>
            removalFailure? removalAttempts id (callsFor id calls)⟩, changed, calls) ∧
      (∀ id ∈ registry.ids, ∃ before result, callsFor id before = [] ∧
        Removal rival registry.supply notifier id before removalAttempts (registry.find? id)
          (callsFor id calls) result (changed.find? id)) ∧
      (∀ id, id ∉ registry.ids → callsFor id calls = [] ∧ changed.find? id = none) ∧
      changed.supply = registry.supply ∧ changed.Coherent := by
  obtain ⟨calls, changed, ends, runs, untouched, supplied, coherentAfter⟩ :=
    removals_of_removeNotifierFromEach rival notifier registry.distinct coherent []
  refine ⟨changed, calls, ?_, runs, ?_, supplied, coherentAfter⟩
  · unfold removeNotifier
    rw [ids, ends]
    rfl
  intro id absent
  obtain ⟨noCalls, same⟩ := untouched id absent
  refine ⟨noCalls, same.trans ?_⟩
  by_contra present
  exact absent (mem_ids_iff.2 (Option.ne_none_iff_exists'.1 present))

/-- In a registry that can come about, every entry is the compilation of its own
policy. -/
theorem Reachable.coherent [SizeLimit] {supply : LabelSupply} {registry : Registry}
    (reached : Reachable supply registry) : registry.supply = supply ∧ registry.Coherent := by
  induction reached with
  | empty => exact ⟨rfl, fun _ member => by cases member⟩
  | upsert policy _ installed ih =>
      have frame := ChangedAt.of_upsert installed
      exact ⟨frame.supply.trans ih.1, frame.coherent ih.2⟩
  | @remove registry id _ ih =>
      have frame := ChangedAt.remove registry id
      exact ⟨frame.supply.trans ih.1, frame.coherent ih.2⟩
  | removeNotifier rival notifier _ ih =>
      obtain ⟨changed, calls, ends, _, _, supplied, coherent⟩ :=
        removeNotifier_eq _ ih.2 rival notifier
      rw [ends]
      exact ⟨supplied.trans ih.1, coherent⟩
  | reorder _ sameSupply sameEntries ih =>
      exact ⟨sameSupply.trans ih.1, ih.2.of_perm sameSupply sameEntries⟩

theorem mem_ids_iff_of_version_eq {registry sibling : Registry} {id : String}
    (sameVersion : sibling.version id = registry.version id) :
    id ∈ sibling.ids ↔ id ∈ registry.ids := by
  unfold version at sameVersion
  have sameSome := congrArg Option.isSome sameVersion
  rw [Option.isSome_map, Option.isSome_map, Bool.eq_iff_iff] at sameSome
  rw [mem_ids_iff, mem_ids_iff, ← Option.isSome_iff_exists, ← Option.isSome_iff_exists]
  exact sameSome

end Registry

/-! ## What is kept -/

/-- What holds of the policy under an ID when a notifier is removed from it, given
the calls about it. -/
structure KeepsUpdates [SizeLimit] (supply : LabelSupply) (notifier id : String)
    (original : Option Entry) (calls : List StoreCall) (final : Option Entry) : Prop where
  linked : Linked original calls
  interfered : ∀ call ∈ calls, call.left.map Entry.compiled =
    call.acts.foldl (Interference.versionAfter supply id) (call.found.map Entry.compiled)
  disturbed_iff : ∀ call ∈ calls,
    call.disturbed = true ↔ ∃ act ∈ call.acts, act.TakesEffect supply id
  undisturbed : ∀ call ∈ calls, call.disturbed = false → call.left = call.found
  rewritten : ∀ call ∈ calls, ∃ entry, call.found = some entry ∧
    entry.compiled.policy.namesNotifier notifier = true ∧
    call.policy = entry.compiled.policy.withoutNotifier notifier
  bounded : calls.length ≤ 3
  kept : final = leftByOthers original calls ∨
    ∃ entry stamp, leftByOthers original calls = some entry ∧
      entry.compiled.policy.namesNotifier notifier = true ∧
      final = some ⟨stamp, entry.compiled.withoutNotifier notifier⟩
  reported_iff : (removalFailure? 3 id calls).isSome = true ↔
    (∃ call ∈ calls, ∃ failure, call.result = .error failure) ∨
      calls.length = 3 ∧ ∀ call ∈ calls, call.disturbed = true
  cleared : removalFailure? 3 id calls = none →
    ∀ entry, final = some entry → entry.compiled.policy.namesNotifier notifier = false

theorem Removal.keepsUpdates [SizeLimit] {rival : Rival} {supply : LabelSupply}
    {notifier id : String}
    {before calls : List StoreCall} {original final : Option Entry} {result : Except Failure Unit}
    (run : Removal rival supply notifier id before Registry.removalAttempts original calls result
      final) :
    KeepsUpdates supply notifier id original calls final where
  linked := run.linked
  interfered call member := by
    obtain ⟨_, _, made⟩ := run.rewrites call member
    rw [made.version, made.found]
    rfl
  disturbed_iff call member := by
    obtain ⟨_, _, made⟩ := run.rewrites call member
    exact made.disturbed_iff
  undisturbed call member undisturbed := by
    obtain ⟨_, _, made⟩ := run.rewrites call member
    rw [made.left_eq undisturbed, made.found]
  rewritten call member := by
    obtain ⟨_, entry, made⟩ := run.rewrites call member
    exact ⟨entry, made.found, made.named, made.policy⟩
  bounded := run.length_le
  kept := run.final_eq
  reported_iff := removalFailure?_isSome_iff 3 id calls
  cleared unreported _ isFinal := by
    have succeeded := run.result_eq
    rw [show removalFailure? Registry.removalAttempts id calls = none from unreported] at succeeded
    exact run.cleared succeeded isFinal

theorem Removal.removalFailure?_eq [SizeLimit] {rival other : Rival} {supply : LabelSupply}
    {notifier id : String} {attempts : Nat} {before calls earlier twins : List StoreCall}
    {original final sibling last : Option Entry} {result outcome : Except Failure Unit}
    (run : Removal rival supply notifier id before attempts original calls result final)
    (runToo : Removal other supply notifier id earlier attempts sibling twins outcome last)
    (same : result = outcome) :
    removalFailure? attempts id calls = removalFailure? attempts id twins := by
  have told := run.result_eq
  rw [same, runToo.result_eq] at told
  cases failure : removalFailure? attempts id calls with
  | none =>
      cases cause : removalFailure? attempts id twins with
      | none => rfl
      | some _ => rw [failure, cause] at told; cases told
  | some _ =>
      cases cause : removalFailure? attempts id twins with
      | none => rw [failure, cause] at told; cases told
      | some _ =>
          rw [failure, cause] at told
          cases told
          rfl

namespace Registry

/-- Removing a notifier loses no update that rivals make meanwhile.  Each ID is
reported at most once, as its own calls tell; of each policy what the rivals left
last is kept, or kept without the notifier; other policies are not touched.  What
happens under an ID is the same in any other registry and beside any other rival
that agree on that ID. -/
theorem removeNotifier_keeps_updates [SizeLimit] {supply : LabelSupply} {registry : Registry}
    (reached : Reachable supply registry) (rival : Rival) (notifier : String) :
    ∃ changed calls,
      registry.removeNotifier rival.store notifier [] =
          (⟨"notifier removal", registry.ids.filterMap fun id =>
            removalFailure? 3 id (callsFor id calls)⟩, changed, calls) ∧
      (∀ id ∈ registry.ids, KeepsUpdates supply notifier id (registry.find? id)
        (callsFor id calls) (changed.find? id)) ∧
      (∀ id, id ∉ registry.ids → callsFor id calls = [] ∧ changed.find? id = none) ∧
      ∀ (id : String) (sibling : Registry) (other : Rival), Reachable supply sibling →
        sibling.version id = registry.version id → rival.AgreesOn id other →
          ∃ errors changedToo callsToo,
            sibling.removeNotifier other.store notifier [] = (errors, changedToo, callsToo) ∧
            (callsFor id calls).map StoreCall.content =
              (callsFor id callsToo).map StoreCall.content ∧
            removalFailure? 3 id (callsFor id calls) =
              removalFailure? 3 id (callsFor id callsToo) ∧
            changed.version id = changedToo.version id := by
  obtain ⟨rfl, coherent⟩ := reached.coherent
  obtain ⟨changed, calls, ends, runs, untouched, _⟩ :=
    removeNotifier_eq registry coherent rival notifier
  refine ⟨changed, calls, ends, ?_, untouched, ?_⟩
  · intro id member
    obtain ⟨before, result, _, run⟩ := runs id member
    exact run.keepsUpdates
  · intro id sibling other reachedToo sameVersion agree
    obtain ⟨sameSupply, coherentToo⟩ := reachedToo.coherent
    obtain ⟨changedToo, callsToo, endsToo, runsToo, untouchedToo, _⟩ :=
      removeNotifier_eq sibling coherentToo other notifier
    refine ⟨_, changedToo, callsToo, endsToo, ?_⟩
    by_cases member : id ∈ registry.ids
    · have memberToo : id ∈ sibling.ids := (mem_ids_iff_of_version_eq sameVersion).2 member
      obtain ⟨before, result, history, run⟩ := runs id member
      obtain ⟨beforeToo, resultToo, historyToo, runToo⟩ := runsToo id memberToo
      rw [sameSupply] at runToo
      have sameHistory : (callsFor id before).map StoreCall.content =
          (callsFor id beforeToo).map StoreCall.content := by rw [history, historyToo]
      obtain ⟨sameContents, sameResult, sameFinal⟩ :=
        run.contents_eq agree runToo sameHistory sameVersion.symm
      exact ⟨sameContents, run.removalFailure?_eq runToo sameResult, sameFinal⟩
    · have absentToo : id ∉ sibling.ids := fun present =>
        member ((mem_ids_iff_of_version_eq sameVersion).1 present)
      obtain ⟨noCalls, absent⟩ := untouched id member
      obtain ⟨noCallsToo, absentLater⟩ := untouchedToo id absentToo
      unfold version
      rw [noCalls, noCallsToo, absent, absentLater]
      exact ⟨rfl, rfl, rfl⟩

end Registry

def privilegedContainers (name : String) (notifiers : List String) : Policy where
  id := "privileged"
  name := name
  description := none
  severity := .high
  disabled := false
  stages := [.deploy]
  eventSource := .notApplicable
  categories := []
  sections := [⟨none, [⟨"Privileged Container", ["true"], false, none⟩]⟩]
  scopes := []
  exclusions := []
  notifiers := notifiers

/-- Rivals that install a policy while the first write is made, and then rest. -/
def Rival.installing (policy : Policy) : Rival where
  answer earlier _ := (if earlier.isEmpty then [.install policy] else [], .ok ())

/-- A policy that is renamed meanwhile is written twice, and keeps its new name. -/
theorem privilegedContainers_keeps_name :
    ∃ registry changed calls,
      Registry.Reachable .none registry ∧
        registry.removeNotifier
            (Rival.installing (privilegedContainers "Renamed" ["slack", "pager"])).store "slack"
            [] = (⟨"notifier removal", []⟩, changed, calls) ∧
        KeepsUpdates .none "slack" "privileged" (registry.find? "privileged")
          (callsFor "privileged" calls) (changed.find? "privileged") ∧
        calls.length = 2 ∧
        (changed.version "privileged").map CompiledPolicy.policy =
          some (privilegedContainers "Renamed" ["pager"]) := by
  obtain ⟨registry, installed⟩ : ∃ registry, (Registry.empty .none).upsert
      (privilegedContainers "Privileged" ["slack", "email"]) = .ok registry := ⟨_, rfl⟩
  have reached : Registry.Reachable .none registry := .upsert _ .empty installed
  let rival := Rival.installing (privilegedContainers "Renamed" ["slack", "pager"])
  obtain ⟨changed, calls, ends, kept, _⟩ :=
    Registry.removeNotifier_keeps_updates reached rival "slack"
  cases installed
  have isThere := kept "privileged" (by decide)
  obtain rfl : _ = changed := congrArg (fun outcome => outcome.2.1) ends
  obtain rfl : _ = calls := congrArg (fun outcome => outcome.2.2) ends
  exact ⟨_, _, _, reached, rfl, isThere, rfl, rfl⟩

end PolicyWatch
