import PolicyWatch.Proofs.Registry.NotifierRemoval
import PolicyWatch.Regex.Size

/-!
# Store and registry after the removal of a notifier

A policy is written to the store before it is published.  Main statement: where
nothing is reported of an ID, the last policy written is the one registered just
if that write was not disturbed, or the rivals installed that very policy.  A
write that was disturbed by the removal of the policy, or by a version that does
not name the notifier, is not made good.
-/

namespace PolicyWatch

namespace Removal

variable {rival : Rival} {supply : LabelSupply} {notifier id : String}
  {before calls : List StoreCall} {attempts : Nat} {original final : Option Entry}
  {result : Except Failure Unit}

theorem final_eq_of_no_calls [SizeLimit]
    (run : Removal rival supply notifier id before attempts original calls result final)
    (noCalls : calls = []) : final = original := by
  cases run with
  | exhausted => rfl
  | absent => rfl
  | unnamed => rfl
  | failed => cases noCalls
  | published => cases noCalls
  | retried => cases noCalls

/-- The last call of a removal that succeeds either was not disturbed, and what it
wrote is published, or was disturbed, and what it left stays. -/
theorem last_call [SizeLimit]
    (run : Removal rival supply notifier id before attempts original calls result final)
    (succeeded : result = .ok ()) {call : StoreCall} (isLast : calls.getLast? = some call) :
    (call.disturbed = false ∧
        final.map (fun entry => entry.compiled.policy) = some call.policy) ∨
      (call.disturbed = true ∧ final = call.left) := by
  induction run with
  | exhausted => cases succeeded
  | absent => cases isLast
  | unnamed => cases isLast
  | failed => cases succeeded
  | published _ made _ undisturbed _ =>
      obtain rfl := Option.some.inj isLast
      refine .inl ⟨undisturbed, ?_⟩
      rw [List.getLast_singleton, made.policy]
      rfl
  | @retried _ _ _ first rest _ _ _ _ disturbed later ih =>
      cases rest with
      | nil =>
          obtain rfl := Option.some.inj isLast
          exact .inr ⟨disturbed, later.final_eq_of_no_calls rfl⟩
      | cons next others =>
          rw [List.getLast?_cons_cons] at isLast
          exact ih succeeded isLast

end Removal

namespace Registry

/-- Where a removal reports nothing of an ID, the policy written last is the one
registered just if the write was not disturbed, or what the rivals left is that
very policy.  What a disturbed write leaves is not touched any more: no policy, or
one that does not name the notifier. -/
theorem removeNotifier_agrees_iff [SizeLimit] {supply : LabelSupply} {registry : Registry}
    (reached : Reachable supply registry) (rival : Rival) (notifier : String) :
    ∃ errors changed calls,
      registry.removeNotifier rival.store notifier [] = (errors, changed, calls) ∧
      ∀ id ∈ registry.ids, removalFailure? 3 id (callsFor id calls) = none →
        ∀ call, (callsFor id calls).getLast? = some call →
          ((changed.version id).map CompiledPolicy.policy = some call.policy ↔
            call.disturbed = false ∨
              call.left.map (fun entry => entry.compiled.policy) = some call.policy) ∧
          (call.disturbed = true → changed.find? id = call.left ∧
            ∀ entry, call.left = some entry →
              entry.compiled.policy.namesNotifier notifier = false) := by
  obtain ⟨changed, calls, ends, runs, _⟩ := removeNotifier_eq registry reached.coherent.2 rival
    notifier
  refine ⟨_, changed, calls, ends, ?_⟩
  intro id member unreported call isLast
  obtain ⟨before, result, _, run⟩ := runs id member
  have told := run.result_eq
  rw [show removalFailure? removalAttempts id (callsFor id calls) = none from unreported] at told
  have registered : (changed.version id).map CompiledPolicy.policy =
      (changed.find? id).map fun entry => entry.compiled.policy := by
    unfold version
    rw [Option.map_map]
    rfl
  rw [registered]
  rcases run.last_call told isLast with ⟨undisturbed, published⟩ | ⟨disturbed, stays⟩
  · refine ⟨iff_of_true published (.inl undisturbed), ?_⟩
    intro disturbed
    cases undisturbed.symm.trans disturbed
  · refine ⟨?_, fun _ => ⟨stays, fun entry isLeft => run.cleared told (stays.trans isLeft)⟩⟩
    rw [stays, disturbed]
    simp

end Registry

/-- A policy that is renamed during its first write agrees with the store after the
second. -/
theorem privilegedContainers_written_last :
    ∃ registry changed calls call,
      Registry.Reachable .none registry ∧
        registry.removeNotifier
            (Rival.installing (privilegedContainers "Renamed" ["slack", "pager"])).store "slack"
            [] = (⟨"notifier removal", []⟩, changed, calls) ∧
        (callsFor "privileged" calls).getLast? = some call ∧ call.disturbed = false ∧
        (changed.version "privileged").map CompiledPolicy.policy = some call.policy := by
  obtain ⟨registry, installed⟩ : ∃ registry, (Registry.empty .none).upsert
      (privilegedContainers "Privileged" ["slack", "email"]) = .ok registry := ⟨_, rfl⟩
  have reached : Registry.Reachable .none registry := .upsert _ .empty installed
  let rival := Rival.installing (privilegedContainers "Renamed" ["slack", "pager"])
  obtain ⟨errors, changed, calls, ends, agrees⟩ :=
    Registry.removeNotifier_agrees_iff reached rival "slack"
  cases installed
  obtain rfl : _ = changed := congrArg (fun outcome => outcome.2.1) ends
  obtain rfl : _ = calls := congrArg (fun outcome => outcome.2.2) ends
  have agreesThere := (agrees "privileged" (by decide) rfl _ rfl).1
  exact ⟨_, _, _, _, reached, rfl, rfl, rfl, agreesThere.2 (.inl rfl)⟩

/-- A policy that is replaced, during its only write, by a version that does not name
the notifier.  Nothing is reported, and the store keeps the older version. -/
theorem privilegedContainers_left_stale :
    ∃ registry changed calls,
      Registry.Reachable .none registry ∧
        registry.removeNotifier (Rival.installing (privilegedContainers "Renamed" [])).store
          "slack" [] = (⟨"notifier removal", []⟩, changed, calls) ∧
        calls.map StoreCall.policy = [privilegedContainers "Privileged" []] ∧
        (changed.version "privileged").map CompiledPolicy.policy =
          some (privilegedContainers "Renamed" []) ∧
        privilegedContainers "Renamed" [] ≠ privilegedContainers "Privileged" [] := by
  obtain ⟨registry, installed⟩ : ∃ registry, (Registry.empty .none).upsert
      (privilegedContainers "Privileged" ["slack"]) = .ok registry := ⟨_, rfl⟩
  have reached : Registry.Reachable .none registry := .upsert _ .empty installed
  cases installed
  exact ⟨_, _, _, reached, rfl, rfl, rfl, by decide⟩

end PolicyWatch
