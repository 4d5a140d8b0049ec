import PolicyWatch.Proofs.Registry.Rival

/-!
# Removing a notifier from one policy

Each attempt to drop a notifier from a policy ends in one of a few ways, whatever
rivals do meanwhile; a removal is a row of attempts.  Main statements: dropping a
notifier is a removal, and what a removal reports and leaves is told by its calls.
-/

namespace PolicyWatch

/-- The failure of a removal whose every attempt was disturbed. -/
def keptChanging (id : String) : Failure :=
  .ofMessage ("policy '" ++ id ++ "' kept changing during notifier removal")

def updateFailed (id : String) (failure : Failure) : Failure :=
  failure.within ("updating policy '" ++ id ++ "'")

/-! ## Attempts -/

section

variable (rival : Rival) (supply : LabelSupply) (notifier id : String)

/-- What holds of the call that writes an entry without a notifier, after earlier
calls. -/
structure StoreCall.Rewrites [SizeLimit] (earlier : List StoreCall) (entry : Entry)
    (call : StoreCall) :
    Prop where
  id_eq : entry.id = id
  named : entry.compiled.policy.namesNotifier notifier = true
  policy : call.policy = entry.compiled.policy.withoutNotifier notifier
  answer : rival.answer earlier call.policy = (call.acts, call.result)
  found : call.found = some entry
  version : call.left.map Entry.compiled =
    call.acts.foldl (Interference.versionAfter supply id) (some entry.compiled)
  disturbed_iff : call.disturbed = true ↔ ∃ act ∈ call.acts, act.TakesEffect supply id
  left_eq : call.disturbed = false → call.left = some entry

/-- The removal of a notifier from the entry under an ID, in a number of attempts:
the calls that it makes after earlier ones, its result and the entry at the end. -/
inductive Removal [SizeLimit] : List StoreCall → Nat → Option Entry → List StoreCall →
    Except Failure Unit → Option Entry → Prop where
  | exhausted (earlier : List StoreCall) (held? : Option Entry) :
      Removal earlier 0 held? [] (.error (keptChanging id)) held?
  | absent (earlier : List StoreCall) (attempts : Nat) :
      Removal earlier (attempts + 1) none [] (.ok ()) none
  | unnamed (earlier : List StoreCall) (attempts : Nat) {entry : Entry}
      (unnamed : entry.compiled.policy.namesNotifier notifier = false) :
      Removal earlier (attempts + 1) (some entry) [] (.ok ()) (some entry)
  | failed {earlier : List StoreCall} (attempts : Nat) {entry : Entry} {call : StoreCall}
      {failure : Failure} (made : call.Rewrites rival supply notifier id earlier entry)
      (result : call.result = .error failure) :
      Removal earlier (attempts + 1) (some entry) [call] (.error (updateFailed id failure))
        call.left
  | published {earlier : List StoreCall} (attempts : Nat) {entry : Entry} {call : StoreCall}
      (made : call.Rewrites rival supply notifier id earlier entry)
      (result : call.result = .ok ()) (undisturbed : call.disturbed = false) (stamp : Nat) :
      Removal earlier (attempts + 1) (some entry) [call] (.ok ())
        (some ⟨stamp, entry.compiled.withoutNotifier notifier⟩)
  | retried {earlier : List StoreCall} {attempts : Nat} {entry : Entry} {call : StoreCall}
      {calls : List StoreCall} {result : Except Failure Unit} {final : Option Entry}
      (made : call.Rewrites rival supply notifier id earlier entry)
      (passed : call.result = .ok ()) (disturbed : call.disturbed = true)
      (rest : Removal (earlier ++ [call]) attempts call.left calls result final) :
      Removal earlier (attempts + 1) (some entry) (call :: calls) result final

end

namespace Registry

variable {rival : Rival} {notifier id : String} {registry : Registry} {entry : Entry}
  {earlier : List StoreCall} {call : StoreCall}

theorem find?_interfere_call [SizeLimit] (found : registry.find? id = some entry)
    (isCall : rival.call (entry.compiled.policy.withoutNotifier notifier) registry earlier = call) :
    (registry.interfere id call.acts).find? id = call.left := by
  have sameId : (entry.compiled.policy.withoutNotifier notifier).id = id := id_of_find? found
  subst isCall
  change _ = (registry.interfere (entry.compiled.policy.withoutNotifier notifier).id _).find?
    (entry.compiled.policy.withoutNotifier notifier).id
  rw [sameId]
  rfl

theorem rewrites_call [SizeLimit] (found : registry.find? id = some entry)
    (named : entry.compiled.policy.namesNotifier notifier = true)
    (isCall : rival.call (entry.compiled.policy.withoutNotifier notifier) registry earlier = call) :
    call.Rewrites rival registry.supply notifier id earlier entry := by
  have sameId : entry.compiled.policy.id = id := id_of_find? found
  have left := find?_interfere_call found isCall
  have isFound : call.found = some entry := by
    rw [← isCall, ← found, ← sameId]
    rfl
  have stampBefore : call.found.map Entry.stamp = some entry.stamp := by
    rw [isFound, Option.map_some]
  -- An entry with the old stamp is not among those installed meanwhile.
  have notNew : (∀ remaining, call.left = some remaining → registry.nextStamp ≤ remaining.stamp) →
      call.left.map Entry.stamp ≠ some entry.stamp := by
    intro new same
    obtain ⟨remaining, isLeft, sameStamp⟩ := Option.map_eq_some_iff.1 same
    have isNew := new remaining isLeft
    have isOld := stamp_lt_of_find? found
    omega
  have outcome := registry.interfere_cases id call.acts
  rw [left] at outcome
  refine ⟨sameId, named, by rw [← isCall]; rfl, by rw [← isCall]; rfl, isFound, ?_, ?_, ?_⟩
  · have after := registry.version_interfere id call.acts
    rw [version, version, found, left] at after
    exact after
  · unfold StoreCall.disturbed
    rw [stampBefore, bne_iff_ne]
    rcases outcome with ⟨idle, same⟩ | ⟨effective, new⟩
    · have unchanged : call.left = some entry := by rw [← left, same, found]
      refine iff_of_false (fun differ => differ (by rw [unchanged, Option.map_some])) ?_
      rintro ⟨act, member, takes⟩
      exact idle act member takes
    · exact iff_of_true (notNew new) effective
  · intro undisturbed
    unfold StoreCall.disturbed at undisturbed
    rw [stampBefore, bne_eq_false_iff_eq] at undisturbed
    rcases outcome with ⟨_, same⟩ | ⟨_, new⟩
    · rw [← left, same, found]
    · exact absurd undisturbed (notNew new)

theorem replace?_eq (registry : Registry) (current : Entry) (compiled : CompiledPolicy) :
    registry.replace? current compiled =
      if (registry.find? current.id).map Entry.stamp = some current.stamp then
        some (registry.insert compiled)
      else none := by
  unfold replace?
  cases registry.find? current.id with
  | none => rfl
  | some there =>
      rw [Option.map_some]
      simp only [Option.some_inj]

theorem removeNotifierFrom_succ [SizeLimit] (coherent : registry.Coherent)
    (found : registry.find? id = some entry)
    (named : entry.compiled.policy.namesNotifier notifier = true) (attempts : Nat)
    (isCall : rival.call (entry.compiled.policy.withoutNotifier notifier) registry earlier = call) :
    removeNotifierFrom rival.store notifier id (attempts + 1) registry earlier =
      match call.result with
      | .error failure =>
          (.error (updateFailed id failure), registry.interfere id call.acts, earlier ++ [call])
      | .ok () =>
          if call.disturbed then
            removeNotifierFrom rival.store notifier id attempts (registry.interfere id call.acts)
              (earlier ++ [call])
          else
            (.ok (),
              (registry.interfere id call.acts).insert (entry.compiled.withoutNotifier notifier),
              earlier ++ [call]) := by
  have made := rewrites_call found named isCall
  have left := find?_interfere_call found isCall
  have frame := ChangedAt.interfere registry id call.acts
  have updatedId : (entry.compiled.policy.withoutNotifier notifier).id = id := made.id_eq
  have written : rival.store.update (entry.compiled.policy.withoutNotifier notifier) registry
      earlier = (call.result, registry.interfere id call.acts, earlier ++ [call]) := by
    rw [← updatedId, ← isCall]
    rfl
  have compiles : CompiledPolicy.compile (registry.interfere id call.acts).supply
      (entry.compiled.policy.withoutNotifier notifier) =
        .ok (entry.compiled.withoutNotifier notifier) := by
    rw [frame.supply]
    exact CompiledPolicy.compile_withoutNotifier (coherent entry (mem_of_find? found)) notifier
  have disturbed : call.disturbed = (call.left.map Entry.stamp != some entry.stamp) := by
    unfold StoreCall.disturbed
    rw [made.found]
    rfl
  rw [removeNotifierFrom]
  simp only [found, named, if_true, written]
  cases call.result with
  | error => rfl
  | ok =>
      simp only [compiles, replace?_eq, made.id_eq, left, disturbed]
      by_cases same : call.left.map Entry.stamp = some entry.stamp
      · simp [same]
      · simp [same]

/-- Dropping a notifier from the policy under an ID is a removal, and changes
nothing under other IDs. -/
theorem removal_of_removeNotifierFrom [SizeLimit] (rival : Rival) (notifier id : String)
    (attempts : Nat)
    {registry : Registry} (coherent : registry.Coherent) (earlier : List StoreCall) :
    ∃ calls result changed,
      removeNotifierFrom rival.store notifier id attempts registry earlier =
          (result, changed, earlier ++ calls) ∧
        Removal rival registry.supply notifier id earlier attempts (registry.find? id) calls
          result (changed.find? id) ∧
        ChangedAt id registry changed := by
  induction attempts generalizing registry earlier with
  | zero =>
      refine ⟨[], .error (keptChanging id), registry, ?_, .exhausted earlier _, .refl id registry⟩
      rw [List.append_nil]
      rfl
  | succ attempts ih =>
      cases found : registry.find? id with
      | none =>
          refine ⟨[], .ok (), registry, ?_, ?_, .refl id registry⟩
          · simp only [removeNotifierFrom, found, List.append_nil]
          · rw [found]
            exact .absent earlier attempts
      | some entry =>
          cases named : entry.compiled.policy.namesNotifier notifier with
          | false =>
              refine ⟨[], .ok (), registry, ?_, ?_, .refl id registry⟩
              · simp [removeNotifierFrom, found, named]
              · rw [found]
                exact .unnamed earlier attempts named
          | true =>
              obtain ⟨call, isCall⟩ : ∃ call, rival.call
                  (entry.compiled.policy.withoutNotifier notifier) registry earlier = call :=
                ⟨_, rfl⟩
              have made := rewrites_call found named isCall
              have left := find?_interfere_call found isCall
              have frame := ChangedAt.interfere registry id call.acts
              rw [removeNotifierFrom_succ coherent found named attempts isCall]
              cases answered : call.result with
              | error failure =>
                  refine ⟨[call], .error (updateFailed id failure), _, rfl, ?_, frame⟩
                  rw [left]
                  exact .failed attempts made answered
              | ok =>
                  cases disturbed : call.disturbed with
                  | false =>
                      have sameId : (entry.compiled.withoutNotifier notifier).id = id :=
                        made.id_eq
                      have compiles := CompiledPolicy.compile_withoutNotifier
                        (coherent entry (mem_of_find? found)) notifier
                      rw [← frame.supply] at compiles
                      have publishes := ChangedAt.insert compiles
                      have entryId : entry.compiled.policy.id = id := made.id_eq
                      rw [Policy.withoutNotifier_id, entryId] at publishes
                      refine ⟨[call], .ok (), _, rfl, ?_, ?_⟩
                      · rw [find?_insert, if_pos sameId]
                        exact .published attempts made answered disturbed _
                      · exact frame.trans publishes
                  | true =>
                      obtain ⟨calls, result, final, ends, rest, after⟩ :=
                        ih (frame.coherent coherent) (earlier ++ [call])
                      rw [left, frame.supply] at rest
                      refine ⟨call :: calls, result, final, ?_, ?_, frame.trans after⟩
                      · rw [if_pos rfl, ends, List.append_assoc]
                        rfl
                      · exact .retried made answered disturbed rest

end Registry

/-! ## What a removal leaves -/

/-- Whether each call finds what was left by the call before it. -/
def Linked : Option Entry → List StoreCall → Prop
  | _, [] => True
  | held?, call :: rest => call.found = held? ∧ Linked call.left rest

def leftByOthers (original : Option Entry) (calls : List StoreCall) : Option Entry :=
  calls.foldl (fun _ call => call.left) original

/-- The failure reported under an ID, given the calls about it. -/
def removalFailure? (attempts : Nat) (id : String) (calls : List StoreCall) : Option Failure :=
  match calls.findSome? StoreCall.failure? with
  | some failure => some (updateFailed id failure)
  | none =>
      if calls.length = attempts ∧ calls.all StoreCall.disturbed then some (keptChanging id)
      else none

theorem removalFailure?_cons {attempts : Nat} (id : String) {call : StoreCall}
    (calls : List StoreCall) (passed : call.result = .ok ()) (disturbed : call.disturbed = true) :
    removalFailure? (attempts + 1) id (call :: calls) = removalFailure? attempts id calls := by
  simp [removalFailure?, StoreCall.failure?, passed, disturbed]

theorem removalFailure?_isSome_iff (attempts : Nat) (id : String) (calls : List StoreCall) :
    (removalFailure? attempts id calls).isSome = true ↔
      (∃ call ∈ calls, ∃ failure, call.result = .error failure) ∨
        calls.length = attempts ∧ ∀ call ∈ calls, call.disturbed = true := by
  have fails : ∀ call : StoreCall,
      call.failure? = none ↔ ¬ ∃ failure, call.result = .error failure := by
    intro call
    unfold StoreCall.failure?
    cases call.result <;> simp
  unfold removalFailure?
  cases failed : calls.findSome? StoreCall.failure? with
  | some failure =>
      obtain ⟨call, member, isFailure⟩ := List.exists_of_findSome?_eq_some failed
      refine iff_of_true rfl (.inl ⟨call, member, ?_⟩)
      by_contra passed
      rw [(fails call).2 passed] at isFailure
      cases isFailure
  | none =>
      have passed : ¬ ∃ call ∈ calls, ∃ failure, call.result = .error failure := by
        rintro ⟨call, member, failing⟩
        exact (fails call).1 (List.findSome?_eq_none_iff.1 failed call member) failing
      rw [or_iff_right passed]
      simp

namespace Removal

variable {rival : Rival} {supply : LabelSupply} {notifier id : String}
  {earlier calls : List StoreCall} {attempts : Nat} {held? final : Option Entry}
  {result : Except Failure Unit}

theorem length_le [SizeLimit]
    (run : Removal rival supply notifier id earlier attempts held? calls result final) :
    calls.length ≤ attempts := by
  induction run with
  | exhausted => exact Nat.le_refl 0
  | absent => exact Nat.zero_le _
  | unnamed => exact Nat.zero_le _
  | failed => exact Nat.succ_le_succ (Nat.zero_le _)
  | published => exact Nat.succ_le_succ (Nat.zero_le _)
  | retried _ _ _ _ ih => exact Nat.succ_le_succ ih

/-- Every call writes the entry that it found, without the notifier. -/
theorem rewrites [SizeLimit]
    (run : Removal rival supply notifier id earlier attempts held? calls result final) :
    ∀ call ∈ calls, ∃ before entry, call.Rewrites rival supply notifier id before entry := by
  induction run with
  | exhausted => simp
  | absent => simp
  | unnamed => simp
  | failed _ made _ => exact List.forall_mem_singleton.2 ⟨_, _, made⟩
  | published _ made _ _ _ => exact List.forall_mem_singleton.2 ⟨_, _, made⟩
  | retried made _ _ _ ih => exact List.forall_mem_cons.2 ⟨⟨_, _, made⟩, ih⟩

theorem linked [SizeLimit]
    (run : Removal rival supply notifier id earlier attempts held? calls result final) :
    Linked held? calls := by
  induction run with
  | exhausted => trivial
  | absent => trivial
  | unnamed => trivial
  | failed _ made _ => exact ⟨made.found, trivial⟩
  | published _ made _ _ _ => exact ⟨made.found, trivial⟩
  | retried made _ _ _ ih => exact ⟨made.found, ih⟩

theorem final_eq [SizeLimit]
    (run : Removal rival supply notifier id earlier attempts held? calls result final) :
    final = leftByOthers held? calls ∨
      ∃ entry stamp, leftByOthers held? calls = some entry ∧
        entry.compiled.policy.namesNotifier notifier = true ∧
        final = some ⟨stamp, entry.compiled.withoutNotifier notifier⟩ := by
  induction run with
  | exhausted => exact .inl rfl
  | absent => exact .inl rfl
  | unnamed => exact .inl rfl
  | failed => exact .inl rfl
  | published _ made _ undisturbed stamp =>
      exact .inr ⟨_, stamp, made.left_eq undisturbed, made.named, rfl⟩
  | retried _ _ _ _ ih => exact ih

theorem cleared [SizeLimit]
    (run : Removal rival supply notifier id earlier attempts held? calls result final)
    (succeeded : result = .ok ()) {entry : Entry} (isFinal : final = some entry) :
    entry.compiled.policy.namesNotifier notifier = false := by
  induction run with
  | exhausted => cases succeeded
  | absent => cases isFinal
  | unnamed _ _ unnamed =>
      cases isFinal
      exact unnamed
  | failed => cases succeeded
  | published =>
      cases isFinal
      exact Policy.namesNotifier_withoutNotifier _ notifier
  | retried _ _ _ _ ih => exact ih succeeded isFinal

theorem result_eq [SizeLimit]
    (run : Removal rival supply notifier id earlier attempts held? calls result final) :
    result = match removalFailure? attempts id calls with
      | some failure => .error failure
      | none => .ok () := by
  induction run with
  | exhausted => rfl
  | absent => simp [removalFailure?]
  | unnamed => simp [removalFailure?]
  | failed _ _ refused => simp [removalFailure?, StoreCall.failure?, refused]
  | published _ _ passed undisturbed _ =>
      simp [removalFailure?, StoreCall.failure?, passed, undisturbed]
  | retried _ passed disturbed _ ih => rw [ih, removalFailure?_cons id _ passed disturbed]

theorem policyId_of_rewrites [SizeLimit] {before : List StoreCall} {entry : Entry}
    {call : StoreCall}
    (made : call.Rewrites rival supply notifier id before entry) : call.policy.id = id := by
  rw [made.policy, Policy.withoutNotifier_id]
  exact made.id_eq

/-- Calls that write versions of one policy after calls of the same content have the same content,
and leave the same version. -/
theorem content_eq [SizeLimit] {other : Rival} (agree : Rival.AgreesOn id rival other)
    {before : List StoreCall} {entry sibling : Entry} {call twin : StoreCall}
    (made : call.Rewrites rival supply notifier id earlier entry)
    (madeToo : twin.Rewrites other supply notifier id before sibling)
    (sameHistory : (callsFor id earlier).map StoreCall.content =
      (callsFor id before).map StoreCall.content)
    (sameVersion : entry.compiled = sibling.compiled) :
    call.content = twin.content ∧ call.left.map Entry.compiled = twin.left.map Entry.compiled ∧
      call.disturbed = twin.disturbed := by
  have samePolicy : call.policy = twin.policy := by
    rw [made.policy, madeToo.policy, sameVersion]
  have sameAnswer : (call.acts, call.result) = (twin.acts, twin.result) := by
    rw [← made.answer, ← madeToo.answer, ← samePolicy]
    exact agree earlier before call.policy (policyId_of_rewrites made) sameHistory
  obtain ⟨sameActs, sameResult⟩ := Prod.mk.inj sameAnswer
  refine ⟨?_, ?_, ?_⟩
  · unfold StoreCall.content
    rw [samePolicy, sameActs, sameResult]
  · rw [made.version, madeToo.version, sameActs, sameVersion]
  · rw [Bool.eq_iff_iff, made.disturbed_iff, madeToo.disturbed_iff, sameActs]

theorem of_none [SizeLimit]
    (run : Removal rival supply notifier id earlier (attempts + 1) none calls result
      final) :
    calls = [] ∧ result = .ok () ∧ final = none := by
  cases run
  exact ⟨rfl, rfl, rfl⟩

theorem of_unnamed [SizeLimit] {entry : Entry}
    (unnamed : entry.compiled.policy.namesNotifier notifier = false)
    (run : Removal rival supply notifier id earlier (attempts + 1) (some entry) calls result
      final) :
    calls = [] ∧ result = .ok () ∧ final = some entry := by
  cases run with
  | unnamed => exact ⟨rfl, rfl, rfl⟩
  | failed _ made => exact absurd made.named (by rw [unnamed]; decide)
  | published _ made => exact absurd made.named (by rw [unnamed]; decide)
  | retried made => exact absurd made.named (by rw [unnamed]; decide)

/-- An entry that names the notifier is written, and what follows depends on the
answer of the store and on whether the entry was changed meanwhile. -/
theorem of_named [SizeLimit] {entry : Entry}
    (named : entry.compiled.policy.namesNotifier notifier = true)
    (run : Removal rival supply notifier id earlier (attempts + 1) (some entry) calls result
      final) :
    ∃ call rest, calls = call :: rest ∧ call.Rewrites rival supply notifier id earlier entry ∧
      (∀ failure, call.result = .error failure →
        rest = [] ∧ result = .error (updateFailed id failure) ∧ final = call.left) ∧
      (call.result = .ok () → call.disturbed = false →
        rest = [] ∧ result = .ok () ∧
          ∃ stamp, final = some ⟨stamp, entry.compiled.withoutNotifier notifier⟩) ∧
      (call.result = .ok () → call.disturbed = true →
        Removal rival supply notifier id (earlier ++ [call]) attempts call.left rest result
          final) := by
  cases run with
  | unnamed _ _ unnamed => exact absurd named (by rw [unnamed]; decide)
  | failed _ made refused =>
      refine ⟨_, [], rfl, made, ?_, ?_, ?_⟩
      · intro failure same
        cases refused.symm.trans same
        exact ⟨rfl, rfl, rfl⟩
      · exact fun passed => nomatch refused.symm.trans passed
      · exact fun passed => nomatch refused.symm.trans passed
  | published _ made passed undisturbed stamp =>
      refine ⟨_, [], rfl, made, ?_, fun _ _ => ⟨rfl, rfl, stamp, rfl⟩, ?_⟩
      · exact fun _ refused => nomatch passed.symm.trans refused
      · exact fun _ disturbed => nomatch undisturbed.symm.trans disturbed
  | retried made passed disturbed rest =>
      refine ⟨_, _, rfl, made, ?_, ?_, fun _ _ => rest⟩
      · exact fun _ refused => nomatch passed.symm.trans refused
      · exact fun _ undisturbed => nomatch undisturbed.symm.trans disturbed

theorem callsFor_append_of_rewrites [SizeLimit] {before : List StoreCall} {entry : Entry}
    {call : StoreCall} (made : call.Rewrites rival supply notifier id before entry) :
    callsFor id (earlier ++ [call]) = callsFor id earlier ++ [call] := by
  have mine : (call.policy.id == id) = true := beq_iff_eq.2 (policyId_of_rewrites made)
  unfold callsFor
  rw [List.filter_append, List.filter_cons, if_pos mine]
  rfl

/-- Histories of the same content keep the same content when each grows by a call of the same
content. -/
theorem history_append [SizeLimit] {other : Rival} {before : List StoreCall}
    {entry sibling : Entry} {call twin : StoreCall}
    (made : call.Rewrites rival supply notifier id earlier entry)
    (madeToo : twin.Rewrites other supply notifier id before sibling)
    (sameHistory : (callsFor id earlier).map StoreCall.content =
      (callsFor id before).map StoreCall.content)
    (sameContent : call.content = twin.content) :
    (callsFor id (earlier ++ [call])).map StoreCall.content =
      (callsFor id (before ++ [twin])).map StoreCall.content := by
  rw [callsFor_append_of_rewrites made, callsFor_append_of_rewrites madeToo, List.map_append,
    List.map_append, sameHistory, List.map_singleton, List.map_singleton, sameContent]

theorem contents_eq [SizeLimit] {other : Rival} (agree : Rival.AgreesOn id rival other)
    {before twins : List StoreCall} {sibling? last : Option Entry}
    {outcome : Except Failure Unit}
    (run : Removal rival supply notifier id earlier attempts held? calls result final)
    (runToo : Removal other supply notifier id before attempts sibling? twins outcome last)
    (sameHistory : (callsFor id earlier).map StoreCall.content =
      (callsFor id before).map StoreCall.content)
    (sameVersion : held?.map Entry.compiled = sibling?.map Entry.compiled) :
    calls.map StoreCall.content = twins.map StoreCall.content ∧ result = outcome ∧
      final.map Entry.compiled = last.map Entry.compiled := by
  induction attempts generalizing earlier before held? sibling? calls twins with
  | zero =>
      cases run
      cases runToo
      exact ⟨rfl, rfl, sameVersion⟩
  | succ attempts ih =>
      cases held? with
      | none =>
          rw [Option.map_none, eq_comm, Option.map_eq_none_iff] at sameVersion
          subst sameVersion
          obtain ⟨rfl, rfl, rfl⟩ := of_none run
          obtain ⟨rfl, rfl, rfl⟩ := of_none runToo
          exact ⟨rfl, rfl, rfl⟩
      | some entry =>
          obtain ⟨sibling, rfl, same⟩ := Option.map_eq_some_iff.1 sameVersion.symm
          cases named : entry.compiled.policy.namesNotifier notifier with
          | false =>
              obtain ⟨rfl, rfl, rfl⟩ := of_unnamed named run
              rw [← same] at named
              obtain ⟨rfl, rfl, rfl⟩ := of_unnamed named runToo
              exact ⟨rfl, rfl, sameVersion⟩
          | true =>
              obtain ⟨call, rest, rfl, made, failed, published, retried⟩ := of_named named run
              rw [← same] at named
              obtain ⟨twin, restToo, rfl, madeToo, failedToo, publishedToo, retriedToo⟩ :=
                of_named named runToo
              obtain ⟨sameContent, sameLeft, sameDisturbed⟩ :=
                content_eq agree made madeToo sameHistory same.symm
              have sameResult : call.result = twin.result := congrArg (·.2.2) sameContent
              cases answered : call.result with
              | error failure =>
                  obtain ⟨rfl, rfl, rfl⟩ := failed failure answered
                  obtain ⟨rfl, rfl, rfl⟩ := failedToo failure (sameResult ▸ answered)
                  exact ⟨by rw [List.map_singleton, List.map_singleton, sameContent], rfl, sameLeft⟩
              | ok =>
                  have answeredToo : twin.result = .ok () := sameResult ▸ answered
                  cases disturbed : call.disturbed with
                  | false =>
                      obtain ⟨rfl, rfl, stamp, rfl⟩ := published answered disturbed
                      obtain ⟨rfl, rfl, stampToo, rfl⟩ :=
                        publishedToo answeredToo (sameDisturbed ▸ disturbed)
                      refine ⟨by rw [List.map_singleton, List.map_singleton, sameContent], rfl, ?_⟩
                      rw [Option.map_some, Option.map_some, same]
                  | true =>
                      have later := retried answered disturbed
                      have laterToo := retriedToo answeredToo (sameDisturbed ▸ disturbed)
                      have history := history_append made madeToo sameHistory sameContent
                      obtain ⟨sameContents, sameEnd, sameFinal⟩ :=
                        ih later laterToo history sameLeft
                      refine ⟨?_, sameEnd, sameFinal⟩
                      rw [List.map_cons, List.map_cons, sameContent, sameContents]

theorem callsFor_self [SizeLimit]
    (run : Removal rival supply notifier id earlier attempts held? calls result final) :
    callsFor id calls = calls := by
  refine List.filter_eq_self.2 fun call member => ?_
  obtain ⟨_, _, made⟩ := run.rewrites call member
  exact beq_iff_eq.2 (policyId_of_rewrites made)

theorem callsFor_other [SizeLimit]
    (run : Removal rival supply notifier id earlier attempts held? calls result final)
    {other : String} (apart : other ≠ id) : callsFor other calls = [] := by
  refine List.filter_eq_nil_iff.2 fun call member isOther => ?_
  obtain ⟨_, _, made⟩ := run.rewrites call member
  exact apart ((beq_iff_eq.1 isOther).symm.trans (policyId_of_rewrites made))

end Removal

end PolicyWatch
