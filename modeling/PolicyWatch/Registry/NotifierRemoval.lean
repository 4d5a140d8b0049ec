import PolicyWatch.Registry.Basic

/-!
# Removing a notifier

A notifier is dropped from every policy that names it.  Each changed policy is
first written to a store and then put in place of the entry it was derived from,
if that is still there; else the newer entry is changed instead, a limited
number of times.
-/

namespace PolicyWatch

/-- A store that policies are written to.  While it writes, others may change
the registry. -/
structure PolicyStore (σ : Type) where
  update : Policy → Registry → σ → Except Failure Unit × Registry × σ

namespace Policy

def namesNotifier (policy : Policy) (notifier : String) : Bool :=
  policy.notifiers.contains notifier

def withoutNotifier (policy : Policy) (notifier : String) : Policy :=
  { policy with notifiers := policy.notifiers.filter (· != notifier) }

end Policy

namespace Registry

variable {σ : Type}

/-- The number of times that one policy is changed at most. -/
def removalAttempts : Nat := 3

/-- Drop a notifier from the policy under an ID, in a number of attempts. -/
def removeNotifierFrom [SizeLimit] (store : PolicyStore σ) (notifier id : String) :
    Nat → Registry → σ → Except Failure Unit × Registry × σ
  | 0, registry, state =>
      (.error (.ofMessage ("policy '" ++ id ++ "' kept changing during notifier removal")),
        registry, state)
  | attempts + 1, registry, state =>
      match registry.find? id with
      | none => (.ok (), registry, state)
      | some current =>
          if current.compiled.policy.namesNotifier notifier then
            let updated := current.compiled.policy.withoutNotifier notifier
            match store.update updated registry state with
            | (.error failure, changed, next) =>
                (.error (failure.within ("updating policy '" ++ id ++ "'")), changed, next)
            | (.ok (), changed, next) =>
                match CompiledPolicy.compile changed.supply updated with
                | .error error =>
                    (.error (error.failure.within ("re-upserting policy '" ++ id ++ "'")),
                      changed, next)
                | .ok compiled =>
                    match changed.replace? current compiled with
                    | some published => (.ok (), published, next)
                    | none => removeNotifierFrom store notifier id attempts changed next
          else (.ok (), registry, state)

/-- Drop a notifier from the policies under IDs, in order. -/
def removeNotifierFromEach [SizeLimit] (store : PolicyStore σ) (notifier : String) :
    List String → Registry → σ → List Failure × Registry × σ
  | [], registry, state => ([], registry, state)
  | id :: rest, registry, state =>
      let (result, changed, next) :=
        removeNotifierFrom store notifier id removalAttempts registry state
      let (failures, last, final) := removeNotifierFromEach store notifier rest changed next
      match result with
      | .ok () => (failures, last, final)
      | .error failure => (failure :: failures, last, final)

def removeNotifier [SizeLimit] (registry : Registry) (store : PolicyStore σ) (notifier : String)
    (state : σ) :
    FailureList × Registry × σ :=
  let (failures, changed, final) :=
    removeNotifierFromEach store notifier registry.ids registry state
  (⟨"notifier removal", failures⟩, changed, final)

end Registry

end PolicyWatch
