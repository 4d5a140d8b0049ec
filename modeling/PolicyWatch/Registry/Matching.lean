import PolicyWatch.CompiledPolicy.Matching
import PolicyWatch.Registry.Basic

/-!
# Matching an event against all policies

Every eligible policy is matched.  One that fails is reported and does not stop
the others; labels looked up for one policy serve the others.
-/

namespace PolicyWatch

/-- What came of matching an event against all policies. -/
structure MatchOutcome where
  alerts : List Alert
  errors : FailureList
  deriving DecidableEq

/-- The state of a pass over all policies: the labels known, and the alerts
raised so far, newest first. -/
structure MatchPass where
  cache : LabelCache
  raised : List Alert

namespace MatchPass

def visit (answers : LabelAnswers) (now : Instant) (event : Event) (compiled : CompiledPolicy)
    (pass : MatchPass) : Except Failure Unit × MatchPass :=
  if compiled.isEligible event then
    match compiled.violations answers now event pass.cache with
    | (.ok [], learned) => (.ok (), ⟨learned, pass.raised⟩)
    | (.ok violations, learned) =>
        (.ok (), ⟨learned, Alert.raise compiled.policy event violations :: pass.raised⟩)
    | (.error error, learned) => (.error ⟨error.messages⟩, ⟨learned, pass.raised⟩)
  else (.ok (), pass)

end MatchPass

namespace Registry

/-- Match an event against every policy, with no labels known at first.  The
look-ups made are left in the cache. -/
def matchAll (registry : Registry) (answers : LabelAnswers) (now : Instant) (event : Event) :
    MatchOutcome × LabelCache :=
  let (errors, pass) := registry.visitAll (MatchPass.visit answers now event)
    ⟨LabelCache.empty, []⟩
  (⟨pass.raised.reverse, errors⟩, pass.cache)

end Registry

end PolicyWatch
