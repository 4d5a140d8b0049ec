import PolicyWatch.Proofs.CompiledPolicy.Inquiry

/-!
# Sessions with shared labels

A session shares one cache of labels between calls, with resets in between and
with look-ups that may answer differently from call to call.  Main statement:
every call returns what it would return without a cache if each ID answered as
it first did, with success, since the last reset.
-/

namespace PolicyWatch

/-- A look-up that was made, with what it answered. -/
structure Lookup where
  key : LabelKind × String
  answer : LabelAnswer

/-- Whether a look-up let labels, or their absence, be known. -/
def Lookup.isSuccessful (lookup : Lookup) : Bool :=
  lookup.answer.labels?.isSome

/-- The first successful answer under an ID among look-ups in order. -/
def firstAnswer (log : List Lookup) (kind : LabelKind) (id : String) : Option (Option LabelMap) :=
  log.findSome? fun lookup => if lookup.key = (kind, id) then lookup.answer.labels? else none

/-- What every look-up would answer if first successful answers took precedence. -/
def frozen (log : List Lookup) (answers : LabelAnswers) : LabelAnswers := fun kind id =>
  match firstAnswer log kind id with
  | some labels => .ofLabels labels
  | none => answers kind id

def lookUpEach (answers : LabelAnswers) (keys : List (LabelKind × String)) : List Lookup :=
  keys.map fun key => ⟨key, answers key.1 key.2⟩

inductive LabelCall where
  | covers (resolver : ScopeResolver) (place : Place)
  | violations (compiled : CompiledPolicy) (now : Instant) (event : Event)

/-- What a call returns. -/
inductive LabelReply where
  | covered (result : Except LookupFault Bool)
  | found (result : Except EvaluationError (List Violation))

namespace LabelCall

def perform (answers : LabelAnswers) (cache : LabelCache) : LabelCall → LabelReply × LabelCache
  | covers resolver place =>
      let (result, learned) := resolver.covers answers place cache
      (.covered result, learned)
  | violations compiled now event =>
      let (result, learned) := compiled.violations answers now event cache
      (.found result, learned)

/-- What a call returns without a cache. -/
def direct (answers : LabelAnswers) : LabelCall → LabelReply
  | covers resolver place => .covered ((resolver.inquiry place).direct answers)
  | violations compiled now event =>
      .found (((compiled.inquiry now event).direct answers).mapError (.ofFault compiled.id))

/-- The IDs that a call asks for without a cache, in order and with repeats. -/
def needed (answers : LabelAnswers) : LabelCall → List (LabelKind × String)
  | covers resolver place => (resolver.inquiry place).needed answers
  | violations compiled now event => (compiled.inquiry now event).needed answers

theorem perform_eq (answers : LabelAnswers) (cache : LabelCache) (call : LabelCall) :
    call.perform answers cache =
      (call.direct (cache.overlay answers),
        cache.learn answers (cache.unknownOf (call.needed (cache.overlay answers)))) := by
  cases call with
  | covers resolver place =>
      simp only [perform, ScopeResolver.covers_eq_through, Inquiry.through_eq, direct, needed]
  | violations compiled now event =>
      simp only [perform, CompiledPolicy.violations_eq_through, Inquiry.through_eq, direct, needed]

end LabelCall

/-- What happens to a shared cache: a call, with what look-ups answer at its
time, or a reset. -/
inductive LabelAction where
  | call (call : LabelCall) (answers : LabelAnswers)
  | reset

/-- A shared cache, with the look-ups made since the last reset, in order. -/
structure LabelSession where
  cache : LabelCache
  log : List Lookup

/-- The look-ups that were made from one state of a cache to a later one. -/
def LabelCache.askedSince (earlier later : LabelCache) : List (LabelKind × String) :=
  (later.asked.take (later.asked.length - earlier.asked.length)).reverse

namespace LabelSession

def start : LabelSession := ⟨LabelCache.empty, []⟩

def step (session : LabelSession) : LabelAction → LabelSession
  | .call call answers =>
      let learned := (call.perform answers session.cache).2
      ⟨learned, session.log ++ lookUpEach answers (session.cache.askedSince learned)⟩
  | .reset => ⟨session.cache.reset, []⟩

def after (history : List LabelAction) : LabelSession :=
  history.foldl step start

/-- The cache knows exactly the first successful answers since the last reset,
and no ID was answered with success twice. -/
structure IsFaithful (session : LabelSession) : Prop where
  known : ∀ kind id, session.cache.get? kind id = firstAnswer session.log kind id
  once : ((session.log.filter Lookup.isSuccessful).map Lookup.key).Nodup

end LabelSession

/-! ## First answers -/

theorem firstAnswer_append (earlier later : List Lookup) (kind : LabelKind) (id : String) :
    firstAnswer (earlier ++ later) kind id =
      (firstAnswer earlier kind id).or (firstAnswer later kind id) :=
  List.findSome?_append

/-- Among look-ups made at one instant, an ID has the answer of that instant. -/
theorem firstAnswer_lookUpEach (answers : LabelAnswers) (keys : List (LabelKind × String))
    (kind : LabelKind) (id : String) :
    firstAnswer (lookUpEach answers keys) kind id =
      if (kind, id) ∈ keys then (answers kind id).labels? else none := by
  induction keys with
  | nil => rfl
  | cons key rest ih =>
      unfold firstAnswer lookUpEach at ih ⊢
      rw [List.map_cons, List.findSome?_cons]
      by_cases same : key = (kind, id)
      · subst same
        cases found : (answers kind id).labels? with
        | some labels => simp
        | none => simp [ih, found]
      · have apart : (kind, id) ≠ key := fun equal => same equal.symm
        simp [same, apart, ih]

theorem not_mem_of_firstAnswer_none {log : List Lookup} {kind : LabelKind} {id : String}
    (absent : firstAnswer log kind id = none) :
    (kind, id) ∉ (log.filter Lookup.isSuccessful).map Lookup.key := by
  intro member
  obtain ⟨lookup, kept, same⟩ := List.mem_map.1 member
  obtain ⟨logged, successful⟩ := List.mem_filter.1 kept
  have silent := List.findSome?_eq_none_iff.1 absent lookup logged
  rw [if_pos same] at silent
  rw [Lookup.isSuccessful, silent] at successful
  cases successful

/-! ## Look-ups of one call -/

theorem unknownOf_eq {cache : LabelCache} {log : List Lookup}
    (known : ∀ kind id, cache.get? kind id = firstAnswer log kind id)
    (needed : List (LabelKind × String)) :
    cache.unknownOf needed =
      (needed.filter fun key => (firstAnswer log key.1 key.2).isNone).eraseDups := by
  unfold LabelCache.unknownOf
  simp only [known]

theorem overlay_eq_frozen {cache : LabelCache} {log : List Lookup}
    (known : ∀ kind id, cache.get? kind id = firstAnswer log kind id) (answers : LabelAnswers) :
    cache.overlay answers = frozen log answers := by
  funext kind id
  have held := known kind id
  cases first : firstAnswer log kind id with
  | some labels => simp only [LabelCache.overlay, frozen, held, first]
  | none => simp only [LabelCache.overlay, frozen, held, first]

theorem nodup_eraseDups (keys : List (LabelKind × String)) : keys.eraseDups.Nodup := by
  match keys with
  | [] => exact List.nodup_nil
  | key :: rest =>
      rw [List.eraseDups_cons]
      refine List.nodup_cons.2 ⟨?_, nodup_eraseDups _⟩
      simp
termination_by keys.length
decreasing_by exact Nat.lt_succ_of_le (List.length_filter_le _ rest)

/-- Exactly the IDs learned are asked between two states of a cache. -/
theorem askedSince_learn (answers : LabelAnswers) (keys : List (LabelKind × String))
    (cache : LabelCache) : cache.askedSince (cache.learn answers keys) = keys := by
  unfold LabelCache.askedSince
  rw [LabelCache.asked_learn]
  simp

/-- Look-ups of distinct keys that no look-up answered before keep successful
look-ups distinct. -/
theorem once_append {log : List Lookup} {keys : List (LabelKind × String)}
    (answers : LabelAnswers) (once : ((log.filter Lookup.isSuccessful).map Lookup.key).Nodup)
    (distinct : keys.Nodup) (absent : ∀ key ∈ keys, firstAnswer log key.1 key.2 = none) :
    (((log ++ lookUpEach answers keys).filter Lookup.isSuccessful).map Lookup.key).Nodup := by
  have all : (lookUpEach answers keys).map Lookup.key = keys := by
    simp [lookUpEach, Function.comp_def]
  have added : (((lookUpEach answers keys).filter Lookup.isSuccessful).map Lookup.key).Sublist
      ((lookUpEach answers keys).map Lookup.key) :=
    List.filter_sublist.map _
  rw [all] at added
  rw [List.filter_append, List.map_append]
  refine List.nodup_append.2 ⟨once, distinct.sublist added, ?_⟩
  intro key earlier other later same
  subst same
  exact not_mem_of_firstAnswer_none (absent key (added.subset later)) earlier

namespace LabelSession

variable {session : LabelSession}

/-- What a call returns and looks up is settled by the look-ups made before. -/
theorem IsFaithful.perform_eq (faithful : session.IsFaithful) (call : LabelCall)
    (answers : LabelAnswers) :
    call.perform answers session.cache =
      (call.direct (frozen session.log answers),
        session.cache.learn answers
          (((call.needed (frozen session.log answers)).filter fun key =>
            (firstAnswer session.log key.1 key.2).isNone).eraseDups)) := by
  rw [LabelCall.perform_eq, overlay_eq_frozen faithful.known, unknownOf_eq faithful.known]

theorem IsFaithful.reply_eq (faithful : session.IsFaithful) (call : LabelCall)
    (answers : LabelAnswers) :
    (call.perform answers session.cache).1 = call.direct (frozen session.log answers) := by
  rw [faithful.perform_eq]

theorem IsFaithful.askedSince_eq (faithful : session.IsFaithful) (call : LabelCall)
    (answers : LabelAnswers) :
    session.cache.askedSince (call.perform answers session.cache).2 =
      ((call.needed (frozen session.log answers)).filter fun key =>
        (firstAnswer session.log key.1 key.2).isNone).eraseDups := by
  rw [faithful.perform_eq, askedSince_learn]

/-- The look-ups since the last reset, after one more action. -/
def logAfter (log : List Lookup) : LabelAction → List Lookup
  | .call call answers =>
      log ++ lookUpEach answers
        (((call.needed (frozen log answers)).filter fun key =>
          (firstAnswer log key.1 key.2).isNone).eraseDups)
  | .reset => []

theorem IsFaithful.log_step (faithful : session.IsFaithful) (action : LabelAction) :
    (session.step action).log = logAfter session.log action := by
  cases action with
  | reset => rfl
  | call call answers =>
      simp only [step, logAfter, faithful.askedSince_eq]

theorem isFaithful_start : start.IsFaithful :=
  ⟨fun _ _ => rfl, List.nodup_nil⟩

/-- One action keeps a session faithful: a call learns exactly the successful
answers that it adds to the log, and a reset forgets both. -/
theorem IsFaithful.step (faithful : session.IsFaithful) (action : LabelAction) :
    (session.step action).IsFaithful := by
  cases action with
  | reset => exact ⟨fun _ _ => rfl, List.nodup_nil⟩
  | call call answers =>
      generalize looked : ((call.needed (frozen session.log answers)).filter fun key =>
        (firstAnswer session.log key.1 key.2).isNone).eraseDups = keys
      have logged := faithful.log_step (.call call answers)
      have learned : (session.step (.call call answers)).cache =
          session.cache.learn answers keys := by
        simp only [LabelSession.step, faithful.perform_eq, looked]
      simp only [logAfter, looked] at logged
      have absent : ∀ key ∈ keys, firstAnswer session.log key.1 key.2 = none := by
        intro key member
        rw [← looked, List.mem_eraseDups, List.mem_filter] at member
        exact Option.isNone_iff_eq_none.1 member.2
      refine ⟨?_, ?_⟩
      · intro kind id
        rw [learned, logged, LabelCache.get?_learn, firstAnswer_append, firstAnswer_lookUpEach,
          faithful.known]
        by_cases member : (kind, id) ∈ keys
        · simp [member, absent (kind, id) member]
        · simp [member]
      · rw [logged]
        exact once_append answers faithful.once (looked ▸ nodup_eraseDups _) absent

theorem IsFaithful.run (faithful : session.IsFaithful) (history : List LabelAction) :
    (history.foldl LabelSession.step session).IsFaithful ∧
      (history.foldl LabelSession.step session).log = history.foldl logAfter session.log := by
  induction history generalizing session with
  | nil => exact ⟨faithful, rfl⟩
  | cons action rest ih =>
      rw [List.foldl_cons, List.foldl_cons, ← faithful.log_step action]
      exact ih (faithful.step action)

theorem isFaithful_after (history : List LabelAction) : (after history).IsFaithful :=
  (isFaithful_start.run history).1

theorem log_after (history : List LabelAction) : (after history).log = history.foldl logAfter [] :=
  (isFaithful_start.run history).2

/-- Nothing that happened before a reset is left in the log. -/
theorem log_after_reset (earlier history : List LabelAction) :
    (after (earlier ++ .reset :: history)).log = (after history).log := by
  simp only [log_after, List.foldl_append, List.foldl_cons, logAfter]

/-- Labels are frozen between resets.  After any history, a call returns what
it returns without a cache when each ID answers as it first did, with success,
since the last reset, or else as it does now.  The call looks up, once each and
in order, the IDs that it needs and that had no successful answer yet, whether or
not they were looked up before; so no ID is answered with success twice between
resets, and answers that vary within one call are covered by fixed ones.  What
happened before a reset changes neither replies nor look-ups. -/
theorem calls_see_first_answers (history : List LabelAction) (call : LabelCall)
    (answers : LabelAnswers) :
    let session := after history
    let view := frozen session.log answers
    let outcome := call.perform answers session.cache
    outcome.1 = call.direct view ∧
      session.cache.askedSince outcome.2 =
        ((call.needed view).filter fun key =>
          (firstAnswer session.log key.1 key.2).isNone).eraseDups ∧
      ((session.log.filter Lookup.isSuccessful).map Lookup.key).Nodup ∧
      ∀ earlier : List LabelAction,
        let resumed := after (earlier ++ .reset :: history)
        (call.perform answers resumed.cache).1 = outcome.1 ∧
          resumed.cache.askedSince (call.perform answers resumed.cache).2 =
            session.cache.askedSince outcome.2 ∧
          resumed.log = session.log := by
  intro session view outcome
  have faithful : session.IsFaithful := isFaithful_after history
  refine ⟨faithful.reply_eq call answers, faithful.askedSince_eq call answers, faithful.once, ?_⟩
  intro earlier resumed
  have sameLog : resumed.log = session.log := log_after_reset earlier history
  have again : resumed.IsFaithful := isFaithful_after (earlier ++ .reset :: history)
  refine ⟨?_, ?_, sameLog⟩
  · rw [again.reply_eq, sameLog]
    exact (faithful.reply_eq call answers).symm
  · rw [again.askedSince_eq, sameLog]
    exact (faithful.askedSince_eq call answers).symm

end LabelSession

end PolicyWatch
