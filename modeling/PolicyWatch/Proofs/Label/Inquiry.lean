import PolicyWatch.Scope

/-!
# Inquiries for labels

An inquiry is a computation that may ask for the labels under an ID and goes on
with what it learns.  It is answered either directly or through the labels
already known.  Main statement: through known labels an inquiry ends as it does
directly, where known labels take precedence over what look-ups answer now; and
it looks up, once each and in order, the IDs that it needs and that are unknown.
-/

namespace PolicyWatch

namespace LabelAnswer

/-- The answer that amounts to knowing labels, or to knowing that there are none. -/
def ofLabels : Option LabelMap → LabelAnswer
  | some labels => found labels
  | none => missing

/-- What a successful answer lets know. -/
def labels? : LabelAnswer → Option (Option LabelMap)
  | found labels => some (some labels)
  | missing => some none
  | failed _ => none
  | crashed _ => none

def read (kind : LabelKind) (id : String) : LabelAnswer → Except LookupFault (Option LabelMap)
  | found labels => .ok (some labels)
  | missing => .ok none
  | failed message => .error (.failed kind id message)
  | crashed report => .error (.crashed report)

@[simp] theorem read_ofLabels (kind : LabelKind) (id : String) (labels : Option LabelMap) :
    (ofLabels labels).read kind id = .ok labels := by
  cases labels <;> rfl

theorem eq_ofLabels_of_labels? {answer : LabelAnswer} {labels : Option LabelMap}
    (learned : answer.labels? = some labels) : answer = ofLabels labels := by
  cases answer <;> simp_all [labels?, ofLabels] <;> subst learned <;> rfl

theorem labels?_of_read_ok {kind : LabelKind} {id : String} {answer : LabelAnswer}
    {labels : Option LabelMap} (settled : answer.read kind id = .ok labels) :
    answer.labels? = some labels := by
  cases answer <;> simp_all [read, labels?]

theorem labels?_of_read_error {kind : LabelKind} {id : String} {answer : LabelAnswer}
    {fault : LookupFault} (broken : answer.read kind id = .error fault) :
    answer.labels? = none := by
  cases answer <;> simp_all [read, labels?]

end LabelAnswer

namespace LabelCache

@[simp] theorem get?_ask (cache : LabelCache) (kind sought : LabelKind) (id name : String) :
    (cache.ask kind id).get? sought name = cache.get? sought name := rfl

theorem get?_remember (cache : LabelCache) (kind sought : LabelKind) (id name : String)
    (labels : Option LabelMap) :
    (cache.remember kind id labels).get? sought name =
      if (sought, name) = (kind, id) then some labels else cache.get? sought name := by
  unfold get? remember
  rw [List.lookup_cons]
  split <;> simp_all

theorem labels_eq (answers : LabelAnswers) (kind : LabelKind) (id : String) (cache : LabelCache) :
    labels answers kind id cache =
      match cache.get? kind id with
      | some held => (.ok held, cache)
      | none =>
          match (answers kind id).read kind id with
          | .ok found => (.ok found, (cache.ask kind id).remember kind id found)
          | .error fault => (.error fault, cache.ask kind id) := by
  unfold labels
  cases cache.get? kind id with
  | some held => rfl
  | none =>
      cases answers kind id <;> rfl

/-- What every look-up would answer if known labels took precedence. -/
def overlay (cache : LabelCache) (answers : LabelAnswers) : LabelAnswers := fun kind id =>
  match cache.get? kind id with
  | some held => .ofLabels held
  | none => answers kind id

theorem overlay_learn {cache : LabelCache} {answers : LabelAnswers} {kind : LabelKind} {id : String}
    {labels : Option LabelMap} (unknown : cache.get? kind id = none)
    (learned : (answers kind id).labels? = some labels) :
    ((cache.ask kind id).remember kind id labels).overlay answers = cache.overlay answers := by
  funext sought name
  unfold overlay
  rw [get?_remember]
  by_cases same : (sought, name) = (kind, id)
  · obtain ⟨rfl, rfl⟩ := Prod.mk.inj same
    rw [if_pos rfl, unknown]
    exact (LabelAnswer.eq_ofLabels_of_labels? learned).symm
  · rw [if_neg same, get?_ask]

def unknownOf (cache : LabelCache) (needed : List (LabelKind × String)) :
    List (LabelKind × String) :=
  (needed.filter fun key => (cache.get? key.1 key.2).isNone).eraseDups

theorem unknownOf_cons_known {cache : LabelCache} {kind : LabelKind} {id : String}
    {held : Option LabelMap} (known : cache.get? kind id = some held)
    (needed : List (LabelKind × String)) :
    cache.unknownOf ((kind, id) :: needed) = cache.unknownOf needed := by
  simp [unknownOf, known]

/-- An unknown ID is unknown once; after it is learned it is not unknown again. -/
theorem unknownOf_cons_learned {cache : LabelCache} {kind : LabelKind} {id : String}
    (unknown : cache.get? kind id = none) (labels : Option LabelMap)
    (needed : List (LabelKind × String)) :
    cache.unknownOf ((kind, id) :: needed) =
      (kind, id) :: ((cache.ask kind id).remember kind id labels).unknownOf needed := by
  have stillUnknown : ∀ key : LabelKind × String,
      (((cache.ask kind id).remember kind id labels).get? key.1 key.2).isNone =
        ((!key == (kind, id)) && (cache.get? key.1 key.2).isNone) := by
    intro key
    rw [get?_remember, get?_ask]
    by_cases same : key = (kind, id) <;> simp [same]
  simp only [unknownOf, List.filter_cons, unknown, Option.isNone_none, if_true,
    List.eraseDups_cons, List.filter_filter, stillUnknown]

/-- Look up IDs in order, and remember every successful answer. -/
def learn (answers : LabelAnswers) : List (LabelKind × String) → LabelCache → LabelCache
  | [], cache => cache
  | (kind, id) :: rest, cache =>
      match (answers kind id).labels? with
      | some labels => learn answers rest ((cache.ask kind id).remember kind id labels)
      | none => learn answers rest (cache.ask kind id)

/-- Every ID that is looked up is noted, also one without an answer. -/
theorem asked_learn (answers : LabelAnswers) (keys : List (LabelKind × String))
    (cache : LabelCache) : (cache.learn answers keys).asked = keys.reverse ++ cache.asked := by
  induction keys generalizing cache with
  | nil => rfl
  | cons key rest ih =>
      obtain ⟨kind, id⟩ := key
      unfold learn
      cases (answers kind id).labels? with
      | some labels => simp [ih, remember, ask]
      | none => simp [ih, ask]

/-- What is known after look-ups: their successful answers, and what was known. -/
theorem get?_learn (answers : LabelAnswers) (keys : List (LabelKind × String))
    (cache : LabelCache) (kind : LabelKind) (id : String) :
    (cache.learn answers keys).get? kind id =
      if (kind, id) ∈ keys then (answers kind id).labels?.or (cache.get? kind id)
      else cache.get? kind id := by
  induction keys generalizing cache with
  | nil => simp [learn]
  | cons key rest ih =>
      obtain ⟨first, name⟩ := key
      unfold learn
      by_cases same : (kind, id) = (first, name)
      · obtain ⟨rfl, rfl⟩ := Prod.mk.inj same
        cases found : (answers kind id).labels? with
        | some labels => simp [ih, found, get?_remember]
        | none => simp [ih, found]
      · have elsewhere : (kind, id) ∈ (first, name) :: rest ↔ (kind, id) ∈ rest := by
          simp only [List.mem_cons, same, false_or]
        cases (answers first name).labels? with
        | some labels => simp only [ih, get?_remember, if_neg same, get?_ask, elsewhere]
        | none => simp only [ih, get?_ask, elsewhere]

end LabelCache

/-- A computation that may ask for the labels under an ID. -/
inductive Inquiry (α : Type) where
  | done (value : α)
  | ask (kind : LabelKind) (id : String) (next : Option LabelMap → Inquiry α)

namespace Inquiry

variable {α β : Type}

def bind : Inquiry α → (α → Inquiry β) → Inquiry β
  | done value, go => go value
  | ask kind id next, go => ask kind id fun labels => (next labels).bind go

def and (first second : Inquiry Bool) : Inquiry Bool :=
  first.bind fun holds => if holds then second else done false

/-- Whether one of several inquiries is true, made in order until one is. -/
def any (question : α → Inquiry Bool) : List α → Inquiry Bool
  | [] => done false
  | first :: rest =>
      (question first).bind fun holds => if holds then done true else any question rest

/-- The end of an inquiry every question of which is looked up. -/
def direct (answers : LabelAnswers) : Inquiry α → Except LookupFault α
  | done value => .ok value
  | ask kind id next =>
      match (answers kind id).read kind id with
      | .ok labels => (next labels).direct answers
      | .error fault => .error fault

/-- The IDs that an inquiry asks for, in order and with repeats. -/
def needed (answers : LabelAnswers) : Inquiry α → List (LabelKind × String)
  | done _ => []
  | ask kind id next =>
      (kind, id) ::
        match (answers kind id).read kind id with
        | .ok labels => (next labels).needed answers
        | .error _ => []

def through (answers : LabelAnswers) : Inquiry α → LabelQuery α
  | done value => LabelQuery.pure value
  | ask kind id next =>
      LabelQuery.bind (LabelCache.labels answers kind id) fun labels =>
        (next labels).through answers

theorem through_bind (answers : LabelAnswers) (inquiry : Inquiry α) (go : α → Inquiry β) :
    (inquiry.bind go).through answers =
      LabelQuery.bind (inquiry.through answers) fun value => (go value).through answers := by
  induction inquiry with
  | done value => rfl
  | ask kind id next ih =>
      funext cache
      simp only [bind, through, ih, LabelQuery.bind]
      cases LabelCache.labels answers kind id cache with
      | mk result learned =>
          cases result <;> rfl

theorem through_and (answers : LabelAnswers) (first second : Inquiry Bool) :
    (first.and second).through answers =
      LabelQuery.and (first.through answers) (second.through answers) := by
  unfold and LabelQuery.and
  rw [through_bind]
  congr
  funext holds
  cases holds <;> rfl

theorem through_any (answers : LabelAnswers) (question : α → Inquiry Bool) (list : List α) :
    (any question list).through answers =
      LabelQuery.any (fun value => (question value).through answers) list := by
  induction list with
  | nil => rfl
  | cons first rest ih =>
      unfold any LabelQuery.any
      rw [through_bind]
      congr
      funext holds
      cases holds
      · exact ih
      · rfl

/-- One question through the labels already known: it is answered by what is
known, or else by a look-up. -/
theorem through_ask (answers : LabelAnswers) (kind : LabelKind) (id : String)
    (next : Option LabelMap → Inquiry α) (cache : LabelCache) :
    (ask kind id next).through answers cache =
      match cache.get? kind id with
      | some held => (next held).through answers cache
      | none =>
          match (answers kind id).read kind id with
          | .ok labels =>
              (next labels).through answers ((cache.ask kind id).remember kind id labels)
          | .error fault => (.error fault, cache.ask kind id) := by
  simp only [through, LabelQuery.bind, LabelCache.labels_eq]
  cases cache.get? kind id with
  | some held => rfl
  | none =>
      cases (answers kind id).read kind id <;> rfl

/-- Through known labels an inquiry ends as it does directly on the overlay of
what is known, and what it looks up is what it needs and is unknown. -/
theorem through_eq (answers : LabelAnswers) (inquiry : Inquiry α) (cache : LabelCache) :
    inquiry.through answers cache =
      (inquiry.direct (cache.overlay answers),
        cache.learn answers (cache.unknownOf (inquiry.needed (cache.overlay answers)))) := by
  induction inquiry generalizing cache with
  | done value => rfl
  | ask kind id next ih =>
      rw [through_ask]
      cases known : cache.get? kind id with
      | some held =>
          have shown : cache.overlay answers kind id = .ofLabels held := by
            simp only [LabelCache.overlay, known]
          simp only [direct, needed, shown, LabelAnswer.read_ofLabels,
            LabelCache.unknownOf_cons_known known]
          exact ih held cache
      | none =>
          have shown : cache.overlay answers kind id = answers kind id := by
            simp only [LabelCache.overlay, known]
          cases answered : (answers kind id).read kind id with
          | ok labels =>
              have learned := LabelAnswer.labels?_of_read_ok answered
              simp only [direct, needed, shown, answered,
                LabelCache.unknownOf_cons_learned known labels, LabelCache.learn, learned]
              rw [ih labels, LabelCache.overlay_learn known learned]
          | error fault =>
              have nothing := LabelAnswer.labels?_of_read_error answered
              simp [direct, needed, shown, answered, LabelCache.unknownOf, known,
                List.eraseDups_cons, LabelCache.learn, nothing]

end Inquiry

/-! ## Look-ups that always succeed -/

/-- The labels under every ID, or none where there is nothing under it. -/
abbrev Labelling := LabelKind → String → Option LabelMap

/-- What look-ups of a labelling answer: they never fail. -/
def Labelling.answers (labelling : Labelling) : LabelAnswers := fun kind id =>
  .ofLabels (labelling kind id)

namespace Inquiry

variable {α β : Type}

def value (labelling : Labelling) : Inquiry α → α
  | done value => value
  | ask kind id next => (next (labelling kind id)).value labelling

theorem direct_answers (labelling : Labelling) (inquiry : Inquiry α) :
    inquiry.direct labelling.answers = .ok (inquiry.value labelling) := by
  induction inquiry with
  | done value => rfl
  | ask kind id next ih =>
      simp only [direct, Labelling.answers, LabelAnswer.read_ofLabels]
      exact ih (labelling kind id)

@[simp] theorem value_done (labelling : Labelling) (value : α) :
    (done value).value labelling = value := rfl

@[simp] theorem value_ask (labelling : Labelling) (kind : LabelKind) (id : String)
    (next : Option LabelMap → Inquiry α) :
    (ask kind id next).value labelling = (next (labelling kind id)).value labelling := rfl

@[simp] theorem value_bind (labelling : Labelling) (inquiry : Inquiry α) (go : α → Inquiry β) :
    (inquiry.bind go).value labelling = (go (inquiry.value labelling)).value labelling := by
  induction inquiry with
  | done value => rfl
  | ask kind id next ih => exact ih (labelling kind id)

@[simp] theorem value_and (labelling : Labelling) (first second : Inquiry Bool) :
    (first.and second).value labelling = (first.value labelling && second.value labelling) := by
  unfold and
  rw [value_bind]
  cases first.value labelling <;> rfl

@[simp] theorem value_any (labelling : Labelling) (question : α → Inquiry Bool) (list : List α) :
    (any question list).value labelling = list.any fun item => (question item).value labelling := by
  induction list with
  | nil => rfl
  | cons first rest ih =>
      unfold any
      rw [value_bind, List.any_cons]
      cases (question first).value labelling with
      | true => rfl
      | false => exact ih

end Inquiry

end PolicyWatch
