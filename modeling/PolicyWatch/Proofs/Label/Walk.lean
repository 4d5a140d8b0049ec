import PolicyWatch.Proofs.Label.Inquiry
import Mathlib.Data.List.Forall2

/-!
# The walk of an inquiry

The IDs that an inquiry would ask for one after another if every look-up answered, and where
the walk ends if one does not.  Main statement: an inquiry asks for what is on its walk up to
the first look-up that does not answer, and fails just if there is one, with its fault.
-/

namespace PolicyWatch

section UpToFirst

variable {α β : Type}

def upToFirst (passes : α → Bool) : List α → List α
  | [] => []
  | first :: rest => if passes first then [first] else first :: upToFirst passes rest

theorem upToFirst_cons_pos {passes : α → Bool} {first : α} (passed : passes first = true)
    (rest : List α) : upToFirst passes (first :: rest) = [first] := by
  rw [upToFirst, if_pos passed]

theorem upToFirst_cons_neg {passes : α → Bool} {first : α} (missed : passes first = false)
    (rest : List α) : upToFirst passes (first :: rest) = first :: upToFirst passes rest := by
  rw [upToFirst, if_neg (by rw [missed]; exact Bool.false_ne_true)]

theorem flatMap_upToFirst_of_forall₂ {Related : α → β → Prop} {γ : Type} {lefts : List α}
    {rights : List β} (related : List.Forall₂ Related lefts rights) {Left : α → Prop}
    [DecidablePred Left] {right : β → Bool} {leftYield : α → List γ} {rightYield : β → List γ}
    (agree : ∀ first second, Related first second →
      (Left first ↔ right second = true) ∧ leftYield first = rightYield second) :
    (upToFirst (fun member => Left member) lefts).flatMap leftYield =
      (upToFirst right rights).flatMap rightYield := by
  induction related with
  | nil => rfl
  | @cons first second lefts rights pair _ ih =>
      obtain ⟨samePass, sameYield⟩ := agree first second pair
      simp only [upToFirst, decide_eq_true_eq, samePass]
      split
      · rw [List.flatMap_singleton, List.flatMap_singleton, sameYield]
      · rw [List.flatMap_cons, List.flatMap_cons, sameYield, ih]

theorem findSome?_eq_some_iff_upToFirst (yield? : α → Option β) (list : List α) (result : β) :
    list.findSome? yield? = some result ↔
      ∃ member ∈ upToFirst (fun member => (yield? member).isSome) list,
        yield? member = some result := by
  induction list with
  | nil => simp [upToFirst]
  | cons first rest ih =>
      cases yielded : yield? first with
      | some value =>
          rw [List.findSome?_cons_of_isSome (by rw [yielded]; rfl), yielded,
            upToFirst_cons_pos (by rw [yielded]; rfl)]
          simp [yielded]
      | none =>
          rw [List.findSome?_cons_of_isNone (by rw [yielded]; rfl), ih,
            upToFirst_cons_neg (by rw [yielded]; rfl)]
          simp [yielded]

end UpToFirst

/-! ## Faults -/

/-- The fault of an answer to a look-up under an ID, if it is none that lets know labels. -/
def LabelAnswer.fault? (kind : LabelKind) (id : String) : LabelAnswer → Option LookupFault
  | found _ => none
  | missing => none
  | failed message => some (.failed kind id message)
  | crashed report => some (.crashed report)

theorem LabelAnswer.read_eq (kind : LabelKind) (id : String) (answer : LabelAnswer) :
    answer.read kind id =
      match answer.fault? kind id with
      | some fault => .error fault
      | none => .ok answer.labels?.join := by
  cases answer <;> rfl

namespace LabelAnswers

def fault? (answers : LabelAnswers) (key : LabelKind × String) : Option LookupFault :=
  (answers key.1 key.2).fault? key.1 key.2

/-- Whether the look-up under an ID does not answer. -/
def fails (answers : LabelAnswers) (key : LabelKind × String) : Bool :=
  (answers.fault? key).isSome

/-- The labels that look-ups let know.  Where one does not answer there are none. -/
def view (answers : LabelAnswers) : Labelling := fun kind id => (answers kind id).labels?.join

end LabelAnswers

/-- Known labels never fail, and an unknown ID fails as its look-up does. -/
theorem LabelCache.fault?_overlay (cache : LabelCache) (answers : LabelAnswers)
    (key : LabelKind × String) :
    (cache.overlay answers).fault? key =
      if cache.get? key.1 key.2 = none then answers.fault? key else none := by
  unfold LabelAnswers.fault? overlay
  cases cache.get? key.1 key.2 with
  | none => rfl
  | some held => cases held <;> rfl

theorem LabelCache.mem_unknownOf {cache : LabelCache} {keys : List (LabelKind × String)}
    {key : LabelKind × String} :
    key ∈ cache.unknownOf keys ↔ key ∈ keys ∧ cache.get? key.1 key.2 = none := by
  rw [unknownOf, List.mem_eraseDups, List.mem_filter, Option.isNone_iff_eq_none]

/-! ## Walks -/

namespace Inquiry

variable {α β : Type}

/-- The IDs that an inquiry about a labelling asks for, in order and with repeats. -/
def walk (labelling : Labelling) : Inquiry α → List (LabelKind × String)
  | done _ => []
  | ask kind id next => (kind, id) :: (next (labelling kind id)).walk labelling

@[simp] theorem walk_done (labelling : Labelling) (value : α) :
    (done value).walk labelling = [] := rfl

@[simp] theorem walk_ask (labelling : Labelling) (kind : LabelKind) (id : String)
    (next : Option LabelMap → Inquiry α) :
    (ask kind id next).walk labelling = (kind, id) :: (next (labelling kind id)).walk labelling :=
  rfl

@[simp] theorem walk_bind (labelling : Labelling) (inquiry : Inquiry α) (go : α → Inquiry β) :
    (inquiry.bind go).walk labelling =
      inquiry.walk labelling ++ (go (inquiry.value labelling)).walk labelling := by
  induction inquiry with
  | done value => rfl
  | ask kind id next ih =>
      rw [bind, walk_ask, walk_ask, value_ask, ih, List.cons_append]

@[simp] theorem walk_and (labelling : Labelling) (first second : Inquiry Bool) :
    (first.and second).walk labelling =
      first.walk labelling ++ if first.value labelling then second.walk labelling else [] := by
  rw [and, walk_bind]
  cases first.value labelling <;> rfl

@[simp] theorem walk_any (labelling : Labelling) (question : α → Inquiry Bool) (list : List α) :
    (any question list).walk labelling =
      (upToFirst (fun member => (question member).value labelling) list).flatMap
        fun member => (question member).walk labelling := by
  induction list with
  | nil => rfl
  | cons first rest ih =>
      let holds : α → Bool := fun member => (question member).value labelling
      rw [any, walk_bind]
      cases held : (question first).value labelling with
      | true =>
          have once : upToFirst holds (first :: rest) = [first] :=
            @upToFirst_cons_pos α holds first held rest
          rw [once, List.flatMap_singleton, if_pos rfl, walk_done, List.append_nil]
      | false =>
          have again : upToFirst holds (first :: rest) = first :: upToFirst holds rest :=
            @upToFirst_cons_neg α holds first held rest
          rw [again, List.flatMap_cons, if_neg Bool.false_ne_true, ih]

theorem needed_eq (answers : LabelAnswers) (inquiry : Inquiry α) :
    inquiry.needed answers = upToFirst answers.fails (inquiry.walk answers.view) := by
  induction inquiry with
  | done value => rfl
  | ask kind id next ih =>
      have same : answers.fault? (kind, id) = (answers kind id).fault? kind id := rfl
      rw [needed, LabelAnswer.read_eq, ← same, walk_ask]
      cases broken : answers.fault? (kind, id) with
      | some fault =>
          rw [upToFirst_cons_pos (by rw [LabelAnswers.fails, broken]; rfl)]
      | none =>
          rw [upToFirst_cons_neg (by rw [LabelAnswers.fails, broken]; rfl)]
          exact congrArg ((kind, id) :: ·) (ih _)

/-- An inquiry ends with the fault of the first look-up on its walk that does not answer or,
if all do, with its value. -/
theorem direct_eq (answers : LabelAnswers) (inquiry : Inquiry α) :
    inquiry.direct answers =
      match (inquiry.walk answers.view).findSome? answers.fault? with
      | some fault => .error fault
      | none => .ok (inquiry.value answers.view) := by
  induction inquiry with
  | done value => rfl
  | ask kind id next ih =>
      have same : answers.fault? (kind, id) = (answers kind id).fault? kind id := rfl
      rw [direct, LabelAnswer.read_eq, ← same, walk_ask, List.findSome?_cons]
      cases answers.fault? (kind, id) with
      | some fault => rfl
      | none => exact ih _

end Inquiry

end PolicyWatch
