import Mathlib.Data.List.Forall2

/-!
# Checks in order

A check gives a checked value or the fault that it met first.  Main statements:
a check of a list succeeds just if the check of each member does, and a check
that goes through requirements in order succeeds just if all are met and fails
just with the fault of the first that is not.  What is required of a member of a
list may depend on the members before it.
-/

namespace PolicyWatch.Checks

variable {ε α β γ : Type}

/-! ## Checks that succeed -/

theorem bind_eq_ok_iff {check : Except ε α} {next : α → Except ε β} {result : β} :
    (check >>= next) = .ok result ↔ ∃ value, check = .ok value ∧ next value = .ok result := by
  cases check with
  | error fault =>
      constructor
      · intro impossible
        cases impossible
      · rintro ⟨_, impossible, _⟩
        cases impossible
  | ok value =>
      constructor
      · intro passed
        exact ⟨value, rfl, passed⟩
      · rintro ⟨_, ⟨⟩, passed⟩
        exact passed

theorem pure_eq_ok_iff {value result : α} :
    (pure value : Except ε α) = .ok result ↔ value = result := by
  constructor
  · intro same
    exact Except.ok.inj same
  · rintro rfl
    rfl

theorem mapM_eq_ok_iff {check : α → Except ε β} {values : List α} {checked : List β} :
    values.mapM check = .ok checked ↔
      List.Forall₂ (fun value result => check value = .ok result) values checked := by
  induction values generalizing checked with
  | nil =>
      rw [List.mapM_nil, pure_eq_ok_iff, List.forall₂_nil_left_iff]
      exact eq_comm
  | cons first rest ih =>
      rw [List.mapM_cons, List.forall₂_cons_left_iff, bind_eq_ok_iff]
      constructor
      · rintro ⟨head, passed, others⟩
        obtain ⟨tail, passedRest, last⟩ := bind_eq_ok_iff.1 others
        exact ⟨head, tail, passed, ih.1 passedRest, (pure_eq_ok_iff.1 last).symm⟩
      · rintro ⟨head, tail, passed, passedRest, rfl⟩
        exact ⟨head, passed, bind_eq_ok_iff.2 ⟨tail, ih.2 passedRest, rfl⟩⟩

/-- A check of a list by position gives what the checks of its members give, each
at some position. -/
theorem forall₂_of_mapM_zipIdx {check : Nat → α → Except ε β} {values : List α} {index : Nat}
    {checked : List β}
    (passed : ((values.zipIdx index).mapM fun entry => check entry.2 entry.1) = .ok checked) :
    List.Forall₂ (fun value result => ∃ position, check position value = .ok result)
      values checked := by
  have related : List.Forall₂ (fun value result => ∃ position, check position value = .ok result)
      ((values.zipIdx index).map Prod.fst) checked :=
    List.forall₂_map_left_iff.2
      ((mapM_eq_ok_iff.1 passed).imp fun entry _ made => ⟨entry.2, made⟩)
  rwa [List.zipIdx_map_fst] at related

theorem eq_nil_iff_of_forall₂ {Related : α → β → Prop} {lefts : List α} {rights : List β}
    (related : List.Forall₂ Related lefts rights) : rights = [] ↔ lefts = [] := by
  cases related <;> simp

theorem exists_mem_iff_of_forall₂ {Related : α → β → Prop} {Left : α → Prop} {Right : β → Prop}
    {lefts : List α} {rights : List β} (related : List.Forall₂ Related lefts rights)
    (agree : ∀ left right, Related left right → (Left left ↔ Right right)) :
    (∃ left ∈ lefts, Left left) ↔ ∃ right ∈ rights, Right right := by
  induction related with
  | nil => simp
  | cons first _ ih => simp only [List.exists_mem_cons_iff, agree _ _ first, ih]

theorem forall_mem_iff_of_forall₂ {Related : α → β → Prop} {Left : α → Prop} {Right : β → Prop}
    {lefts : List α} {rights : List β} (related : List.Forall₂ Related lefts rights)
    (agree : ∀ left right, Related left right → (Left left ↔ Right right)) :
    (∀ left ∈ lefts, Left left) ↔ ∀ right ∈ rights, Right right := by
  induction related with
  | nil => simp
  | cons first _ ih => simp only [List.forall_mem_cons, agree _ _ first, ih]

/-- Members of a list have what follows from being related to something. -/
theorem forall_mem_of_forall₂ {Related : α → β → Prop} {Right : β → Prop} {lefts : List α}
    {rights : List β} (related : List.Forall₂ Related lefts rights)
    (implied : ∀ left right, Related left right → Right right) : ∀ right ∈ rights, Right right := by
  induction related with
  | nil => exact List.forall_mem_nil Right
  | cons first _ ih => exact List.forall_mem_cons.2 ⟨implied _ _ first, ih⟩

/-! ## Requirements in order -/

/-- A requirement, with the fault to report where it is not met. -/
structure Requirement (ε : Type) where
  holds : Prop
  fault : ε

def Requirement.map (report : ε → β) (requirement : Requirement ε) : Requirement β :=
  ⟨requirement.holds, report requirement.fault⟩

/-- The requirement that something can be read.  What went wrong in reading it
says what to report. -/
def Requirement.ofReading (result : Except β α) (report : β → ε) : List (Requirement ε) :=
  match result with
  | .ok _ => []
  | .error fault => [⟨False, report fault⟩]

def Met (requirements : List (Requirement ε)) : Prop :=
  ∀ requirement ∈ requirements, requirement.holds

/-- `FirstViolated fault requirements`: the requirements before some one are met,
that one is not, and the fault is its own. -/
inductive FirstViolated (fault : ε) : List (Requirement ε) → Prop where
  | here (requirement : Requirement ε) (later : List (Requirement ε))
      (violated : ¬ requirement.holds) (reported : requirement.fault = fault) :
      FirstViolated fault (requirement :: later)
  | later {requirement : Requirement ε} {later : List (Requirement ε)}
      (met : requirement.holds) (violated : FirstViolated fault later) :
      FirstViolated fault (requirement :: later)

section Met

variable {requirement : Requirement ε} {requirements later : List (Requirement ε)}

@[simp] theorem met_nil : Met ([] : List (Requirement ε)) := by
  intro requirement impossible
  cases impossible

@[simp] theorem met_cons : Met (requirement :: later) ↔ requirement.holds ∧ Met later :=
  List.forall_mem_cons

@[simp] theorem met_append : Met (requirements ++ later) ↔ Met requirements ∧ Met later :=
  List.forall_mem_append

@[simp] theorem met_map (report : ε → β) :
    Met (requirements.map (.map report)) ↔ Met requirements :=
  List.forall_mem_map

@[simp] theorem met_flatMap {values : List α} {requirementsOf : α → List (Requirement ε)} :
    Met (values.flatMap requirementsOf) ↔ ∀ value ∈ values, Met (requirementsOf value) := by
  unfold Met
  simp only [List.mem_flatMap]
  constructor
  · intro met value member requirement required
    exact met requirement ⟨value, member, required⟩
  · rintro met requirement ⟨value, member, required⟩
    exact met value member requirement required

@[simp] theorem met_ofReading {result : Except β α} {report : β → ε} :
    Met (Requirement.ofReading result report) ↔ ∃ value, result = .ok value := by
  cases result <;> simp [Requirement.ofReading]

theorem forall_mem_zipIdx_iff {values : List α} {index : Nat} (Holds : α → Prop) :
    (∀ entry ∈ values.zipIdx index, Holds entry.1) ↔ ∀ value ∈ values, Holds value := by
  rw [← List.forall_mem_map (f := Prod.fst) (P := Holds), List.zipIdx_map_fst]

/-- Requirements on the members of a list at their positions are met just if the
members are as required, where positions do not count. -/
theorem met_flatMap_zipIdx {values : List α} {index : Nat}
    {requirementsOf : α × Nat → List (Requirement ε)} {Holds : α → Prop}
    (each : ∀ entry, Met (requirementsOf entry) ↔ Holds entry.1) :
    Met ((values.zipIdx index).flatMap requirementsOf) ↔ ∀ value ∈ values, Holds value := by
  simp only [met_flatMap, each]
  exact forall_mem_zipIdx_iff Holds

end Met

namespace FirstViolated

variable {fault other : ε} {requirements later : List (Requirement ε)}

theorem not_met (violated : FirstViolated fault requirements) : ¬ Met requirements := by
  induction violated with
  | here _ _ violated _ =>
      intro met
      exact violated (met_cons.1 met).1
  | later _ _ ih =>
      intro met
      exact ih (met_cons.1 met).2

theorem unique (left : FirstViolated fault requirements)
    (right : FirstViolated other requirements) : fault = other := by
  induction left with
  | here _ _ violated reported =>
      cases right with
      | here _ _ _ otherReported => exact reported.symm.trans otherReported
      | later met _ => exact absurd met violated
  | later met _ ih =>
      cases right with
      | here _ _ violated _ => exact absurd met violated
      | later _ violated => exact ih violated

theorem append (violated : FirstViolated fault requirements) (later : List (Requirement ε)) :
    FirstViolated fault (requirements ++ later) := by
  induction violated with
  | here requirement rest violated reported =>
      exact .here requirement (rest ++ later) violated reported
  | later met _ ih => exact .later met ih

theorem append_of_met (met : Met requirements) (violated : FirstViolated fault later) :
    FirstViolated fault (requirements ++ later) := by
  induction requirements with
  | nil => exact violated
  | cons requirement rest ih =>
      obtain ⟨first, others⟩ := met_cons.1 met
      exact .later first (ih others)

theorem append_iff : FirstViolated fault (requirements ++ later) ↔
    FirstViolated fault requirements ∨ Met requirements ∧ FirstViolated fault later := by
  constructor
  · intro violated
    induction requirements with
    | nil => exact .inr ⟨met_nil, violated⟩
    | cons requirement rest ih =>
        cases violated with
        | here _ _ violated reported => exact .inl (.here requirement rest violated reported)
        | later first violated =>
            rcases ih violated with inFirst | ⟨met, inOther⟩
            · exact .inl (.later first inFirst)
            · exact .inr ⟨met_cons.2 ⟨first, met⟩, inOther⟩
  · rintro (inFirst | ⟨met, inOther⟩)
    · exact inFirst.append later
    · exact append_of_met met inOther

theorem map (violated : FirstViolated fault requirements) (report : ε → β) :
    FirstViolated (report fault) (requirements.map (.map report)) := by
  induction violated with
  | here requirement rest violated reported =>
      exact .here (requirement.map report) _ violated (congrArg report reported)
  | later met _ ih => exact .later met ih

end FirstViolated

/-! ## Members behind others -/

/-- Requirements on the members of a list, each given those before it. -/
def eachBehind (requirementsOf : List α → α → List (Requirement ε)) :
    List α → List α → List (Requirement ε)
  | _, [] => []
  | earlier, first :: rest =>
      requirementsOf earlier first ++ eachBehind requirementsOf (earlier ++ [first]) rest

section EachBehind

variable {requirementsOf : List α → α → List (Requirement ε)}

theorem eachBehind_append (earlier front back : List α) :
    eachBehind requirementsOf earlier (front ++ back) =
      eachBehind requirementsOf earlier front ++
        eachBehind requirementsOf (earlier ++ front) back := by
  induction front generalizing earlier with
  | nil => rw [List.append_nil, List.nil_append, eachBehind, List.nil_append]
  | cons first rest ih =>
      rw [List.cons_append, eachBehind, eachBehind, ih, List.append_assoc, List.append_assoc,
        List.singleton_append]

/-- A fault is the first just if it is the first of some member, and those before that one are as
required. -/
theorem firstViolated_eachBehind_iff {fault : ε} {earlier values : List α} :
    FirstViolated fault (eachBehind requirementsOf earlier values) ↔
      ∃ front value back, values = front ++ value :: back ∧
        Met (eachBehind requirementsOf earlier front) ∧
        FirstViolated fault (requirementsOf (earlier ++ front) value) := by
  constructor
  · intro violated
    induction values generalizing earlier with
    | nil => cases violated
    | cons first rest ih =>
        rcases FirstViolated.append_iff.1 violated with own | ⟨met, others⟩
        · refine ⟨[], first, rest, rfl, met_nil, ?_⟩
          rwa [List.append_nil]
        · obtain ⟨front, value, back, rfl, metFront, own⟩ := ih others
          refine ⟨first :: front, value, back, rfl, met_append.2 ⟨met, metFront⟩, ?_⟩
          rwa [List.append_assoc] at own
  · rintro ⟨front, value, back, rfl, met, own⟩
    rw [eachBehind_append]
    exact FirstViolated.append_of_met met (own.append _)

end EachBehind

/-! ## Checks against requirements -/

/-- Whether a check goes through requirements in order: it succeeds if all are met
and else gives the fault of the first that is not. -/
def Reports (check : Except ε α) (requirements : List (Requirement ε)) : Prop :=
  match check with
  | .ok _ => Met requirements
  | .error fault => FirstViolated fault requirements

namespace Reports

variable {check : Except ε α} {requirements later : List (Requirement ε)}

theorem ok (value : α) : Reports (.ok value : Except ε α) [] := met_nil

theorem of_met (met : Met requirements) (value : α) :
    Reports (.ok value : Except ε α) requirements := met

/-- A check that fails right away. -/
theorem refused {holds : Prop} {fault : ε} (violated : ¬ holds) :
    Reports (.error fault : Except ε α) (⟨holds, fault⟩ :: later) :=
  .here ⟨holds, fault⟩ later violated rfl

theorem skip {holds : Prop} {fault : ε} (met : holds) (rest : Reports check later) :
    Reports check (⟨holds, fault⟩ :: later) := by
  cases check with
  | ok value => exact met_cons.2 ⟨met, rest⟩
  | error fault => exact .later met rest

/-- A requirement that is tested before anything else. -/
theorem guard {violation holds : Prop} [Decidable violation] {fault : ε}
    (violated : violation ↔ ¬ holds) (rest : holds → Reports check later) :
    Reports (if violation then .error fault else check) (⟨holds, fault⟩ :: later) := by
  by_cases met : holds
  · rw [if_neg fun tested => violated.1 tested met]
    exact skip met (rest met)
  · rw [if_pos (violated.2 met)]
    exact refused met

/-- A check and then another go through the requirements of the first and then
through those of the other, which do not depend on what the first gives. -/
theorem bind {next : α → Except ε β} (first : Reports check requirements)
    (second : ∀ value, check = .ok value → Reports (next value) later) :
    Reports (check >>= next) (requirements ++ later) := by
  cases check with
  | error fault => exact FirstViolated.append first later
  | ok value =>
      have others := second value rfl
      change Reports (next value) (requirements ++ later)
      cases result : next value with
      | ok made =>
          rw [result] at others
          exact met_append.2 ⟨first, others⟩
      | error fault =>
          rw [result] at others
          exact FirstViolated.append_of_met first others

theorem make (reported : Reports check requirements) (made : α → β) :
    Reports (check >>= fun value => .ok (made value)) requirements := by
  cases check <;> exact reported

theorem mapError (reported : Reports check requirements) (report : ε → β) :
    Reports (check.mapError report) (requirements.map (.map report)) := by
  cases check with
  | ok value => exact (met_map report).2 reported
  | error fault => exact FirstViolated.map reported report

theorem mapM {check : α → Except ε β} {requirementsOf : α → List (Requirement ε)} {values : List α}
    (each : ∀ value ∈ values, Reports (check value) (requirementsOf value)) :
    Reports (values.mapM check) (values.flatMap requirementsOf) := by
  induction values with
  | nil => exact ok _
  | cons first rest ih =>
      rw [List.mapM_cons, List.flatMap_cons]
      have others := ih fun value member => each value (List.mem_cons_of_mem _ member)
      exact (each first (List.mem_cons_self ..)).bind fun value _ => others.make (value :: ·)

theorem exists_ok_iff (reported : Reports check requirements) :
    (∃ value, check = .ok value) ↔ Met requirements := by
  cases check with
  | ok value => exact iff_of_true ⟨value, rfl⟩ reported
  | error fault =>
      refine iff_of_false ?_ (FirstViolated.not_met reported)
      rintro ⟨_, impossible⟩
      cases impossible

theorem eq_error_iff (reported : Reports check requirements) (fault : ε) :
    check = .error fault ↔ FirstViolated fault requirements := by
  cases check with
  | ok value =>
      refine iff_of_false ?_ fun violated => violated.not_met reported
      intro impossible
      cases impossible
  | error met =>
      constructor
      · rintro ⟨⟩
        exact reported
      · intro violated
        rw [FirstViolated.unique reported violated]

end Reports

end PolicyWatch.Checks
