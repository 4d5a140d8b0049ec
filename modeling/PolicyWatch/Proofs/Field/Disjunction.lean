import PolicyWatch.Proofs.CompiledPolicy.Acceptance
import PolicyWatch.Regex.Size

/-!
# Lists of values

A test of a field depends on the values listed for it one by one, and neither on their order nor
on how often they are listed.  Main statement: of two lists in a row each is compiled as it is
alone, and what passes is what passes either.
-/

namespace PolicyWatch

open Checks

/-- Whether a value listed for a field is taken: it can be read, and as a pattern of paths it does
not nest too deep. -/
def Field.Takes [SizeLimit] (field : Field) (listed : String) : Prop :=
  field.Reads listed ∧
    (field.kind = .path → ∀ tokens, Glob.ofText listed.toList = .ok tokens →
      Glob.height tokens ≤ Glob.greatestHeight)

namespace FieldMatcher

variable {field : Field} {first second : List String} {left right : FieldMatcher}

theorem exists_compile_iff [SizeLimit] {values : List String} :
    (∃ matcher, compile field values = .ok matcher) ↔ ∀ listed ∈ values, field.Takes listed := by
  rw [(reports_compile field values).exists_ok_iff, met_append, met_flatMap,
    Field.met_patternRequirements]
  simp only [Field.met_requirements]
  constructor
  · rintro ⟨read, nested⟩ listed member
    exact ⟨read listed member, fun path => nested path listed member⟩
  · intro taken
    exact ⟨fun listed member => (taken listed member).1,
      fun path listed member => (taken listed member).2 path⟩

theorem accepts_congr [SizeLimit] (same : ∀ listed, listed ∈ first ↔ listed ∈ second)
    (compiled : compile field first = .ok left) (compiledToo : compile field second = .ok right)
    (value : FieldValue) : left.accepts value = right.accepts value := by
  have empty : first = [] ↔ second = [] := by
    simp only [List.eq_nil_iff_forall_not_mem, same]
  rw [Bool.eq_iff_iff, accepts_iff compiled, accepts_iff compiledToo, empty]
  simp only [same]

/-- Of two lists in a row, neither of them empty, a value passes the whole just if it passes one. -/
theorem accepts_append [SizeLimit] {both : FieldMatcher} (present : first ≠ [])
    (presentToo : second ≠ []) (compiled : compile field (first ++ second) = .ok both)
    (compiledFirst : compile field first = .ok left)
    (compiledSecond : compile field second = .ok right) (value : FieldValue) :
    both.accepts value = (left.accepts value || right.accepts value) := by
  rw [Bool.eq_iff_iff, Bool.or_eq_true, accepts_iff compiled, accepts_iff compiledFirst,
    accepts_iff compiledSecond]
  simp [present, presentToo, or_and_right, exists_or]

theorem passing_eq [SizeLimit] {values : List String} {matcher : FieldMatcher}
    (compiled : compile field values = .ok matcher) (event : Event) :
    matcher.passing event = (field.extract event).filter matcher.accepts := by
  rw [passing, (of_compile compiled).1]

theorem isMet_iff_passing (matcher : FieldMatcher) (event : Event) :
    matcher.isMet event = true ↔ matcher.passing event ≠ [] := by
  simp [isMet]

/-- A list of values is the disjunction of its values.  Two lists in a row are compiled just if
each is compiled alone; what is then found in an event are the values that pass one of them, each
as often as the event has it and in the order of the event.  Neither the order of the listed
values matters nor how often they are listed, and without any every value of the event passes. -/
theorem lists_are_disjunctions [SizeLimit] (field : Field) :
    (∀ first second : List String, first ≠ [] → second ≠ [] →
      ((∃ both, compile field (first ++ second) = .ok both) ↔
        (∃ left, compile field first = .ok left) ∧ ∃ right, compile field second = .ok right) ∧
      ∀ both left right, compile field (first ++ second) = .ok both →
        compile field first = .ok left → compile field second = .ok right → ∀ event,
          both.passing event = ((field.extract event).filter fun value =>
            left.accepts value || right.accepts value) ∧
          (both.isMet event = true ↔ both.passing event ≠ [])) ∧
    (∀ first second : List String, (∀ listed, listed ∈ first ↔ listed ∈ second) →
      ((∃ left, compile field first = .ok left) ↔ ∃ right, compile field second = .ok right) ∧
      ∀ left right, compile field first = .ok left → compile field second = .ok right →
        ∀ event, left.passing event = right.passing event) ∧
    ∃ anything, compile field [] = .ok anything ∧
      ∀ event, anything.passing event = field.extract event := by
  refine ⟨fun first second present presentToo => ⟨?_, ?_⟩, fun first second same => ⟨?_, ?_⟩, ?_⟩
  · rw [exists_compile_iff, exists_compile_iff, exists_compile_iff, List.forall_mem_append]
  · intro both left right compiled compiledFirst compiledSecond event
    refine ⟨?_, isMet_iff_passing both event⟩
    rw [passing_eq compiled]
    exact List.filter_congr fun value _ =>
      accepts_append present presentToo compiled compiledFirst compiledSecond value
  · rw [exists_compile_iff, exists_compile_iff]
    exact forall_congr' fun listed => by rw [same]
  · intro left right compiled compiledToo event
    rw [passing_eq compiled, passing_eq compiledToo]
    exact List.filter_congr fun value _ => accepts_congr same compiled compiledToo value
  · obtain ⟨anything, compiled⟩ := exists_compile_iff.2 (List.forall_mem_nil field.Takes)
    refine ⟨anything, compiled, fun event => ?_⟩
    rw [passing_eq compiled]
    exact List.filter_eq_self.2 fun value _ => (accepts_iff compiled value).2 (.inl rfl)

/-- What either value asks for is found, in the order of the containers and as often as it is
there. -/
theorem trueOrFalse_passes_each :
    ∃ both left right, compile .privilegedContainer ["TRUE", " false"] = .ok both ∧
      compile .privilegedContainer ["TRUE"] = .ok left ∧
      compile .privilegedContainer [" false"] = .ok right ∧
      ∀ image : ImageName, both.passing (.deployment ⟨"d1", "web", "east", "shop", "n1", 3, .empty,
        [⟨"main", image, false⟩, ⟨"side", image, true⟩, ⟨"main", image, false⟩]⟩) =
          [.flag false, .flag true, .flag false] := by
  obtain ⟨_, passes⟩ := (lists_are_disjunctions .privilegedContainer).1 ["TRUE"] [" false"]
    (by decide) (by decide)
  exact ⟨_, _, _, rfl, rfl, rfl, fun image => (passes _ _ _ rfl rfl rfl _).1⟩

end FieldMatcher

end PolicyWatch
