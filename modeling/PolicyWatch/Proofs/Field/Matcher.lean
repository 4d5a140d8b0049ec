import PolicyWatch.Proofs.Field.Value

/-!
# What tests of fields mean

Main statement: a test of a field is met by an event just if some value of the
field in the event passes some value listed, or is there where none is listed.
-/

namespace PolicyWatch

open Checks

namespace FieldMatcher

theorem mem_patterns {values : List String} {tokens : List Glob.Token} :
    tokens ∈ patterns values ↔
      ∃ listed ∈ values, Glob.ofText listed.toList = .ok tokens := by
  unfold patterns
  rw [List.mem_filterMap]
  refine exists_congr fun listed => and_congr_right fun _ => ?_
  cases Glob.ofText listed.toList <;> simp [Except.toOption]

variable {field : Field} {values : List String} {matcher : FieldMatcher}

theorem of_compile [SizeLimit] (compiled : compile field values = .ok matcher) :
    matcher.field = field ∧
      List.Forall₂ (fun value condition => Condition.ofValue field value = .ok condition)
        values matcher.conditions := by
  unfold compile at compiled
  obtain ⟨conditions, read, rest⟩ := bind_eq_ok_iff.1 compiled
  obtain ⟨_, _, made⟩ := bind_eq_ok_iff.1 rest
  cases made
  exact ⟨rfl, mapM_eq_ok_iff.1 read⟩

theorem accepts_iff [SizeLimit] (compiled : compile field values = .ok matcher)
    (value : FieldValue) :
    matcher.accepts value = true ↔
      values = [] ∨ ∃ listed ∈ values, field.Passes listed value := by
  obtain ⟨_, read⟩ := of_compile compiled
  have none := eq_nil_iff_of_forall₂ read
  have some := exists_mem_iff_of_forall₂ read fun listed condition made =>
    (Condition.accepts_iff made value).symm
  rw [accepts, Bool.or_eq_true, List.isEmpty_iff, List.any_eq_true, none, some]

theorem isMet_iff [SizeLimit] (compiled : compile field values = .ok matcher) (event : Event) :
    matcher.isMet event = true ↔
      ∃ value ∈ field.extract event,
        values = [] ∨ ∃ listed ∈ values, field.Passes listed value := by
  have same := (of_compile compiled).1
  simp only [isMet, passing, same, Bool.not_eq_true', List.isEmpty_eq_false_iff_exists_mem,
    List.mem_filter, accepts_iff compiled]

end FieldMatcher

end PolicyWatch
