import PolicyWatch.Field.Value
import PolicyWatch.Glob.PatternSet

/-!
# Tests of fields

A test of a field holds the conditions that a policy lists for it.  A value of
an event passes if it meets one of them; without conditions, being there is
enough.
-/

namespace PolicyWatch

/-- A test of one field of events. -/
structure FieldMatcher where
  field : Field
  conditions : List Condition

namespace FieldMatcher

def patterns (values : List String) : List (List Glob.Token) :=
  values.filterMap fun value => (Glob.ofText value.toList).toOption

def checkPatterns (field : Field) (values : List String) : Except CompileError Unit :=
  if field.isPath then
    match Glob.setFault? (patterns values) with
    | some fault => .error (.invalidGlob field (String.intercalate "," values) fault)
    | none => .ok ()
  else .ok ()

def compile [SizeLimit] (field : Field) (values : List String) :
    Except CompileError FieldMatcher := do
  let conditions ← values.mapM (Condition.ofValue field)
  checkPatterns field values
  return ⟨field, conditions⟩

def accepts (matcher : FieldMatcher) (value : FieldValue) : Bool :=
  matcher.conditions.isEmpty || matcher.conditions.any fun condition => condition.accepts value

def passing (matcher : FieldMatcher) (event : Event) : List FieldValue :=
  (matcher.field.extract event).filter matcher.accepts

def isMet (matcher : FieldMatcher) (event : Event) : Bool :=
  !(matcher.passing event).isEmpty

end FieldMatcher

end PolicyWatch
