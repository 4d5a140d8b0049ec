import PolicyWatch.Field.Matcher
import PolicyWatch.Proofs.Checks

/-!
# What listed values mean

Which values of an event pass a value that a policy lists, said of the listed
text itself.  Main statement: the condition read from a listed value accepts just
the values that pass it.
-/

namespace PolicyWatch

def Comparator.Relates (value operand : Int) : Comparator → Prop
  | equal => value = operand
  | less => value < operand
  | atMost => value ≤ operand
  | greater => value > operand
  | atLeast => value ≥ operand

/-- Whether a value of an event passes a listed value, by the kind of the field:
a text that the anchored expression finds, a path that equals the listed one or
fits it as a pattern, a truth value written as listed, a number in the relation
listed, an operation of the name listed. -/
def Field.Passes [SizeLimit] (field : Field) (listed : String) (value : FieldValue) : Prop :=
  match field.kind, value with
  | .regex ignoreCase, .text text =>
      ∃ expression, regexOfValue? ignoreCase listed = some expression ∧
        expression.isFoundIn text.toList = true
  | .path, .text path =>
      path = listed ∨ ∃ tokens, Glob.ofText listed.toList = .ok tokens ∧
        (Glob.toRegex tokens).isFoundIn (Text.spread path.toList) = true
  | .boolean, .flag flag =>
      Text.lowerBasic (Text.trim listed.toList) = (if flag then "true" else "false").toList
  | .numeric, .integer number =>
      ∃ comparison, Comparison.ofText listed.toList = .ok comparison ∧
        comparison.comparator.Relates number comparison.operand
  | .fileOperation, .operation operation =>
      Text.upperBasic (Text.trim listed.toList) = operation.name.toList
  | _, _ => False

/-- Whether a listed value can be read as the kind of a field says. -/
def Field.Reads [SizeLimit] (field : Field) (listed : String) : Prop :=
  match field.kind with
  | .regex ignoreCase => ∃ expression, regexOfValue? ignoreCase listed = some expression
  | .path =>
      Text.startsWith ['/'] listed.toList = true ∧ ∃ tokens, Glob.ofText listed.toList = .ok tokens
  | .boolean =>
      ∃ flag : Bool,
        Text.lowerBasic (Text.trim listed.toList) = (if flag then "true" else "false").toList
  | .numeric => ∃ comparison, Comparison.ofText listed.toList = .ok comparison
  | .fileOperation =>
      ∃ operation : FileOperation,
        Text.upperBasic (Text.trim listed.toList) = operation.name.toList

theorem Comparator.holds_iff (comparator : Comparator) (value operand : Int) :
    comparator.holds value operand = true ↔ comparator.Relates value operand := by
  cases comparator <;> simp [holds, Relates]

theorem flagOfText?_eq_some_iff (text : List Char) (flag : Bool) :
    flagOfText? text = some flag ↔
      Text.lowerBasic (Text.trim text) = (if flag then "true" else "false").toList := by
  unfold flagOfText?
  dsimp only
  by_cases yes : Text.lowerBasic (Text.trim text) = "true".toList
  · rw [if_pos yes, yes]
    cases flag <;> decide
  · rw [if_neg yes]
    by_cases no : Text.lowerBasic (Text.trim text) = "false".toList
    · rw [if_pos no, no]
      cases flag <;> decide
    · rw [if_neg no]
      cases flag with
      | false => simpa using no
      | true => simpa using yes

namespace FileOperation

theorem mem_all (operation : FileOperation) : operation ∈ all := by
  cases operation <;> decide

theorem name_injective {left right : FileOperation}
    (same : left.name.toList = right.name.toList) : left = right := by
  cases left <;> cases right <;> first | rfl | exact absurd same (by decide)

theorem ofText?_eq_some_iff (text : String) (operation : FileOperation) :
    ofText? text = some operation ↔
      Text.upperBasic (Text.trim text.toList) = operation.name.toList := by
  unfold ofText?
  constructor
  · intro found
    have named := List.find?_some found
    simpa [eq_comm] using named
  · intro named
    cases found : all.find? fun operation =>
        operation.name.toList = Text.upperBasic (Text.trim text.toList) with
    | none =>
        have missed := List.find?_eq_none.1 found operation (mem_all operation)
        exact absurd (decide_eq_true named.symm) missed
    | some other =>
        have otherNamed := List.find?_some found
        rw [name_injective ((of_decide_eq_true otherNamed).trans named)]

end FileOperation

theorem PathPattern.ofValue_eq_ok_iff {field : Field} {value : String} {pattern : PathPattern} :
    PathPattern.ofValue field value = .ok pattern ↔
      Text.startsWith ['/'] value.toList = true ∧
        ∃ tokens, Glob.ofText value.toList = .ok tokens ∧
          ⟨value, Glob.toRegex tokens⟩ = pattern := by
  unfold ofValue
  split
  · rename_i absolute
    cases Glob.ofText value.toList with
    | error fault => simp
    | ok tokens => simp [absolute]
  · rename_i relative
    simp [relative]

theorem Condition.accepts_iff [SizeLimit] {field : Field} {listed : String} {condition : Condition}
    (read : Condition.ofValue field listed = .ok condition) (value : FieldValue) :
    condition.accepts value = true ↔ field.Passes listed value := by
  unfold ofValue at read
  unfold Field.Passes
  cases kind : field.kind with
  | regex ignoreCase =>
      simp only [kind] at read
      split at read
      · rename_i expression built
        cases read
        cases value <;> simp [accepts, built]
      · cases read
  | path =>
      simp only [kind] at read
      split at read
      · rename_i pattern written
        cases read
        obtain ⟨tokens, parsed, rfl⟩ := PathPattern.ofValue_eq_ok_iff.1 written |>.2
        cases value <;> simp [accepts, PathPattern.accepts, parsed]
      · cases read
  | boolean =>
      simp only [kind] at read
      split at read
      · rename_i wanted written
        cases read
        cases value with
        | flag flag =>
            change (flag == wanted) = true ↔
              Text.lowerBasic (Text.trim listed.toList) = (if flag then "true" else "false").toList
            rw [← flagOfText?_eq_some_iff, written, Option.some_inj, beq_iff_eq]
            exact eq_comm
        | _ => simp [accepts]
      · cases read
  | numeric =>
      simp only [kind] at read
      split at read
      · rename_i comparison written
        cases read
        cases value <;> simp [accepts, written, Comparison.holds, Comparator.holds_iff]
      · cases read
  | fileOperation =>
      simp only [kind] at read
      split at read
      · rename_i wanted written
        cases read
        cases value with
        | operation operation =>
            change (operation == wanted) = true ↔
              Text.upperBasic (Text.trim listed.toList) = operation.name.toList
            rw [← FileOperation.ofText?_eq_some_iff, written, Option.some_inj, beq_iff_eq]
            exact eq_comm
        | _ => simp [accepts]
      · cases read

end PolicyWatch
