import PolicyWatch.Proofs.Field.Matcher
import PolicyWatch.Proofs.Text.Blank
import PolicyWatch.Proofs.Text.Numeral
import PolicyWatch.Regex.Size

/-!
# Conditions on numbers

A listed condition on a number is said by a grammar: a comparator and a numeral between blanks.
Main statement: just the values that the grammar admits are read, and a number of an event passes
just if it stands in the relation written to the number written.
-/

namespace PolicyWatch

/-! ## Comparators -/

/-- `comparator.IsWritten sign`: how a comparator is written.  Equality may go without a sign. -/
inductive Comparator.IsWritten : Comparator → List Char → Prop where
  | unsigned : IsWritten .equal []
  | equal : IsWritten .equal ['=']
  | less : IsWritten .less ['<']
  | atMost : IsWritten .atMost ['<', '=']
  | greater : IsWritten .greater ['>']
  | atLeast : IsWritten .atLeast ['>', '=']

namespace Comparator

variable {comparator : Comparator} {sign rest : List Char}

/-- The comparator at the front of a text is written as what stands before the rest. -/
theorem exists_sign (text : List Char) :
    ∃ sign, text = sign ++ (ofFront text).2 ∧ (ofFront text).1.IsWritten sign := by
  unfold ofFront
  split
  · exact ⟨['>', '='], rfl, .atLeast⟩
  · exact ⟨['<', '='], rfl, .atMost⟩
  · exact ⟨['>'], rfl, .greater⟩
  · exact ⟨['<'], rfl, .less⟩
  · exact ⟨['='], rfl, .equal⟩
  · exact ⟨[], rfl, .unsigned⟩

/-- A comparator is read to its end where no further sign follows it. -/
theorem ofFront_append (written : comparator.IsWritten sign) {first : Char}
    (free : first ≠ '<' ∧ first ≠ '>' ∧ first ≠ '=') :
    ofFront (sign ++ first :: rest) = (comparator, first :: rest) := by
  obtain ⟨notLess, notGreater, notEqual⟩ := free
  cases written with
  | unsigned => unfold ofFront; split <;> simp_all
  | equal => rfl
  | less => unfold ofFront; split <;> simp_all
  | atMost => rfl
  | greater => unfold ofFront; split <;> simp_all
  | atLeast => rfl

theorem IsWritten.isBlank_head (written : comparator.IsWritten sign) {first : Char}
    (starts : sign.head? = some first) : Text.isBlank first = false := by
  cases written <;> cases starts <;> decide

end Comparator

/-! ## Comparisons -/

namespace Comparison

/-- `comparison.IsWritten text`: between blanks, a comparator, blanks and a numeral. -/
inductive IsWritten : Comparison → List Char → Prop where
  | intro {comparator : Comparator} {operand : Int} {front sign between numeral back : List Char}
      (blankFront : Text.AreBlank front) (compares : comparator.IsWritten sign)
      (blankBetween : Text.AreBlank between) (spells : Text.Spells numeral operand)
      (blankBack : Text.AreBlank back) :
      IsWritten ⟨comparator, operand⟩ (front ++ (sign ++ (between ++ numeral)) ++ back)

variable {comparison : Comparison} {text : List Char}

theorem exists_cons_of_spells {numeral : List Char} {operand : Int}
    (spells : Text.Spells numeral operand) :
    ∃ first rest, numeral = first :: rest ∧ Text.isBlank first = false ∧
      first ≠ '<' ∧ first ≠ '>' ∧ first ≠ '=' := by
  obtain ⟨first, rest, rfl, starts⟩ := spells.exists_cons
  refine ⟨first, rest, rfl, ?_⟩
  rcases starts with rfl | rfl | isDigit
  · decide
  · decide
  · have notDigit : ∀ mark : Char, mark.isDigit = false → first ≠ mark := by
      rintro mark other rfl
      exact Bool.false_ne_true (other.symm.trans isDigit)
    exact ⟨Text.isBlank_of_isDigit isDigit, notDigit '<' rfl, notDigit '>' rfl, notDigit '=' rfl⟩

theorem exists_cons_of_blank {between numeral : List Char} {operand : Int}
    (blank : Text.AreBlank between) (spells : Text.Spells numeral operand) :
    ∃ first rest, between ++ numeral = first :: rest ∧
      first ≠ '<' ∧ first ≠ '>' ∧ first ≠ '=' := by
  cases between with
  | nil =>
      obtain ⟨first, rest, rfl, _, free⟩ := exists_cons_of_spells spells
      exact ⟨first, rest, rfl, free⟩
  | cons first rest =>
      have isBlank := blank first List.mem_cons_self
      refine ⟨first, rest ++ numeral, rfl, ?_, ?_, ?_⟩ <;>
        rintro rfl <;> exact absurd isBlank (by decide)

theorem trim_of_spells {front numeral back : List Char} {operand : Int}
    (blankFront : Text.AreBlank front) (spells : Text.Spells numeral operand)
    (blankBack : Text.AreBlank back) : Text.trim (front ++ numeral ++ back) = numeral := by
  obtain ⟨last, ends, isDigit⟩ := spells.exists_getLast? []
  obtain ⟨first, rest, rfl, inked, _⟩ := exists_cons_of_spells spells
  exact Text.trim_of_blank blankFront blankBack rfl inked ends (Text.isBlank_of_isDigit isDigit)

theorem exists_trim_eq {comparator : Comparator} {operand : Int}
    {front sign between numeral back : List Char} (blankFront : Text.AreBlank front)
    (compares : comparator.IsWritten sign) (blankBetween : Text.AreBlank between)
    (spells : Text.Spells numeral operand) (blankBack : Text.AreBlank back) :
    ∃ gap, Text.AreBlank gap ∧
      Text.trim (front ++ (sign ++ (between ++ numeral)) ++ back) = sign ++ (gap ++ numeral) := by
  cases sign with
  | nil =>
      -- Without a sign the blanks in front of the numeral are at the end of the text.
      refine ⟨[], List.forall_mem_nil _, ?_⟩
      rw [List.nil_append, List.nil_append, List.nil_append, ← List.append_assoc front]
      exact trim_of_spells (blankFront.append blankBetween) spells blankBack
  | cons mark sign =>
      refine ⟨between, blankBetween, ?_⟩
      obtain ⟨last, ends, isDigit⟩ := spells.exists_getLast? (mark :: sign ++ between)
      rw [List.append_assoc] at ends
      exact Text.trim_of_blank blankFront blankBack rfl (compares.isBlank_head rfl) ends
        (Text.isBlank_of_isDigit isDigit)

/-- A condition is written in a text just if the comparator at its front and the numeral behind
it say so. -/
theorem isWritten_iff :
    comparison.IsWritten text ↔
      (Comparator.ofFront (Text.trim text)).1 = comparison.comparator ∧
        Text.Spells (Text.trim (Comparator.ofFront (Text.trim text)).2) comparison.operand := by
  constructor
  · rintro ⟨blankFront, compares, blankBetween, spells, blankBack⟩
    obtain ⟨gap, blankGap, left⟩ :=
      exists_trim_eq blankFront compares blankBetween spells blankBack
    obtain ⟨first, rest, starts, free⟩ := exists_cons_of_blank blankGap spells
    have numeral := trim_of_spells blankGap spells (List.forall_mem_nil _)
    rw [List.append_nil] at numeral
    rw [left, starts, Comparator.ofFront_append compares free, ← starts, numeral]
    exact ⟨rfl, spells⟩
  · rintro ⟨compares, spells⟩
    obtain ⟨front, back, whole, blankFront, blankBack⟩ := Text.exists_trim text
    obtain ⟨sign, signed, isWritten⟩ := Comparator.exists_sign (Text.trim text)
    obtain ⟨between, rest, behind, blankBetween, blankRest⟩ :=
      Text.exists_trim (Comparator.ofFront (Text.trim text)).2
    rw [compares] at isWritten
    have written := IsWritten.intro blankFront isWritten blankBetween spells
      (blankRest.append blankBack)
    have same : front ++ (sign ++ (between ++ Text.trim (Comparator.ofFront (Text.trim text)).2)) ++
        (rest ++ back) = text := by
      conv_rhs => rw [whole, signed, behind]
      simp only [List.append_assoc]
    rwa [same] at written

theorem IsWritten.unique {other : Comparison} (written : comparison.IsWritten text)
    (again : other.IsWritten text) : comparison = other := by
  obtain ⟨compares, spells⟩ := isWritten_iff.1 written
  obtain ⟨comparesToo, spellsToo⟩ := isWritten_iff.1 again
  have sameComparator := compares.symm.trans comparesToo
  have sameOperand := spells.unique spellsToo
  cases comparison
  cases other
  cases sameComparator
  cases sameOperand
  rfl

/-- A condition on a number is read just if it is written by the grammar, with a number of
sixty-four bits. -/
theorem ofText_eq_ok_iff :
    ofText text = .ok comparison ↔
      comparison.IsWritten text ∧ Text.Bounds.signed64.admits comparison.operand = true := by
  have numeral : Text.readNumeral .signed64 (Text.trim (Comparator.ofFront (Text.trim text)).2) =
        .ok comparison.operand ↔
      Text.Spells (Text.trim (Comparator.ofFront (Text.trim text)).2) comparison.operand ∧
        Text.Bounds.signed64.admits comparison.operand = true :=
    Text.readNumeral_eq_ok_iff (by decide) (by decide)
  rw [isWritten_iff, and_assoc, ← numeral]
  unfold ofText
  dsimp only
  cases Text.readNumeral .signed64 (Text.trim (Comparator.ofFront (Text.trim text)).2) with
  | error fault => simp
  | ok operand =>
      cases comparison
      simp

end Comparison

/-! ## Fields that hold numbers -/

def Field.number? (field : Field) (event : Event) : Option Int :=
  match field with
  | replicas => event.deployment?.map Deployment.replicas
  | processUserId => event.process?.map fun indicator => indicator.signal.userId
  | _ => none

theorem Field.extract_eq_number {field : Field} (numeric : field.kind = .numeric) (event : Event) :
    field.extract event = (field.number? event).toList.map .integer := by
  cases field with
  | replicas => cases event <;> rfl
  | processUserId => cases event <;> rfl
  | _ => cases numeric

namespace FieldMatcher

variable {field : Field} {listed : String}

theorem compile_number [SizeLimit] (numeric : field.kind = .numeric) (listed : String) :
    compile field [listed] =
      match Comparison.ofText listed.toList with
      | .ok comparison => .ok ⟨field, [.number comparison]⟩
      | .error fault => .error (.invalidValue field listed (.notNumeral fault)) := by
  have notPath : field.isPath = false := by simp [Field.isPath, numeric]
  unfold compile
  rw [List.mapM_cons, List.mapM_nil]
  unfold Condition.ofValue checkPatterns
  rw [numeric, notPath]
  dsimp only
  cases Comparison.ofText listed.toList <;> rfl

theorem isMet_number_iff [SizeLimit] {matcher : FieldMatcher} (numeric : field.kind = .numeric)
    (compiled : compile field [listed] = .ok matcher) (event : Event) :
    matcher.isMet event = true ↔
      ∃ number, field.number? event = some number ∧
        ∃ comparison, Comparison.ofText listed.toList = .ok comparison ∧
          comparison.comparator.Relates number comparison.operand := by
  rw [isMet_iff compiled, Field.extract_eq_number numeric]
  simp [Field.Passes, numeric]

/-- Conditions on numbers are read by their grammar and compared exactly.  A value listed for a
field of numbers is taken just if it is a comparator and a number of sixty-four bits between
blanks; an event then passes just if its number stands in that relation to the one written.  Any
other value is refused, and quoted as it was listed. -/
theorem compares_exactly [SizeLimit] (field : Field) (numeric : field.kind = .numeric)
    (listed : String) :
    ((∃ matcher, compile field [listed] = .ok matcher) ↔
        ∃ comparison : Comparison, comparison.IsWritten listed.toList ∧
          Text.Bounds.signed64.admits comparison.operand = true) ∧
      (∀ matcher, compile field [listed] = .ok matcher →
        ∀ comparison : Comparison, comparison.IsWritten listed.toList →
          ∀ event, matcher.isMet event = true ↔
            ∃ number, field.number? event = some number ∧
              comparison.comparator.Relates number comparison.operand) ∧
      ((¬ ∃ comparison : Comparison, comparison.IsWritten listed.toList ∧
          Text.Bounds.signed64.admits comparison.operand = true) →
        ∃ fault, compile field [listed] =
          .error (.invalidValue field listed (.notNumeral fault))) := by
  have compiled := compile_number numeric listed
  simp only [← Comparison.ofText_eq_ok_iff]
  refine ⟨?_, fun matcher made comparison written event => ?_, fun unread => ?_⟩
  · rw [compiled]
    cases Comparison.ofText listed.toList <;> simp
  · rw [isMet_number_iff numeric made]
    refine exists_congr fun number => and_congr_right fun _ => ?_
    constructor
    · rintro ⟨found, read, relates⟩
      rwa [(Comparison.ofText_eq_ok_iff.1 read).1.unique written] at relates
    · intro relates
      cases read : Comparison.ofText listed.toList with
      | error fault =>
          rw [compiled, read] at made
          cases made
      | ok found =>
          rw [← (Comparison.ofText_eq_ok_iff.1 read).1.unique written] at relates
          exact ⟨found, rfl, relates⟩
  · cases read : Comparison.ofText listed.toList with
    | error fault =>
        rw [read] at compiled
        exact ⟨fault, compiled⟩
    | ok comparison => exact absurd ⟨comparison, read⟩ unread

/-- The least number of sixty-four bits may be listed, and the next number is greater. -/
theorem aboveLeast_met_by_next :
    Field.replicas.kind = .numeric ∧
      ∃ matcher, compile .replicas ["\u2003> -9223372036854775808\t"] = .ok matcher ∧
        matcher.isMet (.deployment
          ⟨"d1", "web", "east", "shop", "n1", -9223372036854775807, .empty, []⟩) = true := by
  have digits : Text.Spells "-9223372036854775808".toList (-9223372036854775808) :=
    .negative (List.cons_ne_nil _ _) (List.all_eq_true.1 (by decide))
  have blank : Text.AreBlank ['\u2003'] ∧ Text.AreBlank [' '] ∧ Text.AreBlank ['\t'] :=
    ⟨List.all_eq_true.1 (by decide), List.all_eq_true.1 (by decide), List.all_eq_true.1 (by decide)⟩
  have written : Comparison.IsWritten ⟨.greater, -9223372036854775808⟩
      "\u2003> -9223372036854775808\t".toList :=
    .intro blank.1 .greater blank.2.1 digits blank.2.2
  obtain ⟨taken, meaning, _⟩ :=
    compares_exactly .replicas rfl "\u2003> -9223372036854775808\t"
  obtain ⟨matcher, compiled⟩ := taken.2 ⟨_, written, by decide⟩
  have greater : (-9223372036854775808 : Int) < -9223372036854775807 := by decide
  exact ⟨rfl, matcher, compiled, (meaning matcher compiled _ written _).2 ⟨_, rfl, greater⟩⟩

end FieldMatcher

end PolicyWatch
