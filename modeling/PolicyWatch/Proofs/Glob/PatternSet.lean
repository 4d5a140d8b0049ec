import PolicyWatch.Glob.PatternSet
import PolicyWatch.Proofs.Checks

/-!
# When path patterns compile together

Main statement: patterns compile together just if none of them nests too deep,
and else the fault is that of the first that does, where those compiled alone
come first.
-/

namespace PolicyWatch.Glob

open Checks

/-! ## Patterns without an expression -/

theorem foldl_max_le_iff {heights : List Nat} {start bound : Nat} :
    heights.foldl max start ≤ bound ↔ start ≤ bound ∧ ∀ height ∈ heights, height ≤ bound := by
  induction heights generalizing start with
  | nil => simp
  | cons first rest ih =>
      rw [List.foldl_cons, ih, Nat.max_le, List.forall_mem_cons, and_assoc]

theorem deepest_le_iff {heights : List Nat} {bound : Nat} :
    deepest heights ≤ bound ↔ ∀ height ∈ heights, height ≤ bound := by
  rw [deepest, foldl_max_le_iff]
  exact and_iff_right (Nat.zero_le bound)

theorem rowHeights_append (left right : List Token) :
    rowHeights (left ++ right) = rowHeights left ++ rowHeights right := by
  induction left with
  | nil => rfl
  | cons token rest ih => simp [rowHeights, ih]

theorem rowHeights_of_literal {tokens : List Token} (literal : tokens.all Token.isLiteral = true) :
    ∀ height ∈ rowHeights tokens, height = 0 := by
  induction tokens with
  | nil => simp [rowHeights]
  | cons token rest ih =>
      rw [List.all_cons, Bool.and_eq_true] at literal
      cases token with
      | literal character =>
          intro height member
          rw [rowHeights, List.mem_append] at member
          rcases member with own | later
          · obtain ⟨_, _, rfl⟩ := List.mem_map.1 own
            rfl
          · exact ih literal.2 height later
      | _ => cases literal.1

/-- A pattern that needs no expression never nests too deep. -/
theorem height_le_of_isPlain {tokens : List Token} (plain : isPlain tokens = true) :
    height tokens ≤ greatestHeight := by
  have shallow : ∀ height ∈ rowHeights tokens, height ≤ 1 := by
    unfold isPlain at plain
    split at plain
    · rename_i last
      obtain ⟨front, rfl⟩ := List.getLast?_eq_some_iff.1 last
      rw [List.dropLast_concat] at plain
      intro height member
      rw [rowHeights_append, List.mem_append] at member
      rcases member with within | ending
      · rw [rowHeights_of_literal plain height within]
        exact Nat.zero_le 1
      · simp only [rowHeights, Token.heights, List.append_nil, List.mem_cons, List.not_mem_nil,
          or_false] at ending
        omega
    · intro height member
      rw [rowHeights_of_literal plain height member]
      exact Nat.zero_le 1
  have low : deepest (rowHeights tokens) ≤ 1 := deepest_le_iff.2 shallow
  unfold height greatestHeight
  omega

/-! ## Requirements on patterns -/

def aloneRequirement (tokens : List Token) : Requirement Fault :=
  ⟨height tokens ≤ greatestHeight, .tooDeepAlone (toText tokens)⟩

/-- What is required of a pattern that is compiled with others, at its position. -/
def togetherRequirement (entry : List Token × Nat) : Requirement Fault :=
  ⟨height entry.1 ≤ greatestHeight, .tooDeepTogether entry.2⟩

def compiledAlone (patterns : List (List Token)) : List (List Token) :=
  (patterns.filter fun tokens => !isPlain tokens).filter hasExtension

def compiledTogether (patterns : List (List Token)) : List (List Token) :=
  (patterns.filter fun tokens => !isPlain tokens).filter fun tokens => !hasExtension tokens

def requirements (patterns : List (List Token)) : List (Requirement Fault) :=
  (compiledAlone patterns).map aloneRequirement ++
    (compiledTogether patterns).zipIdx.map togetherRequirement

theorem nestsTooDeep_iff {tokens : List Token} :
    nestsTooDeep tokens = true ↔ ¬ height tokens ≤ greatestHeight := by
  simp [nestsTooDeep]

theorem nestsTooDeep_eq_false_iff {tokens : List Token} :
    nestsTooDeep tokens = false ↔ height tokens ≤ greatestHeight := by
  simp [nestsTooDeep]

theorem met_alone {patterns : List (List Token)} :
    Met (patterns.map aloneRequirement) ↔ ∀ tokens ∈ patterns, height tokens ≤ greatestHeight :=
  List.forall_mem_map

theorem met_together {patterns : List (List Token)} :
    Met (patterns.zipIdx.map togetherRequirement) ↔
      ∀ tokens ∈ patterns, height tokens ≤ greatestHeight := by
  rw [Met, List.forall_mem_map]
  exact forall_mem_zipIdx_iff fun tokens => height tokens ≤ greatestHeight

theorem met_requirements {patterns : List (List Token)} :
    Met (requirements patterns) ↔ ∀ tokens ∈ patterns, height tokens ≤ greatestHeight := by
  rw [requirements, met_append, met_alone, met_together]
  constructor
  · rintro ⟨alone, together⟩ tokens member
    by_cases plain : isPlain tokens = true
    · exact height_le_of_isPlain plain
    · have compiled : tokens ∈ patterns.filter fun tokens => !isPlain tokens := by
        simp [member, plain]
      by_cases extended : hasExtension tokens = true
      · exact alone tokens (List.mem_filter.2 ⟨compiled, extended⟩)
      · exact together tokens (List.mem_filter.2 ⟨compiled, by simp [extended]⟩)
  · intro within
    have inside : ∀ tokens ∈ patterns.filter fun tokens => !isPlain tokens,
        height tokens ≤ greatestHeight := fun tokens member =>
      within tokens (List.mem_filter.1 member).1
    exact ⟨fun tokens member => inside tokens (List.mem_filter.1 member).1,
      fun tokens member => inside tokens (List.mem_filter.1 member).1⟩

theorem firstViolated_alone {patterns : List (List Token)} {tokens : List Token}
    (found : patterns.find? nestsTooDeep = some tokens) :
    FirstViolated (.tooDeepAlone (toText tokens)) (patterns.map aloneRequirement) := by
  induction patterns with
  | nil => cases found
  | cons first rest ih =>
      rw [List.find?_cons] at found
      split at found
      · rename_i deep
        cases found
        exact .here (aloneRequirement tokens) _ (nestsTooDeep_iff.1 deep) rfl
      · rename_i shallow
        exact .later (nestsTooDeep_eq_false_iff.1 shallow) (ih found)

theorem firstViolated_together {patterns : List (List Token)} {index : Nat} (start : Nat)
    (found : patterns.findIdx? nestsTooDeep = some index) :
    FirstViolated (.tooDeepTogether (start + index))
      ((patterns.zipIdx start).map togetherRequirement) := by
  induction patterns generalizing start index with
  | nil => cases found
  | cons first rest ih =>
      rw [List.findIdx?_cons] at found
      split at found
      · rename_i deep
        cases found
        exact .here (togetherRequirement (first, start)) _ (nestsTooDeep_iff.1 deep) rfl
      · rename_i shallow
        obtain ⟨later, foundLater, rfl⟩ := Option.map_eq_some_iff.1 found
        refine .later (nestsTooDeep_eq_false_iff.1 (Bool.not_eq_true _ ▸ shallow)) ?_
        rw [← Nat.add_assoc, Nat.add_right_comm]
        exact ih (start + 1) foundLater

theorem setFault?_eq (patterns : List (List Token)) :
    setFault? patterns = ((compiledAlone patterns).find? nestsTooDeep).elim
      (((compiledTogether patterns).findIdx? nestsTooDeep).map .tooDeepTogether)
      fun tokens => some (.tooDeepAlone (toText tokens)) := by
  simp only [setFault?, List.partition_eq_filter_filter, compiledAlone, compiledTogether]
  cases ((patterns.filter fun tokens => !isPlain tokens).filter hasExtension).find? nestsTooDeep <;>
    rfl

/-- Compiling patterns together goes through their requirements. -/
theorem reports_setFault? (patterns : List (List Token)) :
    Reports ((setFault? patterns).elim (.ok ()) .error) (requirements patterns) := by
  rw [setFault?_eq, requirements]
  cases alone : (compiledAlone patterns).find? nestsTooDeep with
  | some tokens => exact (firstViolated_alone alone).append _
  | none =>
      have metAlone : Met ((compiledAlone patterns).map aloneRequirement) := by
        refine met_alone.2 fun tokens member => nestsTooDeep_eq_false_iff.1 ?_
        exact Bool.eq_false_iff.2 (List.find?_eq_none.1 alone tokens member)
      cases together : (compiledTogether patterns).findIdx? nestsTooDeep with
      | some index =>
          have violated := firstViolated_together 0 together
          rw [Nat.zero_add] at violated
          exact violated.append_of_met metAlone
      | none =>
          refine met_append.2 ⟨metAlone, met_together.2 fun tokens member => ?_⟩
          exact nestsTooDeep_eq_false_iff.1 (List.findIdx?_eq_none_iff.1 together tokens member)

/-! ## Patterns of any depth -/

def braces : Nat → List Char
  | 0 => ['a']
  | depth + 1 => '\x7b' :: (braces depth ++ ['\x7d'])

/-- The token that a letter in braces is read as. -/
def nested : Nat → Token
  | 0 => .literal 'a'
  | depth + 1 => .branches [[nested depth]]

theorem readTokens_braces (depth fuel : Nat) (reading : Reading) (previous : Option Char)
    (rest : List Char) :
    ∃ last, readTokens (fuel + (braces depth).length) reading previous (braces depth ++ rest) =
      readTokens fuel (reading.add (nested depth)) (some last) rest := by
  induction depth generalizing fuel reading previous rest with
  | zero => exact ⟨'a', rfl⟩
  | succ depth ih =>
      obtain ⟨last, inside⟩ := ih (fuel + 1) reading.openGroup (some '\x7b') ('\x7d' :: rest)
      refine ⟨'\x7d', ?_⟩
      have opened : readTokens (fuel + (braces (depth + 1)).length) reading previous
            (braces (depth + 1) ++ rest) =
          readTokens (fuel + 1 + (braces depth).length) reading.openGroup (some '\x7b')
            (braces depth ++ '\x7d' :: rest) := by
        have length : fuel + (braces (depth + 1)).length =
            fuel + 1 + (braces depth).length + 1 := by
          simp only [braces, List.length_cons, List.length_append, List.length_nil]
          omega
        rw [length, braces, List.cons_append, List.append_assoc]
        rfl
      rw [opened, inside]
      rfl

/-- However deep the braces, the pattern can be read. -/
theorem ofText_braces (depth : Nat) :
    ofText ('/' :: braces depth) = .ok [.literal '/', nested depth] := by
  obtain ⟨last, inside⟩ :=
    readTokens_braces depth 1 (Reading.start.add (.literal '/')) (some '/') []
  have started : ofText ('/' :: braces depth) =
      readTokens (1 + (braces depth).length) (Reading.start.add (.literal '/')) (some '/')
        (braces depth ++ []) := by
    rw [ofText, List.length_cons, List.append_nil, Nat.add_comm 1]
    rfl
  rw [started, inside]
  rfl

theorem isBlankRow_nested (depth : Nat) : isBlankRow [nested depth] = false := by
  induction depth with
  | zero => simp [nested, isBlankRow]
  | succ depth ih => simp [nested, isBlankRow, allBlank, ih]

theorem heights_nested (depth : Nat) : (nested depth).heights = [depth] := by
  induction depth with
  | zero => rfl
  | succ depth ih =>
      simp [nested, Token.heights, choiceHeights, isBlankRow_nested, rowHeights, ih, joinedHeight]

/-- Every pair of braces is one more level. -/
theorem height_braces (depth : Nat) : height [.literal '/', nested depth] = depth + 1 := by
  have slash : (Token.literal '/').heights = [0] := rfl
  simp [height, rowHeights, heights_nested, slash, deepest]

end PolicyWatch.Glob
