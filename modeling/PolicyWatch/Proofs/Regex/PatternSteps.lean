import PolicyWatch.Proofs.Regex.Reader
import PolicyWatch.Regex.Parser

/-!
# Reading patterns step by step

The readers of counts, groups, leaves and sequences, put together from the forms of
readers.  Each form is proved equal to the reader it stands for.
-/

namespace PolicyWatch.Regex

/-! ## Counts -/

theorem isBlank_closing : Text.isBlank ')' = false := by
  decide

theorem trimStart_append (text : List Char) {tail : List Char} (closes : IsClosing tail) :
    Text.trimStart (text ++ tail) = Text.trimStart text ++ tail := by
  obtain ⟨line, rfl⟩ := closes
  unfold Text.trimStart
  induction text with
  | nil => exact List.dropWhile_cons_of_neg (by rw [isBlank_closing]; exact Bool.false_ne_true)
  | cons character rest ih =>
      rw [List.cons_append, List.dropWhile_cons, List.dropWhile_cons]
      split
      · exact ih
      · rfl

/-- A digit joins the digits of a count, last first. -/
def addDigit? (read : List Char) (character : Char) : Option (List Char) :=
  if character.isDigit then some (character :: read) else none

theorem skim_addDigit? (flags : Flags) {fuel : Nat} (read : List Char) {text : List Char}
    (enough : text.length ≤ fuel) :
    (skim flags addDigit? (fuel + 1) read text).map (fun read => (read.1.reverse, read.2)) =
      some (readCountDigits flags fuel read text) := by
  induction fuel generalizing read text with
  | zero =>
      obtain rfl := List.length_eq_zero_iff.1 (Nat.le_zero.1 enough)
      rfl
  | succ fuel ih =>
      cases text with
      | nil => rfl
      | cons character rest =>
          rw [skim, List.head?_cons, Option.all_some, readCountDigits]
          by_cases isDigit : character.isDigit
          · have taken : addDigit? read character = some (character :: read) := if_pos isDigit
            rw [taken, if_neg (by simp), if_pos isDigit]
            simp only [onCharacter, taken, Option.bind_some]
            exact ih _ (Nat.le_trans (flags.length_skip_le rest) (Nat.le_of_succ_le_succ enough))
          · have stops : addDigit? read character = none := if_neg isDigit
            rw [stops, if_pos Option.isNone_none, if_neg isDigit]
            rfl

/-- The count that digits stand for; without digits the count is missing. -/
def countOf? (digits : List Char) : Option (Option Nat) :=
  match digits with
  | [] => some none
  | digits =>
      match Text.digitsValue? 10 digits with
      | some count => if count ≤ greatestCount then some (some count) else none
      | none => none

def dropBlanks (flags : Flags) (text : List Char) : List Char :=
  if text.head?.any Text.isBlank then flags.skip (Text.trimStart text) else text

theorem some_dropBlanks {α : Type} (flags : Flags) (value : α) (text : List Char) :
    some (value, dropBlanks flags text) =
      if Option.any Text.isBlank text.head? then
        some (value, flags.skip (Text.trimStart text))
      else some (value, text) := by
  unfold dropBlanks
  split <;> rfl

theorem readCount_eq (flags : Flags) (text : List Char) :
    readCount flags text =
      ((skim flags addDigit? (text.length + 1) [] (Text.trimStart text)).bind fun read =>
        some (read.1, dropBlanks flags read.2)).bind fun read =>
          (countOf? read.1.reverse).map (·, read.2) := by
  have shorter : (Text.trimStart text).length ≤ text.length :=
    (List.dropWhile_sublist Text.isBlank).length_le
  have digits := skim_addDigit? flags [] shorter
  unfold readCount
  obtain ⟨read, skimmed, same⟩ := Option.map_eq_some_iff.1 digits
  rw [skimmed, ← same]
  dsimp only [Option.bind_some]
  unfold countOf? dropBlanks
  cases read.1.reverse with
  | nil => rfl
  | cons digit digits =>
      dsimp only
      cases Text.digitsValue? 10 (digit :: digits) with
      | none => rfl
      | some count =>
          dsimp only
          split <;> rfl

/-- Read the brace behind two counts. -/
def readCountsEnd (least most : Nat) : List Char → Option ((Nat × Option Nat) × List Char) :=
  onMark '\x7d' (fun after => if least ≤ most then some ((least, some most), after) else none)
    fun _ => none

/-- Read the greatest count of a repetition, behind its comma. -/
def readMost (flags : Flags) (least : Nat) : List Char → Option ((Nat × Option Nat) × List Char) :=
  onMark '\x7d' (fun after => some ((least, none), after)) fun text =>
    (readCount flags text).bind fun read =>
      read.1.bind fun most => readCountsEnd least most read.2

/-- Read the counts of a repetition, behind its least count. -/
def readRoundsFrom (flags : Flags) (least : Nat) :
    List Char → Option ((Nat × Option Nat) × List Char) :=
  onMark '\x7d' (fun rest => some ((least, some least), rest)) <|
  onMark ',' (fun rest => readMost flags least (flags.skip rest)) fun _ => none

def readRounds (flags : Flags) (text : List Char) : Option ((Nat × Option Nat) × List Char) :=
  if text = [] then none
  else (readCount flags text).bind fun read =>
    read.1.bind fun least => readRoundsFrom flags least read.2

/-- How the counts of a repetition are reported. -/
def roundsOf (read : (Nat × Option Nat) × List Char) : Nat × Option Nat × List Char :=
  (read.1.1, read.1.2, read.2)

theorem map_readMost (flags : Flags) (least : Nat) (text : List Char) :
    (readMost flags least text).map roundsOf =
      match text with
      | '\x7d' :: after => some (least, none, after)
      | rest =>
          match readCount flags rest with
          | some (some most, '\x7d' :: after) =>
              if least ≤ most then some (least, some most, after) else none
          | _ => none := by
  unfold readMost readCountsEnd
  split
  · rw [onMark_cons rfl]
    rfl
  · rename_i notClosed
    rw [onMark_of_ne notClosed]
    split
    · rename_i most after same
      rw [same]
      dsimp only [Option.bind_some]
      rw [onMark_cons rfl]
      split <;> rfl
    · rename_i notCounted
      cases counted : readCount flags text with
      | none => rfl
      | some read =>
          obtain ⟨most?, rest⟩ := read
          cases most? with
          | none => rfl
          | some most =>
              dsimp only [Option.bind_some]
              rw [onMark_of_ne]
              · rfl
              · rintro after rfl
                exact notCounted most after counted

theorem readCounts_eq (flags : Flags) (text : List Char) :
    readCounts flags text = (readRounds flags (flags.skip text)).map roundsOf := by
  unfold readCounts readRounds
  cases flags.skip text with
  | nil => rfl
  | cons character rest =>
      rw [if_neg (List.cons_ne_nil _ _)]
      dsimp only
      cases readCount flags (character :: rest) with
      | none => rfl
      | some read =>
          obtain ⟨least?, behind⟩ := read
          cases least? with
          | none => rfl
          | some least =>
              dsimp only [Option.bind_some]
              unfold readRoundsFrom
              split
              · rename_i same
                cases same
                rw [onMark_cons rfl]
                rfl
              · rename_i same
                cases same
                rewrite [onMark_of_ne (by simp), onMark_cons rfl, map_readMost]
                rfl
              · rename_i notClosed notComma
                rw [onMark_of_ne, onMark_of_ne]
                · rfl
                · rintro rest rfl
                  exact notComma least rest rfl
                · rintro rest rfl
                  exact notClosed least rest rfl

/-! ## Groups -/

theorem readName_cons (read : List Char) (character : Char) (rest : List Char) :
    readName read (character :: rest) =
      if character = '>' then if read.isEmpty then none else some (read.reverse, rest)
      else if isNameCharacter read.isEmpty character then readName (character :: read) rest
      else none := by
  rw [readName.eq_def]
  split
  · rename_i same
    cases same
  · rename_i same
    cases same
    rfl
  · rename_i notAngle same
    cases same
    rw [if_neg fun isAngle => notAngle isAngle]

theorem isLocal_readName (read : List Char) : IsLocal (readName read) := by
  intro text name rest done
  induction text generalizing read with
  | nil => cases done
  | cons character text ih =>
      rw [readName_cons] at done
      by_cases isAngle : character = '>'
      · rw [if_pos isAngle] at done
        split at done
        · cases done
        · rename_i named
          cases done
          refine ⟨[character], rfl, fun other => ?_⟩
          exact (readName_cons ..).trans ((if_pos isAngle).trans (if_neg named))
      · rw [if_neg isAngle] at done
        split at done
        · rename_i mayStand
          obtain ⟨used, rfl, same⟩ := ih _ done
          refine ⟨character :: used, rfl, fun other => ?_⟩
          exact (readName_cons ..).trans ((if_neg isAngle).trans ((if_pos mayStand).trans
            (same other)))
        · cases done

theorem readFlags_cons (flags : Flags) (seen : List Char) (dangling : Bool) (letter : Char)
    (rest : List Char) :
    readFlags flags seen dangling (letter :: rest) =
      if letter = ':' ∨ letter = ')' then
        if dangling then none else some (flags, seen.isEmpty, letter :: rest)
      else if seen.contains letter then none
      else if letter = '-' then readFlags flags ('-' :: seen) true rest
      else (flags.put? letter (!seen.contains '-')).bind fun changed =>
        readFlags changed (letter :: seen) false rest := by
  rw [readFlags.eq_def]
  split
  · rename_i same
    cases same
    rfl
  · rename_i same
    cases same
    rfl
  · rename_i same
    cases same
  · rename_i notColon notClosing same
    cases same
    rw [if_neg (not_or.2 ⟨notColon, notClosing⟩)]
    refine if_congr Iff.rfl rfl (if_congr Iff.rfl rfl ?_)
    split <;> rename_i same <;> rw [same] <;> rfl

def readNamed (flags : Flags) (text : List Char) : Option (Opening × List Char) :=
  (readName [] text).map fun read => (.group flags true (some read.1), read.2)

/-- Read flags, and what stands in front of the mark that ends them. -/
def readFlagsAlone (flags : Flags) (text : List Char) : Option ((Flags × Bool) × List Char) :=
  (readFlags flags [] false text).map fun read => ((read.1, read.2.1), read.2.2)

def readFlagsEnd (read : Flags × Bool) : List Char → Option (Opening × List Char) :=
  onCharacter fun mark after =>
    if mark = ':' then some (.group read.1 false none, after)
    else if mark = ')' ∧ read.2 = false then some (.setting read.1, after)
    else none

def readFlagged (flags : Flags) (text : List Char) : Option (Opening × List Char) :=
  (readFlagsAlone flags text).bind fun read => readFlagsEnd read.1 read.2

/-- Read what follows the question mark of a group. -/
def readMarkedOpening (flags : Flags) : List Char → Option (Opening × List Char) :=
  onPair 'P' '<' (readNamed flags) <|
  onPair '<' '=' (fun _ => none) <|
  onPair '<' '!' (fun _ => none) <|
  onMark '<' (readNamed flags) (readFlagged flags)

theorem readFlagged_eq (flags : Flags) (text : List Char) :
    readFlagged flags text =
      match readFlags flags [] false text with
      | some (changed, _, ':' :: after) => some (.group changed false none, after)
      | some (changed, false, ')' :: after) => some (.setting changed, after)
      | _ => none := by
  unfold readFlagged readFlagsAlone readFlagsEnd
  cases readFlags flags [] false text with
  | none => rfl
  | some read =>
      obtain ⟨changed, isBare, rest⟩ := read
      dsimp only [Option.map_some, Option.bind_some]
      cases rest with
      | nil => rfl
      | cons mark after =>
          simp only [onCharacter]
          split
          · rename_i isColon
            subst isColon
            rfl
          · rename_i notColon
            split
            · rename_i given
              obtain ⟨rfl, rfl⟩ := given
              rfl
            · rename_i notSetting
              split
              · rename_i same
                cases same
                exact absurd rfl notColon
              · rename_i same
                cases same
                exact absurd ⟨rfl, rfl⟩ notSetting
              · rfl

/-- What is read as flags stands in front of a mark, and does not depend on what follows. -/
theorem readFlags_local {flags : Flags} {seen : List Char} {dangling : Bool}
    {text rest : List Char} {changed : Flags} {isBare : Bool}
    (done : readFlags flags seen dangling text = some (changed, isBare, rest)) :
    ∃ used mark after, rest = mark :: after ∧ text = used ++ mark :: after ∧
      ∀ other, readFlags flags seen dangling (used ++ mark :: other) =
        some (changed, isBare, mark :: other) := by
  induction text generalizing flags seen dangling with
  | nil => cases done
  | cons letter text ih =>
      rw [readFlags_cons] at done
      by_cases ends : letter = ':' ∨ letter = ')'
      · rw [if_pos ends] at done
        split at done
        · cases done
        · rename_i complete
          cases done
          refine ⟨[], letter, text, rfl, rfl, fun other => ?_⟩
          exact (readFlags_cons ..).trans ((if_pos ends).trans (if_neg complete))
      · rw [if_neg ends] at done
        split at done
        · cases done
        · rename_i fresh
          have onwards : ∀ {changedHere : Flags} {seenHere : List Char} {danglingHere : Bool},
              readFlags changedHere seenHere danglingHere text = some (changed, isBare, rest) →
              (∀ other, readFlags flags seen dangling (letter :: other) =
                readFlags changedHere seenHere danglingHere other) →
              ∃ used mark after, rest = mark :: after ∧ letter :: text = used ++ mark :: after ∧
                ∀ other, readFlags flags seen dangling (used ++ mark :: other) =
                  some (changed, isBare, mark :: other) := by
            intro changedHere seenHere danglingHere done step
            obtain ⟨used, mark, after, isRest, rfl, same⟩ := ih done
            exact ⟨letter :: used, mark, after, isRest, rfl, fun other =>
              (step _).trans (same other)⟩
          split at done
          · rename_i isSign
            refine onwards done fun other => ?_
            exact (readFlags_cons ..).trans ((if_neg ends).trans ((if_neg fresh).trans
              (if_pos isSign)))
          · rename_i notSign
            obtain ⟨next, isNext, done⟩ := Option.bind_eq_some_iff.1 done
            refine onwards done fun other => ?_
            refine (readFlags_cons ..).trans ((if_neg ends).trans ((if_neg fresh).trans
              ((if_neg notSign).trans ?_)))
            rw [isNext]
            rfl

theorem isLocal_readFlagged (flags : Flags) : IsLocal (readFlagged flags) := by
  intro text opening rest done
  unfold readFlagged readFlagsAlone at done ⊢
  obtain ⟨read, isRead, ended⟩ := Option.bind_eq_some_iff.1 done
  obtain ⟨⟨changed, isBare, behind⟩, isFlags, rfl⟩ := Option.map_eq_some_iff.1 isRead
  obtain ⟨used, mark, after, rfl, rfl, same⟩ := readFlags_local isFlags
  have marked : rest = after ∧ ∀ other,
      readFlagsEnd (changed, isBare) (mark :: other) = some (opening, other) := by
    simp only [readFlagsEnd, onCharacter] at ended ⊢
    split at ended
    · rename_i isColon
      cases ended
      exact ⟨rfl, fun _ => if_pos isColon⟩
    · rename_i notColon
      split at ended
      · rename_i closes
        cases ended
        exact ⟨rfl, fun _ => (if_neg notColon).trans (if_pos closes)⟩
      · cases ended
  obtain ⟨rfl, marked⟩ := marked
  refine ⟨used ++ [mark], List.append_cons used mark rest, fun other => ?_⟩
  rw [List.append_assoc, List.singleton_append, same other]
  exact marked other

theorem readGroupOpening_eq (flags : Flags) (text : List Char) :
    readGroupOpening flags text =
      onMark '?' (readMarkedOpening flags) (fun text => some (.group flags true none, text))
        (flags.skip text) := by
  unfold readGroupOpening readMarkedOpening
  split
  · rename_i rest same
    rw [onMark_cons same, onPair_cons]
    rfl
  · rename_i rest same
    rw [onMark_cons same, onPair_of_ne (by simp), onPair_cons]
  · rename_i rest same
    rw [onMark_cons same, onPair_of_ne (by simp), onPair_of_ne (by simp), onPair_cons]
  · rename_i rest notEqual notUnequal same
    rw [onMark_cons same, onPair_of_ne (by simp), onPair_of_ne, onPair_of_ne, onMark_cons rfl]
    · rfl
    · rintro after same
      exact notUnequal after (List.cons.inj same).2
    · rintro after same
      exact notEqual after (List.cons.inj same).2
  · rename_i rest notNamed notEqual notUnequal notAngle same
    rw [onMark_cons same, onPair_of_ne notNamed, onPair_of_ne notEqual, onPair_of_ne notUnequal,
      onMark_of_ne notAngle]
    exact (readFlagged_eq flags rest).symm
  · rename_i notMarked
    rw [onMark_of_ne notMarked]

/-! ## Leaves -/

def partOfEscaped (flags : Flags) : Escaped → Part
  | .character value => Part.leaf (flags.literal value)
  | .set value => Part.leaf (.chars value)
  | .anchor test => Part.leaf (.anchor test)

def partOfNested (read : Nested) : Part :=
  ⟨.chars read.set, read.height, true⟩

def readLeafWith (escaped : List Char → Option (Escaped × List Char)) (flags : Flags) :
    List Char → Option (Part × List Char) :=
  onMark '\\' (fun rest =>
    (escaped rest).map fun read => (partOfEscaped flags read.1, read.2)) <|
  onMark '.' (fun rest => (flags.dot?.map Part.leaf).map (·, rest)) <|
  onMark '^' (fun rest => some (Part.leaf (.anchor flags.caret), rest)) <|
  onMark '$' (fun rest => some (Part.leaf (.anchor flags.dollar), rest)) <|
  onMark '[' (fun rest =>
    (readBracket flags rest).map fun read => (partOfNested read.1, read.2)) <|
  onCharacter fun character rest => some (Part.leaf (flags.literal character), rest)

theorem readLeaf_eq (flags : Flags) (text : List Char) :
    readLeaf flags text = readLeafWith (readEscaped flags) flags text := by
  unfold readLeaf readLeafWith
  split
  · rfl
  · rw [onMark_cons rfl]
    split <;> rename_i same <;> rw [same] <;> rfl
  · rw [onMark_of_ne (by simp), onMark_cons rfl, Option.map_map]
    rfl
  · rw [onMark_of_ne (by simp), onMark_of_ne (by simp), onMark_cons rfl]
  · rw [onMark_of_ne (by simp), onMark_of_ne (by simp), onMark_of_ne (by simp), onMark_cons rfl]
  · rw [onMark_of_ne (by simp), onMark_of_ne (by simp), onMark_of_ne (by simp),
      onMark_of_ne (by simp), onMark_cons rfl]
    rfl
  · rename_i notEscape notDot notCaret notDollar notBracket
    rw [onMark_of_ne fun rest same => notEscape (List.cons.inj same).1,
      onMark_of_ne fun rest same => notDot (List.cons.inj same).1,
      onMark_of_ne fun rest same => notCaret (List.cons.inj same).1,
      onMark_of_ne fun rest same => notDollar (List.cons.inj same).1,
      onMark_of_ne fun rest same => notBracket (List.cons.inj same).1]
    rfl

/-! ## Sequences and choices -/

theorem some_dropLazyMark {α : Type} (value : α) (text : List Char) :
    some (value, dropLazyMark text) =
      onMark '?' (fun rest => some (value, rest)) (fun text => some (value, text)) text := by
  unfold dropLazyMark
  split
  · rw [onMark_cons rfl]
  · rename_i notLazy
    rw [onMark_of_ne notLazy]

/-- A choice as it is read, with the rest apart. -/
def readBranches (fuel : Nat) (branches : List Part) (flags : Flags) (names : List (List Char))
    (text : List Char) : Option ((Part × List (List Char)) × List Char) :=
  (readChoice fuel branches flags names text).map fun read => ((read.1, read.2.1), read.2.2)

section Steps

variable
  (inside : List Part → Flags → List (List Char) → List Char →
    Option ((Part × List (List Char)) × List Char))
  (next : Progress → List Char → Option (Progress × List Char))

def readRepeated (progress : Progress) (least : Nat) (most : Option Nat) (rest : List Char) :
    Option (Progress × List Char) :=
  (progress.repeatLast? least most).bind fun grown => next grown (dropLazyMark rest)

def readCounted (progress : Progress) (rest : List Char) : Option (Progress × List Char) :=
  (readRounds progress.flags (progress.flags.skip rest)).bind fun read =>
    readRepeated next progress read.1.1 read.1.2 (progress.flags.skip read.2)

def readGroupEnd (progress : Progress) (remembers : Bool) (read : Part × List (List Char)) :
    List Char → Option (Progress × List Char) :=
  onCharacter fun mark after =>
    if mark = ')' then
      next
        ⟨progress.flags, read.2,
          ⟨if remembers then .group read.1.regex else read.1.regex, read.1.height + 1, true⟩ ::
            progress.parts⟩
        after
    else none

def readOpened (progress : Progress) : Opening → List Char → Option (Progress × List Char)
  | .setting changed, rest => next ⟨changed, progress.names, Part.setting :: progress.parts⟩ rest
  | .group flags remembers name?, rest =>
      if name?.any progress.names.contains then none
      else
        (inside [] flags (name?.toList ++ progress.names) rest).bind fun read =>
          readGroupEnd next progress remembers read.1 read.2

def endsSequence (head : Option Char) : Bool :=
  head.all fun character => character == ')' || character == '|'

def readSequenceStep (progress : Progress) (text : List Char) : Option (Progress × List Char) :=
  if endsSequence text.head? then some (progress, text)
  else
    (onMark '?' (readRepeated next progress 0 (some 1)) <|
      onMark '*' (readRepeated next progress 0 none) <|
      onMark '+' (readRepeated next progress 1 none) <|
      onMark '\x7b' (readCounted next progress) <|
      onMark '(' (fun rest =>
        (readGroupOpening progress.flags rest).bind fun read =>
          readOpened inside next progress read.1 read.2) fun text =>
      (readLeaf progress.flags text).bind fun read => next (progress.add read.1) read.2) text

def readBehindBranch (branches : List Part) (progress : Progress) :
    List Char → Option ((Part × List (List Char)) × List Char) :=
  onMark '|' (inside (Part.sequence progress.parts :: branches) progress.flags progress.names)
    fun rest =>
      some ((Part.choice (Part.sequence progress.parts :: branches), progress.names), rest)

def readBranchesStep (branches : List Part) (flags : Flags) (names : List (List Char))
    (text : List Char) : Option ((Part × List (List Char)) × List Char) :=
  (next ⟨flags, names, []⟩ text).bind fun read => readBehindBranch inside branches read.1 read.2

end Steps

theorem readBranches_succ (fuel : Nat) (branches : List Part) (flags : Flags)
    (names : List (List Char)) (text : List Char) :
    readBranches (fuel + 1) branches flags names text =
      readBranchesStep (readBranches fuel) (readSequence fuel) branches flags names text := by
  unfold readBranchesStep readBehindBranch
  conv_lhs => unfold readBranches
  rw [readChoice]
  split
  · rename_i progress rest same
    rw [same]
    dsimp only [Option.bind_some]
    rw [onMark_cons rfl]
    rfl
  · rename_i progress rest notBranch same
    rw [same]
    dsimp only [Option.bind_some]
    rw [onMark_of_ne notBranch]
    rfl
  · rename_i same
    rw [same]
    rfl

section Cases

variable
  {inside : List Part → Flags → List (List Char) → List Char →
    Option ((Part × List (List Char)) × List Char)}
  {next : Progress → List Char → Option (Progress × List Char)}

theorem readRepeated_eq (progress : Progress) (least : Nat) (most : Option Nat)
    (rest : List Char) :
    readRepeated next progress least most rest =
      match progress.repeatLast? least most with
      | some grown => next grown (dropLazyMark rest)
      | none => none := by
  unfold readRepeated
  cases progress.repeatLast? least most <;> rfl

theorem readCounted_eq (progress : Progress) (rest : List Char) :
    readCounted next progress rest =
      match readCounts progress.flags rest with
      | some (least, most, after) =>
          match progress.repeatLast? least most with
          | some grown => next grown (dropLazyMark (progress.flags.skip after))
          | none => none
      | none => none := by
  unfold readCounted
  rw [readCounts_eq]
  cases readRounds progress.flags (progress.flags.skip rest) with
  | none => rfl
  | some read => exact readRepeated_eq progress read.1.1 read.1.2 (progress.flags.skip read.2)

/-- A group is taken when its choice ends before a closing parenthesis. -/
theorem readOpened_group (fuel : Nat) (progress : Progress) (flags : Flags) (remembers : Bool)
    (name? : Option (List Char)) (rest : List Char) :
    readOpened (readBranches fuel) next progress (.group flags remembers name?) rest =
      if name?.any progress.names.contains then none
      else
        match readChoice fuel [] flags (name?.toList ++ progress.names) rest with
        | some (part, names, ')' :: after) =>
            next
              ⟨progress.flags, names,
                ⟨if remembers then .group part.regex else part.regex, part.height + 1, true⟩ ::
                  progress.parts⟩
              after
        | _ => none := by
  unfold readOpened readBranches readGroupEnd
  dsimp only
  split
  · rfl
  · cases readChoice fuel [] flags (name?.toList ++ progress.names) rest with
    | none => rfl
    | some read =>
        obtain ⟨part, names, rest⟩ := read
        dsimp only [Option.map_some, Option.bind_some]
        cases rest with
        | nil => rfl
        | cons mark after =>
            simp only [onCharacter]
            split
            · rename_i closes
              cases closes
              rfl
            · rename_i notClosed
              split
              · rename_i same
                cases same
                exact absurd rfl notClosed
              · rfl

variable (progress : Progress) (rest : List Char)

theorem readSequenceStep_question :
    readSequenceStep inside next progress ('?' :: rest) =
      readRepeated next progress 0 (some 1) rest := by
  rw [readSequenceStep, if_neg (by simp [endsSequence]), onMark_cons rfl]

theorem readSequenceStep_star :
    readSequenceStep inside next progress ('*' :: rest) =
      readRepeated next progress 0 none rest := by
  rw [readSequenceStep, if_neg (by simp [endsSequence]), onMark_of_ne (by simp), onMark_cons rfl]

theorem readSequenceStep_plus :
    readSequenceStep inside next progress ('+' :: rest) =
      readRepeated next progress 1 none rest := by
  rw [readSequenceStep, if_neg (by simp [endsSequence]), onMark_of_ne (by simp),
    onMark_of_ne (by simp), onMark_cons rfl]

theorem readSequenceStep_brace :
    readSequenceStep inside next progress ('\x7b' :: rest) = readCounted next progress rest := by
  rw [readSequenceStep, if_neg (by simp [endsSequence]), onMark_of_ne (by simp),
    onMark_of_ne (by simp), onMark_of_ne (by simp), onMark_cons rfl]

theorem readSequenceStep_parenthesis :
    readSequenceStep inside next progress ('(' :: rest) =
      (readGroupOpening progress.flags rest).bind fun read =>
        readOpened inside next progress read.1 read.2 := by
  rw [readSequenceStep, if_neg (by simp [endsSequence]), onMark_of_ne (by simp),
    onMark_of_ne (by simp), onMark_of_ne (by simp), onMark_of_ne (by simp), onMark_cons rfl]

end Cases

theorem readSequence_succ (fuel : Nat) (progress : Progress) (text : List Char) :
    readSequence (fuel + 1) progress text =
      readSequenceStep (readBranches fuel) (readSequence fuel) progress
        (progress.flags.skip text) := by
  rw [readSequence]
  split
  · rename_i ends
    rw [ends]
    rfl
  · rename_i ends
    rw [ends]
    rfl
  · rename_i ends
    rw [ends]
    rfl
  · rename_i rest same
    rewrite [same, readSequenceStep_question, readRepeated_eq]
    rfl
  · rename_i rest same
    rewrite [same, readSequenceStep_star, readRepeated_eq]
    rfl
  · rename_i rest same
    rewrite [same, readSequenceStep_plus, readRepeated_eq]
    rfl
  · rename_i rest same
    rewrite [same, readSequenceStep_brace, readCounted_eq]
    rfl
  · rename_i rest same
    rw [same, readSequenceStep_parenthesis]
    cases readGroupOpening progress.flags rest with
    | none => rfl
    | some read =>
        obtain ⟨opening, behind⟩ := read
        cases opening with
        | setting changed => rfl
        | group flags remembers name? =>
            exact (readOpened_group fuel progress flags remembers name? behind).symm
  · rename_i notEmpty notClosing notBar notQuestion notStar notPlus notBrace notGroup
    unfold readSequenceStep
    rw [if_neg, onMark_of_ne notQuestion, onMark_of_ne notStar, onMark_of_ne notPlus,
      onMark_of_ne notBrace, onMark_of_ne notGroup]
    · cases readLeaf progress.flags (progress.flags.skip text) <;> rfl
    · intro ends
      cases same : progress.flags.skip text with
      | nil => exact notEmpty same
      | cons character rest =>
          rw [same, endsSequence, List.head?_cons, Option.all_some, Bool.or_eq_true,
            beq_iff_eq, beq_iff_eq] at ends
          rcases ends with rfl | rfl
          · exact notClosing rest same
          · exact notBar rest same

end PolicyWatch.Regex
