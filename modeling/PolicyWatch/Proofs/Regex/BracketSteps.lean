import PolicyWatch.Proofs.Regex.Reader
import PolicyWatch.Regex.Bracket

/-!
# Reading classes step by step

The readers of named sets, ranges and classes, put together from the forms of
readers.  Each form is proved equal to the reader it stands for.
-/

namespace PolicyWatch.Regex

/-! ## Named sets -/

/-- Read the name of a set of the basic alphabet up to `:]`. -/
def readPosixName (text : List Char) : Option (List (Nat × Nat) × List Char) :=
  match text.dropWhile (· != ':') with
  | ':' :: ']' :: after => (posixRanges? (text.takeWhile (· != ':'))).map (·, after)
  | _ => none

theorem readPosixName_of_ends {text after : List Char}
    (ends : text.dropWhile (· != ':') = ':' :: ']' :: after) :
    readPosixName text = (posixRanges? (text.takeWhile (· != ':'))).map (·, after) := by
  unfold readPosixName
  rw [ends]
  rfl

theorem readPosixName_of_ne {text : List Char}
    (absent : ∀ after, text.dropWhile (· != ':') ≠ ':' :: ']' :: after) :
    readPosixName text = none := by
  unfold readPosixName
  split
  · rename_i ends
    exact absurd ends (absent _)
  · rfl

theorem posixRanges?_eq_none {name : List Char} (parenthesis : ')' ∈ name) :
    posixRanges? name = none := by
  unfold posixRanges?
  rw [Option.map_eq_none_iff, List.find?_eq_none]
  intro entry member isName
  have named : entry.1.toList = name := of_decide_eq_true isName
  subst named
  simp only [List.mem_cons, List.not_mem_nil, or_false] at member
  rcases member with rfl | rfl | rfl | rfl | rfl | rfl | rfl | rfl | rfl | rfl | rfl | rfl |
    rfl | rfl <;> exact absurd parenthesis (by decide)

theorem readPosixName_append (text : List Char) {tail : List Char} (closes : IsClosing tail) :
    readPosixName (text ++ tail) =
      (readPosixName text).map fun read => (read.1, read.2 ++ tail) := by
  obtain ⟨line, rfl⟩ := closes
  have whole := List.takeWhile_append_dropWhile (p := (· != ':')) (l := text)
  cases dropped : text.dropWhile (· != ':') with
  | nil =>
      rw [dropped, List.append_nil] at whole
      have parenthesis : ')' ∈ (text ++ ')' :: line).takeWhile (· != ':') := by
        rw [List.takeWhile_append, if_pos (congrArg List.length whole)]
        exact List.mem_append_right _ List.mem_cons_self
      have alone : readPosixName text = none :=
        readPosixName_of_ne fun after same => List.cons_ne_nil _ _ (same.symm.trans dropped)
      rw [alone]
      unfold readPosixName
      rw [posixRanges?_eq_none parenthesis]
      split <;> rfl
  | cons mark after =>
      have shorter : ¬ (text.takeWhile (· != ':')).length = text.length := by
        intro same
        have lengths := congrArg List.length whole
        rw [List.length_append, dropped, List.length_cons] at lengths
        omega
      have same : (text ++ ')' :: line).takeWhile (· != ':') = text.takeWhile (· != ':') := by
        rw [List.takeWhile_append, if_neg shorter]
      have droppedTail : (text ++ ')' :: line).dropWhile (· != ':') =
          mark :: (after ++ ')' :: line) := by
        rw [List.dropWhile_append, dropped]
        rfl
      by_cases ends : ∃ rest, mark :: after = ':' :: ']' :: rest
      · obtain ⟨rest, ends⟩ := ends
        cases ends
        rw [readPosixName_of_ends dropped, readPosixName_of_ends droppedTail, same, Option.map_map]
        rfl
      · rw [readPosixName_of_ne fun rest isEnd => ends ⟨rest, dropped.symm.trans isEnd⟩,
          readPosixName_of_ne fun rest isEnd => ?_]
        · rfl
        · rw [droppedTail] at isEnd
          cases after with
          | nil => cases isEnd
          | cons second others =>
              cases isEnd
              exact ends ⟨others, rfl⟩

/-- Read the name of a set behind its colon, with the sign of its complement. -/
def readPosixBehind : List Char → Option ((Bool × List (Nat × Nat)) × List Char) :=
  onMark '^' (fun text => (readPosixName text).map fun read => ((true, read.1), read.2))
    fun text => (readPosixName text).map fun read => ((false, read.1), read.2)

/-- Read a named set of the basic alphabet. -/
def readPosixSet : List Char → Option ((Bool × List (Nat × Nat)) × List Char) :=
  onMark ':' readPosixBehind fun _ => none

/-- The sign of a named set and the text behind it. -/
def signOf : List Char → Bool × List Char
  | '^' :: rest => (true, rest)
  | text => (false, text)

/-- Read the name of a set behind its sign. -/
def readPosixSigned (signed : Bool × List Char) : Option (Bool × List (Nat × Nat) × List Char) :=
  match signed.2.dropWhile (· != ':') with
  | ':' :: ']' :: after =>
      (posixRanges? (signed.2.takeWhile (· != ':'))).map (signed.1, ·, after)
  | _ => none

theorem readPosixSigned_eq (signed : Bool × List Char) :
    readPosixSigned signed =
      (readPosixName signed.2).map fun read => (signed.1, read.1, read.2) := by
  by_cases ends : ∃ after, signed.2.dropWhile (· != ':') = ':' :: ']' :: after
  · obtain ⟨after, ends⟩ := ends
    unfold readPosixSigned
    rw [readPosixName_of_ends ends, ends, Option.map_map]
    rfl
  · rw [readPosixName_of_ne fun after same => ends ⟨after, same⟩]
    unfold readPosixSigned
    split
    · rename_i same
      exact absurd ⟨_, same⟩ ends
    · rfl

theorem readPosix_eq (text : List Char) :
    readPosix text = (readPosixSet text).map fun read => (read.1.1, read.1.2, read.2) := by
  have named : ∀ signed : Bool × List Char, readPosixSigned signed =
      ((readPosixName signed.2).map fun read => ((signed.1, read.1), read.2)).map
        fun read => (read.1.1, read.1.2, read.2) := by
    intro signed
    rw [readPosixSigned_eq, Option.map_map]
    rfl
  unfold readPosixSet
  by_cases isNamed : ∃ rest, text = ':' :: rest
  · obtain ⟨rest, rfl⟩ := isNamed
    rw [onMark_cons rfl]
    unfold readPosixBehind
    by_cases isNegated : ∃ inside, rest = '^' :: inside
    · obtain ⟨inside, rfl⟩ := isNegated
      rw [onMark_cons rfl]
      exact named (true, inside)
    · rw [onMark_of_ne fun inside same => isNegated ⟨inside, same⟩]
      have plain : signOf rest = (false, rest) := by
        unfold signOf
        split
        · exact absurd ⟨_, rfl⟩ isNegated
        · rfl
      exact (congrArg readPosixSigned plain).trans (named (false, rest))
  · rw [onMark_of_ne fun rest same => isNamed ⟨rest, same⟩]
    unfold readPosix
    split
    · exact absurd ⟨_, rfl⟩ isNamed
    · rfl

theorem readPosixSet_append (text : List Char) {tail : List Char} (closes : IsClosing tail) :
    readPosixSet (text ++ tail) =
      (readPosixSet text).map fun read => (read.1, read.2 ++ tail) := by
  have named : ∀ (negated : Bool) (name : List Char),
      ((readPosixName (name ++ tail)).map fun read => ((negated, read.1), read.2)) =
        ((readPosixName name).map fun read => ((negated, read.1), read.2)).map
          fun read => (read.1, read.2 ++ tail) := by
    intro negated name
    rw [readPosixName_append name closes, Option.map_map, Option.map_map]
    rfl
  refine onMark_append (by decide) closes (fun inside => ?_) (fun _ => rfl) text
  exact onMark_append (by decide) closes (named true) (named false) inside

theorem readPosixSet_suffix (text : List Char) (named : Bool × List (Nat × Nat))
    (rest : List Char) (done : readPosixSet text = some (named, rest)) : rest <:+ text := by
  have name : ∀ (negated : Bool) (text rest : List Char),
      ((readPosixName text).map fun read => ((negated, read.1), read.2)) = some (named, rest) →
        rest <:+ text := by
    intro negated text rest done
    obtain ⟨⟨ranges, after⟩, isRead, same⟩ := Option.map_eq_some_iff.1 done
    cases same
    unfold readPosixName at isRead
    split at isRead
    · rename_i behind stops
      obtain ⟨_, _, same⟩ := Option.map_eq_some_iff.1 isRead
      cases same
      have ends : ':' :: ']' :: after <:+ text := stops ▸ List.dropWhile_suffix (· != ':')
      exact (List.suffix_append [':', ']'] after).trans ends
    · cases isRead
  have behind : ∀ text rest, readPosixBehind text = some (named, rest) → rest <:+ text :=
    fun text rest => onMark_suffix (name true) (name false)
  refine onMark_suffix behind ?_ done
  intro text rest done
  cases done

/-! ## Ranges -/

theorem readMember_eq (flags : Flags) (text : List Char) :
    readMember flags text =
      onMark '\\' (readEscaped flags)
        (onCharacter fun character rest => some (.character character, rest)) text := by
  unfold readMember
  split
  · rw [onMark_cons rfl]
  · rename_i character rest notEscape
    rw [onMark_of_ne fun others same => notEscape (List.cons.inj same).1]
    rfl
  · rfl

namespace Flags

theorem peekPast_append (comment : Bool) (text : List Char) {tail : List Char}
    (closes : IsClosing tail) :
    peekPast comment (text ++ tail) = (peekPast comment text).or (some ')') := by
  induction text generalizing comment with
  | nil =>
      obtain ⟨line, rfl⟩ := closes
      cases comment <;> rfl
  | cons character rest ih =>
      simp only [List.cons_append, peekPast]
      split
      · exact ih comment
      · split
        · exact ih true
        · rfl

/-- Where a look past blanks finds nothing, the text starts with one of them. -/
theorem insignificant_of_peekPast {text : List Char} (unseen : peekPast false text = none)
    {character : Char} (first : text.head? = some character) :
    Text.isBlank character ∨ character = '#' := by
  obtain ⟨rest, rfl⟩ := List.head?_eq_some_iff.1 first
  rw [peekPast] at unseen
  split at unseen
  · exact .inl ‹_›
  · split at unseen
    · rename_i mark
      exact .inr (beq_iff_eq.1 (Bool.and_eq_true_iff.1 mark).2)
    · cases unseen

theorem peek_nil (flags : Flags) : flags.peek [] = none := by
  unfold peek
  split <;> rfl

theorem peek_append_iff (flags : Flags) (text : List Char) {tail : List Char}
    (closes : IsClosing tail) {mark : Char} (counts : ¬ (Text.isBlank mark ∨ mark = '#'))
    (notClosing : mark ≠ ')') :
    flags.peek (text ++ tail) = some mark ↔ flags.peek text = some mark := by
  unfold peek
  split
  · rw [peekPast_append false text closes]
    cases seen : peekPast false text with
    | some character => rfl
    | none =>
        refine iff_of_false (fun same => notClosing (Option.some.inj same).symm) fun same => ?_
        exact counts (insignificant_of_peekPast seen same)
  · cases text with
    | nil =>
        obtain ⟨line, rfl⟩ := closes
        exact iff_of_false (fun same => notClosing (Option.some.inj same).symm) nofun
    | cons character rest => rfl

end Flags

/-- The set of a range between two members. -/
def rangeSet? (flags : Flags) (first last : Escaped) : Option CharSet :=
  match first, last with
  | .character low, .character high =>
      if admitsCharacter flags low && admitsCharacter flags high &&
          decide (low.toNat ≤ high.toNat) then
        some (CharSet.range low.toNat high.toNat)
      else none
  | _, _ => none

def readRangeEnd (flags : Flags) (first : Escaped) (text : List Char) :
    Option (CharSet × List Char) :=
  if text = [] then none
  else (readMember flags text).bind fun read => (rangeSet? flags first read.1).map (·, read.2)

/-- Go on behind the dash after a member: it may stand for itself. -/
def readBehindDash (flags : Flags) (first : Escaped) (text : List Char) :
    Option (CharSet × List Char) :=
  if flags.peek text = some ']' ∨ flags.peek text = some '-' then
    (memberSet? flags first).map (·, '-' :: text)
  else readRangeEnd flags first (flags.skip text)

/-- Go on behind a member: a dash may make it the front of a range. -/
def readBehindMember (flags : Flags) (first : Escaped) (text : List Char) :
    Option (CharSet × List Char) :=
  if text = [] then none
  else onMark '-' (readBehindDash flags first) (fun text => (memberSet? flags first).map (·, text))
    text

theorem readRange_eq (flags : Flags) (text : List Char) :
    readRange flags text =
      (readMember flags text).bind fun read =>
        readBehindMember flags read.1 (flags.skip read.2) := by
  unfold readRange
  cases readMember flags text with
  | none => rfl
  | some read =>
      obtain ⟨first, rest⟩ := read
      dsimp only [Option.bind_some]
      unfold readBehindMember
      cases flags.skip rest with
      | nil => rfl
      | cons character behind =>
          rw [if_neg (List.cons_ne_nil _ _)]
          by_cases isDash : character = '-'
          · subst isDash
            rw [onMark_cons rfl]
            unfold readBehindDash readRangeEnd
            refine if_congr Iff.rfl rfl ?_
            cases flags.skip behind with
            | nil => rfl
            | cons next others =>
                rw [if_neg (List.cons_ne_nil _ _)]
                dsimp only
                cases readMember flags (next :: others) with
                | none => cases first <;> rfl
                | some last =>
                    obtain ⟨last, after⟩ := last
                    dsimp only [Option.bind_some]
                    unfold rangeSet?
                    cases first <;> cases last <;> first | rfl | (dsimp only; split <;> rfl)
          · rw [onMark_of_ne fun rest same => isDash (List.cons.inj same).1]
            split
            · rename_i same
              cases same
            · rename_i same
              exact absurd (List.cons.inj same).1 isDash
            · rfl

/-! ## Openings -/

/-- A dash joins the members that open a class. -/
def addDash? (reading : ClassReading) (character : Char) : Option ClassReading :=
  if character = '-' then some (reading.add ⟨CharSet.singleton '-', 0⟩) else none

theorem skim_addDash? (flags : Flags) {fuel : Nat} (reading : ClassReading) {text : List Char}
    (enough : text.length ≤ fuel) :
    skim flags addDash? (fuel + 1) reading text = some (readDashes flags fuel reading text) := by
  induction fuel generalizing reading text with
  | zero =>
      obtain rfl := List.length_eq_zero_iff.1 (Nat.le_zero.1 enough)
      rfl
  | succ fuel ih =>
      cases text with
      | nil => rfl
      | cons character rest =>
          by_cases isDash : character = '-'
          · subst isDash
            refine Eq.trans ?_ (ih _ (Nat.le_trans (flags.length_skip_le rest)
              (Nat.le_of_succ_le_succ enough)))
            rfl
          · have stops : addDash? reading character = none := if_neg isDash
            rw [skim, List.head?_cons, Option.all_some, stops, if_pos Option.isNone_none]
            unfold readDashes
            split
            · rename_i same
              exact absurd (List.cons.inj same).1 isDash
            · rfl

/-- Read a closing bracket that stands for itself behind no dash. -/
def readFirstBracket (flags : Flags) (negated : Bool) (reading : ClassReading) (text : List Char) :
    Option ((Bool × ClassReading) × List Char) :=
  if reading.count = 0 then
    onMark ']' (fun rest =>
        some ((negated, reading.add ⟨CharSet.singleton ']', 0⟩), flags.skip rest))
      (fun text => some ((negated, reading), text)) text
  else some ((negated, reading), text)

/-- Read the dashes and the closing bracket that stand for themselves. -/
def readOpeningFrom (flags : Flags) (negated : Bool) (fuel : Nat) (text : List Char) :
    Option ((Bool × ClassReading) × List Char) :=
  (skim flags addDash? (fuel + 1) ClassReading.start text).bind fun read =>
    readFirstBracket flags negated read.1 read.2

def readOpeningBehind (flags : Flags) : List Char → Option ((Bool × ClassReading) × List Char) :=
  onMark '^'
    (fun rest => readOpeningFrom flags true (flags.skip rest).length (flags.skip rest))
    fun text => readOpeningFrom flags false text.length text

def openingBehind (flags : Flags) (negated : Bool) (text : List Char) :
    Bool × ClassReading × List Char :=
  let (reading, text) := readDashes flags text.length ClassReading.start text
  match reading.count, text with
  | 0, ']' :: rest => (negated, reading.add ⟨CharSet.singleton ']', 0⟩, flags.skip rest)
  | _, _ => (negated, reading, text)

theorem readOpening_negated {flags : Flags} {text rest : List Char}
    (negated : flags.skip text = '^' :: rest) :
    readOpening flags text = openingBehind flags true (flags.skip rest) := by
  unfold readOpening
  rw [negated]
  rfl

theorem readOpening_of_ne {flags : Flags} {text : List Char}
    (plain : ∀ rest, flags.skip text ≠ '^' :: rest) :
    readOpening flags text = openingBehind flags false (flags.skip text) := by
  have signed : (match flags.skip text with
      | '^' :: rest => (true, flags.skip rest)
      | text => (false, text)) = (false, flags.skip text) := by
    split
    · rename_i same
      exact absurd same (plain _)
    · rfl
  exact congrArg (fun signed : Bool × List Char => openingBehind flags signed.1 signed.2) signed

theorem readOpeningFrom_length (flags : Flags) (negated : Bool) (text : List Char) :
    readOpeningFrom flags negated text.length text =
      some (((openingBehind flags negated text).1, (openingBehind flags negated text).2.1),
        (openingBehind flags negated text).2.2) := by
  unfold readOpeningFrom openingBehind readFirstBracket
  rw [skim_addDash? flags ClassReading.start (Nat.le_refl _)]
  obtain ⟨reading, rest⟩ := readDashes flags text.length ClassReading.start text
  dsimp only [Option.bind_some]
  split
  · rename_i unread
    split
    · rw [onMark_cons rfl]
    · rename_i absent
      rw [onMark_of_ne fun after same => absent after unread same]
  · rename_i unread
    split
    · rename_i none
      exact absurd none unread
    · rfl

theorem readOpening_eq (flags : Flags) (text : List Char) :
    readOpeningBehind flags (flags.skip text) =
      some (((readOpening flags text).1, (readOpening flags text).2.1),
        (readOpening flags text).2.2) := by
  unfold readOpeningBehind
  by_cases isNegated : ∃ rest, flags.skip text = '^' :: rest
  · obtain ⟨rest, negated⟩ := isNegated
    rw [onMark_cons negated, readOpening_negated negated, readOpeningFrom_length]
  · have plain : ∀ rest, flags.skip text ≠ '^' :: rest := fun rest same => isNegated ⟨rest, same⟩
    rw [onMark_of_ne plain, readOpening_of_ne plain, readOpeningFrom_length]

/-! ## Classes -/

/-- Read what stands in a class behind a bracket: a named set, or a class within. -/
def readInner (flags : Flags) (next : Bool → ClassReading → List Char → Option (Nested × List Char))
    (negated : Bool) (reading : ClassReading) : List Char → Option (Nested × List Char) :=
  orElse readPosixSet
    (fun named text =>
      (flags.foldAndNegate? named.1 (CharSet.ofRanges named.2)).bind fun set =>
        next negated (reading.add ⟨set, 0⟩) text)
    fun text =>
      ((readOpeningBehind flags (flags.skip text)).bind fun opened =>
        next opened.1.1 opened.1.2 opened.2).bind fun inner =>
          next negated (reading.add inner.1) inner.2

def readClassStep (flags : Flags)
    (next : Bool → ClassReading → List Char → Option (Nested × List Char))
    (negated : Bool) (reading : ClassReading) : List Char → Option (Nested × List Char) :=
  onMark ']' (fun rest => (closeClass flags negated reading).map (·, rest)) <|
  onPair '&' '&' (next negated (reading.operate flags .intersection)) <|
  onPair '-' '-' (next negated (reading.operate flags .difference)) <|
  onPair '~' '~' (next negated (reading.operate flags .symmetricDifference)) <|
  onMark '[' (readInner flags next negated reading) fun text =>
    (readRange flags text).bind fun read => next negated (reading.add ⟨read.1, 0⟩) read.2

theorem readClass_succ (flags : Flags) (fuel : Nat) (negated : Bool) (reading : ClassReading)
    (text : List Char) :
    readClass flags (fuel + 1) negated reading text =
      readClassStep flags (readClass flags fuel) negated reading (flags.skip text) := by
  rw [readClass]
  unfold readClassStep
  split
  · rename_i empty
    rw [empty]
    rfl
  · rename_i rest same
    rw [onMark_cons same]
  · rename_i rest same
    rw [same, onMark_of_ne (by simp), onPair_cons]
  · rename_i rest same
    rw [same, onMark_of_ne (by simp), onPair_of_ne (by simp), onPair_cons]
  · rename_i rest same
    rw [same, onMark_of_ne (by simp), onPair_of_ne (by simp), onPair_of_ne (by simp), onPair_cons]
  · rename_i rest same
    rw [same, onMark_of_ne (by simp), onPair_of_ne (by simp), onPair_of_ne (by simp),
      onPair_of_ne (by simp), onMark_cons rfl]
    unfold readInner orElse
    rw [readPosix_eq]
    dsimp only
    rw [readOpening_eq]
    cases readPosixSet rest with
    | some read =>
        dsimp only [Option.map_some]
        cases flags.foldAndNegate? read.1.1 (CharSet.ofRanges read.1.2) <;> rfl
    | none =>
        dsimp only [Option.map_none, Option.bind_some]
        cases readClass flags fuel (readOpening flags rest).1 (readOpening flags rest).2.1
          (readOpening flags rest).2.2 <;> rfl
  · rename_i notClosing notAnd notMinus notTilde notBracket
    rw [onMark_of_ne notClosing, onPair_of_ne notAnd, onPair_of_ne notMinus,
      onPair_of_ne notTilde, onMark_of_ne notBracket]
    cases readRange flags (flags.skip text) <;> rfl

theorem readBracket_eq (flags : Flags) (text : List Char) :
    readBracket flags text =
      (readOpeningBehind flags (flags.skip text)).bind fun opened =>
        readClass flags (text.length + 1) opened.1.1 opened.1.2 opened.2 := by
  rw [readOpening_eq]
  rfl

end PolicyWatch.Regex
