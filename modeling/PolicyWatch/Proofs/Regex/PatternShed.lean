import PolicyWatch.Proofs.Regex.BracketSteps
import PolicyWatch.Proofs.Regex.EscapeSteps
import PolicyWatch.Proofs.Regex.PatternSteps
import PolicyWatch.Proofs.Regex.Shed

/-!
# Reading patterns without a tail

Main statement: what is read of a pattern in front of a closing parenthesis is read
of the text up to the parenthesis alone.  Two readers look further than they read, at
places where a pattern cannot end: a brace behind a word edge, and the character behind
a member of a class.
-/

namespace PolicyWatch.Regex

variable {size : Nat}

/-! ## Codes of characters -/

theorem sheds_readHexDigits (flags : Flags) (count : Nat) (read : List Char) :
    Sheds size (readHexDigits flags count read) (readHexDigits flags count read) := by
  induction count generalizing size read with
  | zero => exact .unread (some read.reverse)
  | succ count ih =>
      refine Sheds.congr (.onCharacter fun digit => ?_) (readHexDigits_succ flags count read)
        (readHexDigits_succ flags count read)
      exact .ite (fun _ => (ih (digit :: read)).skipBefore flags) fun _ => .failing

theorem sheds_readHexBraces (flags : Flags) (more fuel : Nat) (read : List Char) :
    Sheds fuel (readHexBraces flags more read) (readHexBraces flags fuel read) := by
  induction more generalizing fuel read with
  | zero => exact .failing
  | succ more ih =>
      refine Sheds.of_succ id rfl (readHexBraces flags · read) (fun fuel => ?_) fuel
      refine Sheds.congr ((Sheds.onCharacter fun character => ?_).skipBefore flags)
        (readHexBraces_succ flags more read) (readHexBraces_succ flags fuel read)
      refine .ite (fun _ => .unread (some read.reverse)) fun _ => ?_
      exact .ite (fun _ => ih fuel (character :: read)) fun _ => .failing

theorem sheds_readHex (flags : Flags) (width : Nat) :
    Sheds size (readHex flags width) (readHex flags width) := by
  have braced : Sheds (size - 1) (readBracedHex flags) (readBracedHex flags) :=
    ((Sheds.fuelled fun more fuel => sheds_readHexBraces flags more fuel []).filterMap
      hexInBraces?).skipAfter flags
  have bare : Sheds size (readBareHex flags width) (readBareHex flags width) :=
    (sheds_readHexDigits flags width []).filterMap (hexOfWidth? flags width)
  exact ((Sheds.onMark (by decide) braced bare).skipBefore flags).congr (readHex_eq flags width)
    (readHex_eq flags width)

/-! ## Properties -/

theorem sheds_readPropertyName (flags : Flags) (more fuel : Nat) (read : List Char) :
    Sheds fuel (readPropertyName flags more read) (readPropertyName flags fuel read) := by
  induction more generalizing fuel read with
  | zero => exact .failing
  | succ more ih =>
      refine Sheds.of_succ id rfl (readPropertyName flags · read) (fun fuel => ?_) fuel
      refine Sheds.congr ((Sheds.onCharacter fun character => ?_).skipBefore flags)
        (readPropertyName_succ flags more read) (readPropertyName_succ flags fuel read)
      exact .ite (fun _ => .unread (some read.reverse)) fun _ => ih fuel (character :: read)

theorem sheds_readProperty (flags : Flags) (negated : Bool) :
    Sheds size (readProperty flags negated) (readProperty flags negated) := by
  refine Sheds.congr (.ite (fun _ => .failing) fun _ => ?_) (readProperty_eq flags negated)
    (readProperty_eq flags negated)
  refine (Sheds.onCharacter fun character => ?_).skipBefore flags
  refine .ite (fun _ => ?_) fun _ => ?_
  · exact (Sheds.fuelled fun more fuel => sheds_readPropertyName flags more fuel []).filterMap
      (propertyInBraces? flags negated)
  · exact (Sheds.unread (propertyOfLetter? flags negated character)).skipAfter flags

/-! ## Word edges -/

theorem sheds_readEdgeName (flags : Flags) (more fuel : Nat) (read : List Char) :
    Sheds fuel (readEdgeName flags more read) (readEdgeName flags fuel read) := by
  induction more generalizing fuel read with
  | zero => exact .failing
  | succ more ih =>
      refine Sheds.of_succ id rfl (readEdgeName flags · read) (fun fuel => ?_) fuel
      refine Sheds.congr (Sheds.onCharacter fun character => ?_)
        (readEdgeName_succ flags more read) (readEdgeName_succ flags fuel read)
      refine .ite (fun _ => .unread (some read.reverse)) fun _ => ?_
      exact .ite (fun _ => (ih fuel (character :: read)).skipBefore flags) fun _ => .failing

theorem sheds_readNamedEdge (flags : Flags) :
    Sheds size (fun text => readNamedEdge flags (flags.skip text))
      fun text => readNamedEdge flags (flags.skip text) :=
  ((Sheds.fuelled fun more fuel => sheds_readEdgeName flags more fuel []).filterMap
    edgeNamed?).skipBefore flags

/-- Read a word edge, also where a brace behind it ends the text. -/
def readEdgeOpen (flags : Flags) : List Char → Option (WordEdge × List Char) :=
  onMark '\x7b' (readEdgeBehindOpen flags) fun text => some (.boundary, text)

theorem sheds_readEdge (flags : Flags) : Sheds size (readEdge flags) (readEdgeOpen flags) := by
  refine Sheds.congr (.onMarkBack (by decide) ?_ ?_ (.unread (some .boundary))) (readEdge_eq flags)
    fun _ => rfl
  · intro text value rest done
    unfold readEdgeBehind readEdgeBehindOpen at done
    split at done
    · cases done
    · split at done
      · exact ((@sheds_readNamedEdge 0 flags).leaves text value rest done).trans
          (List.suffix_cons _ _)
      · cases done
        exact List.suffix_rfl
  · intro text tail value rest short closes done
    unfold readEdgeBehind at done
    split at done
    · cases done
    · unfold readEdgeBehindOpen at done ⊢
      have sameHead : flags.skip text ≠ [] →
          (flags.skip (text ++ tail)).head? = (flags.skip text).head? := by
        intro nonempty
        obtain ⟨character, remaining, skipped⟩ := List.exists_cons_of_ne_nil nonempty
        rw [Flags.skip_append skipped tail, skipped]
        rfl
      by_cases isName : (flags.skip (text ++ tail)).head?.any isEdgeNameCharacter
      · rw [if_pos isName] at done
        have alone := (sheds_readNamedEdge flags).sheds text tail value rest short closes done
        have nonempty : flags.skip text ≠ [] := by
          intro empty
          rw [empty] at alone
          cases alone
        rw [if_pos (sameHead nonempty ▸ isName)]
        exact alone
      · rw [if_neg isName] at done
        have notName : ¬ (flags.skip text).head?.any isEdgeNameCharacter := by
          intro isNameAlone
          refine isName ?_
          rw [sameHead]
          · exact isNameAlone
          · intro empty
            rw [empty] at isNameAlone
            cases isNameAlone
        obtain ⟨rfl, same⟩ := Prod.mk.inj (Option.some.inj done)
        have isRest : '\x7b' :: text = rest :=
          List.append_cancel_right (show '\x7b' :: text ++ tail = _ from same)
        rw [if_neg notName, isRest]

/-- A word edge is read otherwise only where a brace ends the text. -/
theorem readEdgeOpen_cases {flags : Flags} {text rest : List Char} {edge : WordEdge}
    (done : readEdgeOpen flags text = some (edge, rest)) :
    readEdge flags text = some (edge, rest) ∨
      ∃ blanks, rest = '\x7b' :: blanks ∧ flags.skip blanks = [] := by
  rw [readEdge_eq]
  unfold readEdgeOpen at done
  by_cases stands : ∃ inside, text = '\x7b' :: inside
  · obtain ⟨inside, rfl⟩ := stands
    rw [onMark_cons rfl] at done ⊢
    unfold readEdgeBehind
    by_cases empty : flags.skip inside = []
    · unfold readEdgeBehindOpen at done
      rw [empty] at done
      cases done
      exact .inr ⟨inside, rfl, empty⟩
    · rw [if_neg empty]
      exact .inl done
  · rw [onMark_of_ne fun inside same => stands ⟨inside, same⟩] at done ⊢
    exact .inl done

/-! ## Escapes -/

/-- Read what a backslash introduces, also where a brace behind it ends the text. -/
def readEscapedOpen (flags : Flags) : List Char → Option (Escaped × List Char) :=
  readEscapedWith (readEdgeOpen flags) flags

theorem sheds_readEscaped (flags : Flags) :
    Sheds size (readEscaped flags) (readEscapedOpen flags) := by
  refine Sheds.congr (.onCharacter fun letter => ?_) (readEscaped_eq flags) fun _ => rfl
  refine .ite (fun _ => .failing) fun _ => ?_
  refine .ite (fun _ => (sheds_readHex flags 2).map Escaped.character) fun _ => ?_
  refine .ite (fun _ => (sheds_readHex flags 4).map Escaped.character) fun _ => ?_
  refine .ite (fun _ => (sheds_readHex flags 8).map Escaped.character) fun _ => ?_
  refine .ite (fun _ => (sheds_readProperty flags false).map Escaped.set) fun _ => ?_
  refine .ite (fun _ => (sheds_readProperty flags true).map Escaped.set) fun _ => ?_
  refine .ite (fun _ => .unread ((flags.shorthand? letter).map Escaped.set)) fun _ => ?_
  refine .ite (fun _ => .unread (some (Escaped.character letter))) fun _ => ?_
  refine .ite (fun _ => ?_) fun _ => .unread (escapeOfLetter? flags letter)
  exact (sheds_readEdge flags).map fun edge => Escaped.anchor (.word edge (!flags.unicode))

/-- An escape is read otherwise only as a word edge that a brace stands behind. -/
theorem readEscapedOpen_cases {flags : Flags} {text rest : List Char} {value : Escaped}
    (done : readEscapedOpen flags text = some (value, rest)) :
    readEscaped flags text = some (value, rest) ∨
      (∃ test, value = .anchor test) ∧ ∃ blanks, rest = '\x7b' :: blanks ∧
        flags.skip blanks = [] := by
  rw [readEscaped_eq]
  unfold readEscapedOpen at done
  cases text with
  | nil => cases done
  | cons letter behind =>
      by_cases isEdge : letter = 'b'
      · subst isEdge
        have edges : ∀ edge, readEscapedWith edge flags ('b' :: behind) =
            (edge behind).map fun read => (.anchor (.word read.1 (!flags.unicode)), read.2) :=
          fun _ => rfl
        rw [edges] at done ⊢
        obtain ⟨read, isRead, same⟩ := Option.map_eq_some_iff.1 done
        cases same
        rcases readEdgeOpen_cases isRead with isRead | braced
        · rw [isRead]
          exact .inl rfl
        · exact .inr ⟨⟨_, rfl⟩, braced⟩
      · simp only [readEscapedWith, onCharacter, if_neg isEdge] at done ⊢
        exact .inl done

/-! ## Ranges -/

/-- Read one end of a range, also where a brace behind it ends the text. -/
def readMemberOpen (flags : Flags) : List Char → Option (Escaped × List Char) :=
  onMark '\\' (readEscapedOpen flags)
    (onCharacter fun character rest => some (.character character, rest))

theorem sheds_readMember (flags : Flags) :
    Sheds size (readMember flags) (readMemberOpen flags) := by
  refine Sheds.congr (.onMark (by decide) (sheds_readEscaped flags) ?_) (readMember_eq flags)
    fun _ => rfl
  exact .onCharacter fun character => .unread (some (Escaped.character character))

theorem readMemberOpen_cases {flags : Flags} {text rest : List Char} {value : Escaped}
    (done : readMemberOpen flags text = some (value, rest)) :
    readMember flags text = some (value, rest) ∨ ∃ test, value = .anchor test := by
  rw [readMember_eq]
  unfold readMemberOpen at done
  by_cases stands : ∃ inside, text = '\\' :: inside
  · obtain ⟨inside, rfl⟩ := stands
    rw [onMark_cons rfl] at done ⊢
    exact (readEscapedOpen_cases done).imp id And.left
  · rw [onMark_of_ne fun inside same => stands ⟨inside, same⟩] at done ⊢
    exact .inl done

theorem length_readMember_lt (flags : Flags) (text : List Char) (value : Escaped)
    (rest : List Char) (done : readMember flags text = some (value, rest)) :
    rest.length < text.length := by
  rw [readMember_eq] at done
  refine length_onMark_lt (@sheds_readEscaped 0 flags).leaves ?_ done
  intro text rest done
  cases text with
  | nil => cases done
  | cons character behind =>
      cases done
      exact Nat.lt_succ_self _

theorem sheds_readRangeEnd (flags : Flags) (first : Escaped) :
    Sheds size (readRangeEnd flags first) (readRangeEnd flags first) := by
  refine ((sheds_readMember flags).filterMap (rangeSet? flags first)).unlessEmpty.weaken ?_
  intro text value rest done
  obtain ⟨⟨last, behind⟩, isRead, done⟩ := Option.bind_eq_some_iff.1 done
  rcases readMemberOpen_cases isRead with isRead | ⟨test, rfl⟩
  · unfold readRangeEnd
    rw [if_neg, isRead]
    · exact done
    · rintro rfl
      cases isRead
  · cases first <;> cases done

/-- Go on behind a member, also where nothing stands behind it. -/
def readBehindMemberOpen (flags : Flags) (first : Escaped) :
    List Char → Option (CharSet × List Char) :=
  onMark '-' (readBehindDash flags first) fun text => (memberSet? flags first).map (·, text)

theorem sheds_readBehindMember (flags : Flags) (first : Escaped) :
    Sheds size (readBehindMember flags first) (readBehindMemberOpen flags first) := by
  have rangeEnd : ∀ {size}, Sheds size (fun text => readRangeEnd flags first (flags.skip text))
      fun text => readRangeEnd flags first (flags.skip text) :=
    (sheds_readRangeEnd flags first).skipBefore flags
  refine (Sheds.onMarkBack (by decide) ?_ ?_ (.unread (memberSet? flags first))).unlessEmpty
  · intro text value rest done
    unfold readBehindDash at done
    split at done
    · obtain ⟨set, _, same⟩ := Option.map_eq_some_iff.1 done
      cases same
      exact List.suffix_rfl
    · exact ((@rangeEnd 0).leaves text value rest done).trans (List.suffix_cons _ _)
  · intro text tail value rest short closes done
    have same : flags.peek (text ++ tail) = some ']' ∨ flags.peek (text ++ tail) = some '-' ↔
        flags.peek text = some ']' ∨ flags.peek text = some '-' :=
      or_congr (flags.peek_append_iff text closes (by decide) (by decide))
        (flags.peek_append_iff text closes (by decide) (by decide))
    unfold readBehindDash at done ⊢
    by_cases itself : flags.peek text = some ']' ∨ flags.peek text = some '-'
    · rw [if_pos (same.2 itself)] at done
      obtain ⟨set, isSet, isRead⟩ := Option.map_eq_some_iff.1 done
      obtain ⟨rfl, isRest⟩ := Prod.mk.inj isRead
      have isRest : '-' :: text = rest :=
        List.append_cancel_right (show '-' :: text ++ tail = _ from isRest)
      rw [if_pos itself, isSet, ← isRest]
      rfl
    · rw [if_neg (mt same.1 itself)] at done
      exact (if_neg itself).trans (rangeEnd.sheds text tail value rest short closes done)

/-- Read a range, also where nothing stands behind it. -/
def readRangeOpen (flags : Flags) (text : List Char) : Option (CharSet × List Char) :=
  (readMember flags text).bind fun read =>
    readBehindMemberOpen flags read.1 (flags.skip read.2)

theorem readBehindMemberOpen_anchor (flags : Flags) (test : Anchor) (text : List Char) :
    readBehindMemberOpen flags (.anchor test) text = none := by
  have noEnd : ∀ text, readRangeEnd flags (.anchor test) text = none := by
    intro text
    unfold readRangeEnd
    split
    · rfl
    · cases readMember flags text <;> rfl
  unfold readBehindMemberOpen onMark readBehindDash
  split
  · split
    · rfl
    · exact noEnd _
  · rfl

theorem sheds_readRange (flags : Flags) : Sheds size (readRange flags) (readRangeOpen flags) := by
  have members : Sheds size (readRange flags) fun text =>
      (readMemberOpen flags text).bind fun read =>
        readBehindMemberOpen flags read.1 (flags.skip read.2) :=
    ((sheds_readMember flags).bind fun first =>
      (sheds_readBehindMember flags first).skipBefore flags).congr (readRange_eq flags) fun _ => rfl
  refine members.weaken fun text set rest done => ?_
  obtain ⟨⟨first, behind⟩, isRead, done⟩ := Option.bind_eq_some_iff.1 done
  rcases readMemberOpen_cases isRead with isRead | ⟨test, rfl⟩
  · exact Option.bind_eq_some_iff.2 ⟨_, isRead, done⟩
  · rw [readBehindMemberOpen_anchor] at done
    cases done

/-- A range is read otherwise only where nothing stands behind it. -/
theorem readRangeOpen_cases {flags : Flags} {text rest : List Char} {set : CharSet}
    (done : readRangeOpen flags text = some (set, rest)) :
    readRange flags text = some (set, rest) ∨ rest = [] := by
  rw [readRange_eq]
  obtain ⟨⟨first, behind⟩, isRead, done⟩ := Option.bind_eq_some_iff.1 done
  rw [isRead]
  dsimp only [Option.bind_some] at done ⊢
  unfold readBehindMember
  by_cases empty : flags.skip behind = []
  · rw [empty] at done
    obtain ⟨_, _, same⟩ := Option.map_eq_some_iff.1 done
    cases same
    exact .inr rfl
  · rw [if_neg empty]
    exact .inl done

theorem length_readRange_lt (flags : Flags) (text : List Char) (set : CharSet) (rest : List Char)
    (done : readRange flags text = some (set, rest)) : rest.length < text.length := by
  rw [readRange_eq] at done
  obtain ⟨⟨first, behind⟩, isRead, done⟩ := Option.bind_eq_some_iff.1 done
  have shorter := length_readMember_lt flags text first behind isRead
  have leaves := ((@sheds_readBehindMember 0 flags first).leaves _ _ _ done).length_le
  exact Nat.lt_of_le_of_lt (Nat.le_trans leaves (flags.length_skip_le behind)) shorter

/-! ## Classes -/

theorem sheds_readOpeningFrom (flags : Flags) (negated : Bool) (more fuel : Nat) :
    Sheds (fuel + 1) (readOpeningFrom flags negated more) (readOpeningFrom flags negated fuel) := by
  have dashes : Sheds (fuel + 1) (skim flags addDash? (more + 1) ClassReading.start)
      (skim flags addDash? (fuel + 1) ClassReading.start) :=
    sheds_skim flags (fun _ => rfl) (more + 1) (fuel + 1) ClassReading.start
  have bracket : ∀ reading, Sheds (fuel + 1) (readFirstBracket flags negated reading)
      (readFirstBracket flags negated reading) := by
    intro reading
    refine .ite (fun _ => .onMark (by decide) (flags.sheds_skip _) ?_) fun _ => ?_
    · exact .unread (some (negated, reading))
    · exact .unread (some (negated, reading))
  exact dashes.bind bracket

theorem sheds_readOpeningBehind (flags : Flags) :
    Sheds size (readOpeningBehind flags) (readOpeningBehind flags) := by
  have opened : ∀ {size} negated,
      Sheds size (fun text => readOpeningFrom flags negated text.length text)
        fun text => readOpeningFrom flags negated text.length text := fun negated =>
    { leaves := fun text => (sheds_readOpeningFrom flags negated text.length 0).leaves text
      sheds := fun text tail value rest _ closes done =>
        (sheds_readOpeningFrom flags negated _ text.length).sheds text tail value rest
          (Nat.lt_succ_self _) closes done }
  exact .onMark (by decide) ((opened true).skipBefore flags) (opened false)

theorem sheds_readInner {flags : Flags}
    {next later : Bool → ClassReading → List Char → Option (Nested × List Char)}
    (sheds : ∀ negated reading, Sheds size (next negated reading) (later negated reading))
    (negated : Bool) (reading : ClassReading) :
    Sheds size (readInner flags next negated reading) (readInner flags later negated reading) := by
  have opened : Sheds size (fun text => readOpeningBehind flags (flags.skip text))
      fun text => readOpeningBehind flags (flags.skip text) :=
    (sheds_readOpeningBehind flags).skipBefore flags
  refine .orElse (fun text tail => readPosixSet_append text) readPosixSet_suffix
    (fun named => ?_) ?_
  · exact .given _ fun set => sheds negated (reading.add ⟨set, 0⟩)
  · exact (opened.bind fun opening => sheds opening.1 opening.2).bind fun inner =>
      sheds negated (reading.add inner)

/-- What follows a member of a class fails where no text is left. -/
theorem sheds_readClassStep {flags : Flags}
    {next later : Bool → ClassReading → List Char → Option (Nested × List Char)}
    (sheds : ∀ negated reading, Sheds (size - 1) (next negated reading) (later negated reading))
    (needs : ∀ negated reading, later negated reading [] = none)
    (negated : Bool) (reading : ClassReading) :
    Sheds size (readClassStep flags next negated reading)
      (readClassStep flags later negated reading) := by
  have ranges : Sheds size
      (fun text => (readRange flags text).bind fun read =>
        next negated (reading.add ⟨read.1, 0⟩) read.2)
      fun text => (readRange flags text).bind fun read =>
        later negated (reading.add ⟨read.1, 0⟩) read.2 := by
    refine ((sheds_readRange flags).bindBehind (length_readRange_lt flags) fun set =>
      sheds negated (reading.add ⟨set, 0⟩)).weaken fun text nested rest done => ?_
    obtain ⟨⟨set, behind⟩, isRead, done⟩ := Option.bind_eq_some_iff.1 done
    rcases readRangeOpen_cases isRead with isRead | rfl
    · exact Option.bind_eq_some_iff.2 ⟨_, isRead, done⟩
    · cases (needs _ _).symm.trans done
  refine .onMark (by decide) (.unread (closeClass flags negated reading)) ?_
  refine .onPair (by decide) (by decide) (sheds negated _) ?_
  refine .onPair (by decide) (by decide) (sheds negated _) ?_
  refine .onPair (by decide) (by decide) (sheds negated _) ?_
  exact .onMark (by decide) (sheds_readInner sheds negated reading) ranges

theorem readClass_nil (flags : Flags) (fuel : Nat) (negated : Bool) (reading : ClassReading) :
    readClass flags fuel negated reading [] = none := by
  cases fuel with
  | zero => rfl
  | succ fuel =>
      have ends : flags.skip [] = [] := List.suffix_nil.1 (flags.skip_suffix [])
      rw [readClass_succ, ends]
      rfl

theorem sheds_readClass (flags : Flags) (more fuel : Nat) (negated : Bool)
    (reading : ClassReading) :
    Sheds fuel (readClass flags more negated reading) (readClass flags fuel negated reading) := by
  induction more generalizing fuel negated reading with
  | zero => exact .failing
  | succ more ih =>
      refine Sheds.of_succ id rfl (readClass flags · negated reading) (fun fuel => ?_) fuel
      have step : Sheds (fuel + 1) (readClassStep flags (readClass flags more) negated reading)
          (readClassStep flags (readClass flags fuel) negated reading) :=
        @sheds_readClassStep (fuel + 1) flags _ _ (ih fuel) (readClass_nil flags fuel) negated
          reading
      exact (step.skipBefore flags).congr (readClass_succ flags more negated reading)
        (readClass_succ flags fuel negated reading)

theorem sheds_readBracket (flags : Flags) :
    Sheds size (readBracket flags) (readBracket flags) := by
  have classes : ∀ more fuel, Sheds fuel
      (fun text => (readOpeningBehind flags (flags.skip text)).bind fun opened =>
        readClass flags more opened.1.1 opened.1.2 opened.2)
      fun text => (readOpeningBehind flags (flags.skip text)).bind fun opened =>
        readClass flags fuel opened.1.1 opened.1.2 opened.2 := fun more fuel =>
    ((sheds_readOpeningBehind flags).skipBefore flags).bind fun opening =>
      sheds_readClass flags more fuel opening.1 opening.2
  exact (Sheds.fuelled classes).congr (readBracket_eq flags) (readBracket_eq flags)

/-! ## Counts -/

theorem sheds_trimStart {α : Type} (value : α) :
    Sheds size (fun text => some (value, Text.trimStart text))
      fun text => some (value, Text.trimStart text) where
  leaves text _ _ := by
    rintro ⟨⟩
    exact List.dropWhile_suffix Text.isBlank
  sheds text tail _ rest _ closes done := by
    obtain ⟨rfl, trimmed⟩ := Prod.mk.inj (Option.some.inj done)
    rw [trimStart_append text closes] at trimmed
    rw [List.append_cancel_right trimmed]

theorem sheds_dropBlanks {α : Type} (flags : Flags) (value : α) :
    Sheds size (fun text => some (value, dropBlanks flags text))
      fun text => some (value, dropBlanks flags text) := by
  have dropped : Sheds size (fun text => some (value, flags.skip (Text.trimStart text)))
      fun text => some (value, flags.skip (Text.trimStart text)) :=
    (sheds_trimStart value).skipAfter flags
  exact (Sheds.onHead isBlank_closing dropped (.unread (some value))).congr
    (some_dropBlanks flags value) (some_dropBlanks flags value)

theorem sheds_readCount (flags : Flags) : Sheds size (readCount flags) (readCount flags) := by
  have digits : ∀ more fuel,
      Sheds fuel (fun text => skim flags addDigit? more [] (Text.trimStart text))
        fun text => skim flags addDigit? fuel [] (Text.trimStart text) := fun more fuel =>
    (sheds_trimStart ()).bind fun _ => sheds_skim flags (fun _ => rfl) more fuel []
  have counted := ((Sheds.fuelled digits).bind (@sheds_dropBlanks size _ flags)).filterMap
    fun read => countOf? read.reverse
  exact counted.congr (readCount_eq flags) (readCount_eq flags)

theorem sheds_readMost (flags : Flags) (least : Nat) :
    Sheds size (readMost flags least) (readMost flags least) := by
  have closed : ∀ most, Sheds size (readCountsEnd least most) (readCountsEnd least most) :=
    fun most => .onMark (by decide)
      (.ite (fun _ => .unread (some (least, some most))) fun _ => .failing) .failing
  refine .onMark (by decide) (.unread (some (least, none))) ?_
  exact (sheds_readCount flags).bind fun most? => .given most? closed

theorem sheds_readRounds (flags : Flags) : Sheds size (readRounds flags) (readRounds flags) := by
  have behind : ∀ least, Sheds size (readRoundsFrom flags least) (readRoundsFrom flags least) := by
    intro least
    refine .onMark (by decide) (.unread (some (least, some least))) ?_
    exact .onMark (by decide) ((sheds_readMost flags least).skipBefore flags) .failing
  refine ((sheds_readCount flags).bind fun least? => .given least? behind).unlessEmpty.weaken ?_
  intro text value rest done
  unfold readRounds
  rw [if_neg]
  · exact done
  · rintro rfl
    cases done

/-! ## Groups -/

theorem sheds_readGroupOpening (flags : Flags) :
    Sheds size (readGroupOpening flags) (readGroupOpening flags) := by
  have named : ∀ {size}, Sheds size (readNamed flags) (readNamed flags) :=
    (Sheds.of_isLocal (isLocal_readName [])).map fun name => Opening.group flags true (some name)
  have marked : Sheds (size - 1) (readMarkedOpening flags) (readMarkedOpening flags) := by
    refine .onPair (by decide) (by decide) named ?_
    refine .onPair (by decide) (by decide) .failing ?_
    refine .onPair (by decide) (by decide) .failing ?_
    exact .onMark (by decide) named (.of_isLocal (isLocal_readFlagged flags))
  exact ((Sheds.onMark (by decide) marked
    (.unread (some (Opening.group flags true none)))).skipBefore flags).congr
      (readGroupOpening_eq flags) (readGroupOpening_eq flags)

/-! ## Leaves -/

/-- Read a part without inner parts, also where a brace behind it ends the text. -/
def readLeafOpen (flags : Flags) : List Char → Option (Part × List Char) :=
  readLeafWith (readEscapedOpen flags) flags

theorem sheds_readLeaf (flags : Flags) : Sheds size (readLeaf flags) (readLeafOpen flags) := by
  refine Sheds.congr ?_ (readLeaf_eq flags) fun _ => rfl
  refine .onMark (by decide) ((sheds_readEscaped flags).map (partOfEscaped flags)) ?_
  refine .onMark (by decide) (.unread (flags.dot?.map Part.leaf)) ?_
  refine .onMark (by decide) (.unread (some (Part.leaf (.anchor flags.caret)))) ?_
  refine .onMark (by decide) (.unread (some (Part.leaf (.anchor flags.dollar)))) ?_
  refine .onMark (by decide) ((sheds_readBracket flags).map partOfNested) ?_
  exact .onCharacter fun character => .unread (some (Part.leaf (flags.literal character)))

/-- A leaf is read otherwise only as a word edge that a brace stands behind. -/
theorem readLeafOpen_cases {flags : Flags} {text rest : List Char} {part : Part}
    (done : readLeafOpen flags text = some (part, rest)) :
    readLeaf flags text = some (part, rest) ∨
      ∃ blanks, rest = '\x7b' :: blanks ∧ flags.skip blanks = [] := by
  rw [readLeaf_eq]
  unfold readLeafOpen readLeafWith at done
  unfold readLeafWith
  by_cases stands : ∃ inside, text = '\\' :: inside
  · obtain ⟨inside, rfl⟩ := stands
    rw [onMark_cons rfl] at done ⊢
    obtain ⟨⟨value, behind⟩, isRead, same⟩ := Option.map_eq_some_iff.1 done
    cases same
    rcases readEscapedOpen_cases isRead with isRead | ⟨_, braced⟩
    · rw [isRead]
      exact .inl rfl
    · exact .inr braced
  · rw [onMark_of_ne fun inside same => stands ⟨inside, same⟩] at done ⊢
    exact .inl done

theorem length_readLeaf_lt (flags : Flags) (text : List Char) (part : Part) (rest : List Char)
    (done : readLeaf flags text = some (part, rest)) : rest.length < text.length := by
  rw [readLeaf_eq] at done
  refine length_onMark_lt ((@sheds_readEscaped 0 flags).map (partOfEscaped flags)).leaves ?_ done
  refine fun text rest => length_onMark_lt (@Sheds.unread _ 0 (flags.dot?.map Part.leaf)).leaves ?_
  refine fun text rest => length_onMark_lt (@Sheds.unread _ 0 (some _)).leaves ?_
  refine fun text rest => length_onMark_lt (@Sheds.unread _ 0 (some _)).leaves ?_
  refine fun text rest => length_onMark_lt ((@sheds_readBracket 0 flags).map partOfNested).leaves ?_
  intro text rest done
  cases text with
  | nil => cases done
  | cons character behind =>
      cases done
      exact Nat.lt_succ_self _

/-! ## Sequences and choices -/

theorem sheds_dropLazyMark {α : Type} (value : α) :
    Sheds size (fun text => some (value, dropLazyMark text))
      fun text => some (value, dropLazyMark text) :=
  (Sheds.onMark (by decide) (.unread (some value)) (.unread (some value))).congr
    (some_dropLazyMark value) (some_dropLazyMark value)

section Steps

variable
  {inside insideLater : List Part → Flags → List (List Char) → List Char →
    Option ((Part × List (List Char)) × List Char)}
  {next later : Progress → List Char → Option (Progress × List Char)}

theorem sheds_readRepeated (sequence : ∀ progress, Sheds size (next progress) (later progress))
    (progress : Progress) (least : Nat) (most : Option Nat) :
    Sheds size (readRepeated next progress least most) (readRepeated later progress least most) :=
  .given (progress.repeatLast? least most) fun grown =>
    (sheds_dropLazyMark ()).bind fun _ => sequence grown

theorem sheds_readCounted (sequence : ∀ progress, Sheds size (next progress) (later progress))
    (progress : Progress) :
    Sheds size (readCounted next progress) (readCounted later progress) :=
  ((sheds_readRounds progress.flags).skipBefore progress.flags).bind fun rounds =>
    (sheds_readRepeated sequence progress rounds.1 rounds.2).skipBefore progress.flags

theorem sheds_readOpened
    (branches : ∀ branches flags names,
      Sheds size (inside branches flags names) (insideLater branches flags names))
    (sequence : ∀ progress, Sheds size (next progress) (later progress))
    (progress : Progress) (opening : Opening) :
    Sheds size (readOpened inside next progress opening)
      (readOpened insideLater later progress opening) := by
  cases opening with
  | setting changed => exact sequence _
  | group flags remembers name? =>
      have closed : ∀ read, Sheds size (readGroupEnd next progress remembers read)
          (readGroupEnd later progress remembers read) := fun read =>
        .onCharacter fun mark =>
          .ite (fun _ => (sequence _).mono (Nat.sub_le size 1)) fun _ => .failing
      exact .ite (fun _ => .failing) fun _ => (branches _ _ _).bind closed

theorem sheds_readSequenceStep
    (branches : ∀ branches flags names,
      Sheds (size - 1) (inside branches flags names) (insideLater branches flags names))
    (sequence : ∀ progress, Sheds (size - 1) (next progress) (later progress))
    (progress : Progress)
    (needs : ∀ part blanks, progress.flags.skip blanks = [] →
      later (progress.add part) ('\x7b' :: blanks) = none) :
    Sheds size (readSequenceStep inside next progress)
      (readSequenceStep insideLater later progress) := by
  have leaves : Sheds size
      (fun text => (readLeaf progress.flags text).bind fun read =>
        next (progress.add read.1) read.2)
      fun text => (readLeaf progress.flags text).bind fun read =>
        later (progress.add read.1) read.2 := by
    refine ((sheds_readLeaf progress.flags).bindBehind (length_readLeaf_lt progress.flags)
      fun part => sequence (progress.add part)).weaken fun text value rest done => ?_
    obtain ⟨⟨part, behind⟩, isRead, done⟩ := Option.bind_eq_some_iff.1 done
    rcases readLeafOpen_cases isRead with isRead | ⟨blanks, rfl, ends⟩
    · exact Option.bind_eq_some_iff.2 ⟨_, isRead, done⟩
    · cases (needs part blanks ends).symm.trans done
  refine .onHead rfl (.unread (some progress)) ?_
  refine .onMark (by decide) (sheds_readRepeated sequence progress 0 (some 1)) ?_
  refine .onMark (by decide) (sheds_readRepeated sequence progress 0 none) ?_
  refine .onMark (by decide) (sheds_readRepeated sequence progress 1 none) ?_
  refine .onMark (by decide) (sheds_readCounted sequence progress) ?_
  exact .onMark (by decide) ((sheds_readGroupOpening progress.flags).bind
    (sheds_readOpened branches sequence progress)) leaves

theorem sheds_readBranchesStep
    (branches : ∀ branches flags names,
      Sheds (size - 1) (inside branches flags names) (insideLater branches flags names))
    (sequence : ∀ progress, Sheds size (next progress) (later progress))
    (earlier : List Part) (flags : Flags) (names : List (List Char)) :
    Sheds size (readBranchesStep inside next earlier flags names)
      (readBranchesStep insideLater later earlier flags names) := by
  have behind : ∀ progress, Sheds size (readBehindBranch inside earlier progress)
      (readBehindBranch insideLater earlier progress) := fun progress =>
    .onMark (by decide) (branches _ _ _)
      (.unread (some (Part.choice (Part.sequence progress.parts :: earlier), progress.names)))
  exact (sequence _).bind behind

end Steps

/-- A brace that nothing stands behind cannot be read. -/
theorem readSequence_brace {progress : Progress} {blanks : List Char}
    (ends : progress.flags.skip blanks = []) (fuel : Nat) :
    readSequence fuel progress ('\x7b' :: blanks) = none := by
  cases fuel with
  | zero => rfl
  | succ fuel =>
      rw [readSequence_succ, progress.flags.skip_cons (by decide)]
      unfold readSequenceStep
      rw [if_neg (by simp [endsSequence]), onMark_of_ne (by simp), onMark_of_ne (by simp),
        onMark_of_ne (by simp), onMark_cons rfl]
      unfold readCounted
      rw [ends]
      rfl

/-- What is read in front of a closing parenthesis is read without it. -/
theorem sheds_pattern (more : Nat) :
    (∀ fuel branches flags names,
      Sheds (fuel / 2) (readBranches more branches flags names)
        (readBranches fuel branches flags names)) ∧
    ∀ fuel progress,
      Sheds ((fuel + 1) / 2) (readSequence more progress) (readSequence fuel progress) := by
  induction more with
  | zero => exact ⟨fun _ _ _ _ => .failing, fun _ _ => .failing⟩
  | succ more ih =>
      obtain ⟨branches, sequence⟩ := ih
      refine ⟨fun fuel earlier flags names => ?_, fun fuel progress => ?_⟩
      · refine Sheds.of_succ (· / 2) rfl (readBranches · earlier flags names) (fun fuel => ?_) fuel
        refine (sheds_readBranchesStep ?_ (sequence fuel) earlier flags names).congr
          (readBranches_succ more earlier flags names) (readBranches_succ fuel earlier flags names)
        exact fun earlier flags names => (branches fuel earlier flags names).mono (by omega)
      · refine Sheds.of_succ (fun fuel => (fuel + 1) / 2) rfl (readSequence · progress)
          (fun fuel => ?_) fuel
        have step : Sheds ((fuel + 1 + 1) / 2)
            (readSequenceStep (readBranches more) (readSequence more) progress)
            (readSequenceStep (readBranches fuel) (readSequence fuel) progress) := by
          refine sheds_readSequenceStep ?_ ?_ progress fun part blanks ends =>
            @readSequence_brace (progress.add part) blanks ends fuel
          · exact fun earlier flags names => (branches fuel earlier flags names).mono (by omega)
          · exact fun progress => (sequence fuel progress).mono (by omega)
        exact (step.skipBefore progress.flags).congr (readSequence_succ more progress)
          (readSequence_succ fuel progress)

end PolicyWatch.Regex
