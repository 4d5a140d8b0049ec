import PolicyWatch.Proofs.Regex.BracketSteps
import PolicyWatch.Proofs.Regex.EscapeSteps
import PolicyWatch.Proofs.Regex.PatternSteps
import PolicyWatch.Proofs.Regex.Tail

/-!
# Reading patterns in front of a tail

Main statement: what is read as a pattern is read as the same pattern in front of a
tail, which is left behind it or taken in by a comment at its end.
-/

namespace PolicyWatch.Regex

variable {ι : Type}

/-! ## Codes of characters -/

theorem carries_readHexDigits (flags : Flags) (count : Nat) (read : List Char) :
    Carries (readHexDigits flags count read) fun _ : ι => readHexDigits flags count read := by
  induction count generalizing read with
  | zero => exact .unread (some read.reverse)
  | succ count ih =>
      refine Carries.congr (.onCharacter fun digit => ?_) (readHexDigits_succ flags count read)
        fun _ => readHexDigits_succ flags count read
      exact .ite (fun _ => (ih (digit :: read)).skipBefore flags) fun _ => .failing

theorem carries_readHexBraces (flags : Flags) (fuel : Nat) (read : List Char) :
    Carries (readHexBraces flags fuel read) fun more : { more // fuel ≤ more } =>
      readHexBraces flags more read := by
  induction fuel generalizing read with
  | zero => exact .failing
  | succ fuel ih =>
      refine Carries.of_succ (readHexBraces flags · read) ?_
      refine Carries.congr ((Carries.onCharacter fun character => ?_).skipBefore flags)
        (readHexBraces_succ flags fuel read) fun more => readHexBraces_succ flags more read
      refine .ite (fun _ => .unread (some read.reverse)) fun _ => ?_
      exact .ite (fun _ => ih (character :: read)) fun _ => .failing

theorem carries_readHex (flags : Flags) (width : Nat) :
    Carries (readHex flags width) fun _ : ι => readHex flags width := by
  have braced : Carries (readBracedHex flags) fun _ : ι => readBracedHex flags :=
    ((Carries.fuelled (fun fuel => carries_readHexBraces flags fuel []) (· + 1)
      fun _ _ => Nat.succ_le_succ).filterMap hexInBraces?).skipAfter flags
  have bare : Carries (readBareHex flags width) fun _ : ι => readBareHex flags width :=
    (carries_readHexDigits flags width []).filterMap (hexOfWidth? flags width)
  exact ((Carries.onMark (by decide) braced bare).skipBefore flags).congr
    (readHex_eq flags width) fun _ => readHex_eq flags width

/-! ## Properties -/

theorem carries_readPropertyName (flags : Flags) (fuel : Nat) (read : List Char) :
    Carries (readPropertyName flags fuel read) fun more : { more // fuel ≤ more } =>
      readPropertyName flags more read := by
  induction fuel generalizing read with
  | zero => exact .failing
  | succ fuel ih =>
      refine Carries.of_succ (readPropertyName flags · read) ?_
      refine Carries.congr ((Carries.onCharacter fun character => ?_).skipBefore flags)
        (readPropertyName_succ flags fuel read) fun more => readPropertyName_succ flags more read
      exact .ite (fun _ => .unread (some read.reverse)) fun _ => ih (character :: read)

theorem carries_readProperty (flags : Flags) (negated : Bool) :
    Carries (readProperty flags negated) fun _ : ι => readProperty flags negated := by
  refine Carries.congr (.ite (fun _ => .failing) fun _ => ?_) (readProperty_eq flags negated)
    fun _ => readProperty_eq flags negated
  refine (Carries.onCharacter fun character => ?_).skipBefore flags
  refine .ite (fun _ => ?_) fun _ => ?_
  · exact (Carries.fuelled (fun fuel => carries_readPropertyName flags fuel []) (· + 1)
      fun _ _ => Nat.succ_le_succ).filterMap (propertyInBraces? flags negated)
  · exact (Carries.unread (propertyOfLetter? flags negated character)).skipAfter flags

/-! ## Word edges -/

theorem carries_readEdgeName (flags : Flags) (fuel : Nat) (read : List Char) :
    Carries (readEdgeName flags fuel read) fun more : { more // fuel ≤ more } =>
      readEdgeName flags more read := by
  induction fuel generalizing read with
  | zero => exact .failing
  | succ fuel ih =>
      refine Carries.of_succ (readEdgeName flags · read) ?_
      refine Carries.congr (Carries.onCharacter fun character => ?_)
        (readEdgeName_succ flags fuel read) fun more => readEdgeName_succ flags more read
      refine .ite (fun _ => .unread (some read.reverse)) fun _ => ?_
      exact .ite (fun _ => (ih (character :: read)).skipBefore flags) fun _ => .failing

theorem carries_readEdge (flags : Flags) :
    Carries (readEdge flags) fun _ : ι => readEdge flags := by
  refine Carries.congr (.onMark (by decide) ?_ (.unread (some .boundary))) (readEdge_eq flags)
    fun _ => readEdge_eq flags
  have named : Carries (fun text => readNamedEdge flags (flags.skip text))
      fun (_ : ι) text => readNamedEdge flags (flags.skip text) :=
    ((Carries.fuelled (fun fuel => carries_readEdgeName flags fuel []) (· + 1)
      fun _ _ => Nat.succ_le_succ).filterMap edgeNamed?).skipBefore flags
  -- The last case puts the brace back, so no reader form covers it.
  refine ⟨fun _ _ done => ?_, fun text value rest done => ?_⟩
  · rw [readEdgeBehind, flags.skip_nil] at done
    cases done
  · unfold readEdgeBehind readEdgeBehindOpen at done ⊢
    cases skipped : flags.skip text with
    | nil =>
        rw [skipped] at done
        cases done
    | cons character remaining =>
        have nonempty : flags.skip text ≠ [] := skipped ▸ List.cons_ne_nil _ _
        have nonemptyTail : ∀ tail, flags.skip (text ++ tail) ≠ [] := fun tail =>
          Flags.skip_append skipped tail ▸ List.cons_ne_nil _ _
        have sameHead : ∀ tail, (flags.skip (text ++ tail)).head? = (flags.skip text).head? :=
          fun tail => by rw [Flags.skip_append skipped tail, skipped]; rfl
        rw [if_neg nonempty] at done
        simp only [if_neg (nonemptyTail _), sameHead]
        by_cases isName : (flags.skip text).head?.any isEdgeNameCharacter
        · rw [if_pos isName] at done
          simp only [if_pos isName]
          exact named.inFront text value rest done
        · rw [if_neg isName] at done
          cases done
          simp only [if_neg isName]
          exact .inl fun _ tail closes => rfl

/-! ## Escapes -/

theorem carries_readEscaped (flags : Flags) :
    Carries (readEscaped flags) fun _ : ι => readEscaped flags := by
  refine Carries.congr (.onCharacter fun letter => ?_) (readEscaped_eq flags)
    fun _ => readEscaped_eq flags
  refine .ite (fun _ => .failing) fun _ => ?_
  refine .ite (fun _ => (carries_readHex flags 2).map Escaped.character) fun _ => ?_
  refine .ite (fun _ => (carries_readHex flags 4).map Escaped.character) fun _ => ?_
  refine .ite (fun _ => (carries_readHex flags 8).map Escaped.character) fun _ => ?_
  refine .ite (fun _ => (carries_readProperty flags false).map Escaped.set) fun _ => ?_
  refine .ite (fun _ => (carries_readProperty flags true).map Escaped.set) fun _ => ?_
  refine .ite (fun _ => .unread ((flags.shorthand? letter).map Escaped.set)) fun _ => ?_
  refine .ite (fun _ => .unread (some (Escaped.character letter))) fun _ => ?_
  refine .ite (fun _ => ?_) fun _ => .unread (escapeOfLetter? flags letter)
  exact (carries_readEdge flags).map fun edge => Escaped.anchor (.word edge (!flags.unicode))

/-! ## Ranges -/

theorem carries_readMember (flags : Flags) :
    Carries (readMember flags) fun _ : ι => readMember flags := by
  refine Carries.congr (.onMark (by decide) (carries_readEscaped flags) ?_) (readMember_eq flags)
    fun _ => readMember_eq flags
  exact .onCharacter fun character => .unread (some (Escaped.character character))

theorem carries_readBehindDash (flags : Flags) (first : Escaped) :
    Carries (readBehindDash flags first) fun _ : ι => readBehindDash flags first := by
  have rangeEnd : Carries (fun text => readRangeEnd flags first (flags.skip text))
      fun (_ : ι) text => readRangeEnd flags first (flags.skip text) :=
    ((carries_readMember flags).filterMap (rangeSet? flags first)).unlessEmpty.skipBefore flags
  have atNothing : ¬ (flags.peek [] = some ']' ∨ flags.peek [] = some '-') := by
    rw [flags.peek_nil]
    rintro (seen | seen) <;> cases seen
  refine ⟨fun value rest done => ?_, fun text value rest done => ?_⟩
  · obtain ⟨isEnd, readLonger⟩ :=
      rangeEnd.atEnd value rest ((if_neg atNothing).symm.trans done)
    exact ⟨isEnd, fun i => (if_neg atNothing).trans (readLonger i)⟩
  · have same : ∀ tail, IsTail tail →
        (flags.peek (text ++ tail) = some ']' ∨ flags.peek (text ++ tail) = some '-' ↔
          flags.peek text = some ']' ∨ flags.peek text = some '-') := fun tail closes =>
      or_congr (flags.peek_append_iff text closes.isClosing (by decide) (by decide))
        (flags.peek_append_iff text closes.isClosing (by decide) (by decide))
    unfold readBehindDash at done ⊢
    by_cases itself : flags.peek text = some ']' ∨ flags.peek text = some '-'
    · rw [if_pos itself] at done
      obtain ⟨set, isSet, isRead⟩ := Option.map_eq_some_iff.1 done
      cases isRead
      refine .inl fun _ tail closes => (if_pos ((same tail closes).2 itself)).trans ?_
      rw [isSet]
      rfl
    · rw [if_neg itself] at done
      exact (rangeEnd.inFront text value rest done).congr (fun i _ => i) fun _ tail closes =>
        if_neg (mt (same tail closes).1 itself)

theorem carries_readRange (flags : Flags) :
    Carries (readRange flags) fun _ : ι => readRange flags := by
  have behind : ∀ first, Carries (readBehindMember flags first)
      fun _ : ι => readBehindMember flags first := fun first =>
    (Carries.onMark (by decide) (carries_readBehindDash flags first)
      (.unread (memberSet? flags first))).unlessEmpty
  exact ((carries_readMember flags).bind fun first => (behind first).skipBefore flags).congr
    (readRange_eq flags) fun _ => readRange_eq flags

/-! ## Openings -/

theorem carries_readOpeningFrom (flags : Flags) (negated : Bool) (fuel : Nat) :
    Carries (readOpeningFrom flags negated fuel) fun more : { more // fuel ≤ more } =>
      readOpeningFrom flags negated more := by
  have dashes : Carries (skim flags addDash? (fuel + 1) ClassReading.start)
      fun more : { more // fuel ≤ more } => skim flags addDash? (more + 1) ClassReading.start :=
    (carries_skim flags (fun _ => rfl) (fuel + 1) ClassReading.start).reindex
      fun more : { more // fuel ≤ more } => ⟨more + 1, Nat.succ_le_succ more.2⟩
  have bracket : ∀ reading, Carries (readFirstBracket flags negated reading)
      fun _ : { more // fuel ≤ more } => readFirstBracket flags negated reading := by
    intro reading
    refine .ite (fun _ => .onMark (by decide) (flags.carries_skip _) ?_) fun _ => ?_
    · exact .unread (some (negated, reading))
    · exact .unread (some (negated, reading))
  exact dashes.bind bracket

theorem carries_readOpeningBehind (flags : Flags) :
    Carries (readOpeningBehind flags) fun _ : ι => readOpeningBehind flags := by
  have opened : ∀ negated, Carries (fun text => readOpeningFrom flags negated text.length text)
      fun (_ : ι) text => readOpeningFrom flags negated text.length text := fun negated =>
    .fuelled (carries_readOpeningFrom flags negated) id fun _ _ => id
  exact .onMark (by decide) ((opened true).skipBefore flags) (opened false)

/-! ## Classes -/

theorem carries_readInner {flags : Flags}
    {next : Bool → ClassReading → List Char → Option (Nested × List Char)}
    {nextLonger : ι → Bool → ClassReading → List Char → Option (Nested × List Char)}
    (carries : ∀ negated reading, Carries (next negated reading) fun i =>
      nextLonger i negated reading)
    (negated : Bool) (reading : ClassReading) :
    Carries (readInner flags next negated reading) fun i =>
      readInner flags (nextLonger i) negated reading := by
  have opened : Carries (fun text => readOpeningBehind flags (flags.skip text))
      fun (_ : ι) text => readOpeningBehind flags (flags.skip text) :=
    (carries_readOpeningBehind flags).skipBefore flags
  refine .orElse (fun text tail => readPosixSet_append text) rfl (fun named => ?_) ?_
  · exact .given _ fun set => carries negated (reading.add ⟨set, 0⟩)
  · exact (opened.bind fun opening => carries opening.1 opening.2).bind fun inner =>
      carries negated (reading.add inner)

theorem carries_readClassStep {flags : Flags}
    {next : Bool → ClassReading → List Char → Option (Nested × List Char)}
    {nextLonger : ι → Bool → ClassReading → List Char → Option (Nested × List Char)}
    (carries : ∀ negated reading, Carries (next negated reading) fun i =>
      nextLonger i negated reading)
    (negated : Bool) (reading : ClassReading) :
    Carries (readClassStep flags next negated reading) fun i =>
      readClassStep flags (nextLonger i) negated reading := by
  refine .onMark (by decide) (.unread (closeClass flags negated reading)) ?_
  refine .onPair (by decide) (by decide) (carries negated _) ?_
  refine .onPair (by decide) (by decide) (carries negated _) ?_
  refine .onPair (by decide) (by decide) (carries negated _) ?_
  refine .onMark (by decide) (carries_readInner carries negated reading) ?_
  exact (carries_readRange flags).bind fun set => carries negated (reading.add ⟨set, 0⟩)

theorem carries_readClass (flags : Flags) (fuel : Nat) (negated : Bool) (reading : ClassReading) :
    Carries (readClass flags fuel negated reading) fun more : { more // fuel ≤ more } =>
      readClass flags more negated reading := by
  induction fuel generalizing negated reading with
  | zero => exact .failing
  | succ fuel ih =>
      refine Carries.of_succ (readClass flags · negated reading) ?_
      exact ((carries_readClassStep ih negated reading).skipBefore flags).congr
        (readClass_succ flags fuel negated reading) fun more =>
          readClass_succ flags more negated reading

/-- A class is read alike in front of a tail. -/
theorem carries_readBracket (flags : Flags) :
    Carries (readBracket flags) fun _ : ι => readBracket flags := by
  have classes : ∀ fuel, Carries
      (fun text => (readOpeningBehind flags (flags.skip text)).bind fun opened =>
        readClass flags fuel opened.1.1 opened.1.2 opened.2)
      fun (more : { more // fuel ≤ more }) text =>
        (readOpeningBehind flags (flags.skip text)).bind fun opened =>
          readClass flags more opened.1.1 opened.1.2 opened.2 := fun fuel =>
    ((carries_readOpeningBehind flags).skipBefore flags).bind fun opening =>
      carries_readClass flags fuel opening.1 opening.2
  exact (Carries.fuelled classes (· + 1) fun _ _ => Nat.succ_le_succ).congr
    (readBracket_eq flags) fun _ => readBracket_eq flags

/-! ## Counts -/

theorem carries_trimStart {α : Type} (value : α) :
    Carries (fun text => some (value, Text.trimStart text))
      fun (_ : ι) text => some (value, Text.trimStart text) where
  atEnd _ _ := by
    rintro ⟨⟩
    exact ⟨rfl, fun _ => rfl⟩
  inFront text _ _ := by
    rintro ⟨⟩
    exact .inl fun _ tail closes =>
      congrArg (fun rest => some (value, rest)) (trimStart_append text closes.isClosing)

theorem carries_dropBlanks {α : Type} (flags : Flags) (value : α) :
    Carries (fun text => some (value, dropBlanks flags text))
      fun (_ : ι) text => some (value, dropBlanks flags text) := by
  have dropped : Carries (fun text => some (value, flags.skip (Text.trimStart text)))
      fun (_ : ι) text => some (value, flags.skip (Text.trimStart text)) :=
    (carries_trimStart value).skipAfter flags
  exact (Carries.onHead isBlank_closing dropped (.unread (some value))).congr
    (some_dropBlanks flags value) fun _ => some_dropBlanks flags value

theorem carries_readCount (flags : Flags) :
    Carries (readCount flags) fun _ : ι => readCount flags := by
  have digits : ∀ fuel,
      Carries (fun text => skim flags addDigit? fuel [] (Text.trimStart text))
        fun (more : { more // fuel ≤ more }) text =>
          skim flags addDigit? more [] (Text.trimStart text) := fun fuel =>
    (carries_trimStart ()).bind fun _ => carries_skim flags (fun _ => rfl) fuel []
  have counted := ((Carries.fuelled digits (· + 1) fun _ _ => Nat.succ_le_succ).bind
    (carries_dropBlanks (ι := ι) flags)).filterMap fun read => countOf? read.reverse
  exact counted.congr (readCount_eq flags) fun _ => readCount_eq flags

theorem carries_readMost (flags : Flags) (least : Nat) :
    Carries (readMost flags least) fun _ : ι => readMost flags least := by
  have closed : ∀ most, Carries (readCountsEnd least most)
      fun _ : ι => readCountsEnd least most := fun most =>
    .onMark (by decide) (.ite (fun _ => .unread (some (least, some most))) fun _ => .failing)
      .failing
  refine .onMark (by decide) (.unread (some (least, none))) ?_
  exact (carries_readCount flags).bind fun most? => .given most? closed

theorem carries_readRounds (flags : Flags) :
    Carries (readRounds flags) fun _ : ι => readRounds flags := by
  have behind : ∀ least, Carries (readRoundsFrom flags least)
      fun _ : ι => readRoundsFrom flags least := by
    intro least
    refine .onMark (by decide) (.unread (some (least, some least))) ?_
    exact .onMark (by decide) ((carries_readMost flags least).skipBefore flags) .failing
  exact ((carries_readCount flags).bind fun least? => .given least? behind).unlessEmpty

/-! ## Groups -/

theorem carries_readNamed (flags : Flags) :
    Carries (readNamed flags) fun _ : ι => readNamed flags := by
  have named : Carries (readName []) fun _ : ι => readName [] :=
    .of_isLocal rfl (isLocal_readName [])
  exact named.map fun name => Opening.group flags true (some name)

theorem carries_readGroupOpening (flags : Flags) :
    Carries (readGroupOpening flags) fun _ : ι => readGroupOpening flags := by
  have marked : Carries (readMarkedOpening flags) fun _ : ι => readMarkedOpening flags := by
    refine .onPair (by decide) (by decide) (carries_readNamed flags) ?_
    refine .onPair (by decide) (by decide) .failing ?_
    refine .onPair (by decide) (by decide) .failing ?_
    exact .onMark (by decide) (carries_readNamed flags)
      (.of_isLocal rfl (isLocal_readFlagged flags))
  exact ((Carries.onMark (by decide) marked
    (.unread (some (Opening.group flags true none)))).skipBefore flags).congr
      (readGroupOpening_eq flags) fun _ => readGroupOpening_eq flags

/-! ## Leaves -/

theorem carries_readLeaf (flags : Flags) :
    Carries (readLeaf flags) fun _ : ι => readLeaf flags := by
  rw [funext (readLeaf_eq flags)]
  refine .onMark (by decide) ((carries_readEscaped flags).map (partOfEscaped flags)) ?_
  refine .onMark (by decide) (.unread (flags.dot?.map Part.leaf)) ?_
  refine .onMark (by decide) (.unread (some (Part.leaf (.anchor flags.caret)))) ?_
  refine .onMark (by decide) (.unread (some (Part.leaf (.anchor flags.dollar)))) ?_
  refine .onMark (by decide) ((carries_readBracket flags).map partOfNested) ?_
  exact .onCharacter fun character => .unread (some (Part.leaf (flags.literal character)))

/-! ## Sequences and choices -/

theorem carries_dropLazyMark {α : Type} (value : α) :
    Carries (fun text => some (value, dropLazyMark text))
      fun (_ : ι) text => some (value, dropLazyMark text) :=
  (Carries.onMark (by decide) (.unread (some value)) (.unread (some value))).congr
    (some_dropLazyMark value) fun _ => some_dropLazyMark value

section Steps

variable
  {inside : List Part → Flags → List (List Char) → List Char →
    Option ((Part × List (List Char)) × List Char)}
  {insideLonger : ι → List Part → Flags → List (List Char) → List Char →
    Option ((Part × List (List Char)) × List Char)}
  {next : Progress → List Char → Option (Progress × List Char)}
  {nextLonger : ι → Progress → List Char → Option (Progress × List Char)}

theorem carries_readRepeated
    (sequence : ∀ progress, Carries (next progress) fun i => nextLonger i progress)
    (progress : Progress) (least : Nat) (most : Option Nat) :
    Carries (readRepeated next progress least most) fun i =>
      readRepeated (nextLonger i) progress least most :=
  .given (progress.repeatLast? least most) fun grown =>
    (carries_dropLazyMark ()).bind fun _ => sequence grown

theorem carries_readCounted
    (sequence : ∀ progress, Carries (next progress) fun i => nextLonger i progress)
    (progress : Progress) :
    Carries (readCounted next progress) fun i => readCounted (nextLonger i) progress :=
  ((carries_readRounds progress.flags).skipBefore progress.flags).bind fun rounds =>
    (carries_readRepeated sequence progress rounds.1 rounds.2).skipBefore progress.flags

theorem carries_readOpened
    (branches : ∀ branches flags names, Carries (inside branches flags names) fun i =>
      insideLonger i branches flags names)
    (sequence : ∀ progress, Carries (next progress) fun i => nextLonger i progress)
    (progress : Progress) (opening : Opening) :
    Carries (readOpened inside next progress opening) fun i =>
      readOpened (insideLonger i) (nextLonger i) progress opening := by
  cases opening with
  | setting changed => exact sequence _
  | group flags remembers name? =>
      have closed : ∀ read, Carries (readGroupEnd next progress remembers read)
          fun i => readGroupEnd (nextLonger i) progress remembers read := fun read =>
        .onCharacter fun mark => .ite (fun _ => sequence _) fun _ => .failing
      exact .ite (fun _ => .failing) fun _ => (branches _ _ _).bind closed

theorem carries_readSequenceStep
    (branches : ∀ branches flags names, Carries (inside branches flags names) fun i =>
      insideLonger i branches flags names)
    (sequence : ∀ progress, Carries (next progress) fun i => nextLonger i progress)
    (progress : Progress) :
    Carries (readSequenceStep inside next progress) fun i =>
      readSequenceStep (insideLonger i) (nextLonger i) progress := by
  refine .onHead rfl (.unread (some progress)) ?_
  refine .onMark (by decide) (carries_readRepeated sequence progress 0 (some 1)) ?_
  refine .onMark (by decide) (carries_readRepeated sequence progress 0 none) ?_
  refine .onMark (by decide) (carries_readRepeated sequence progress 1 none) ?_
  refine .onMark (by decide) (carries_readCounted sequence progress) ?_
  refine .onMark (by decide) ?_ ?_
  · exact (carries_readGroupOpening progress.flags).bind
      (carries_readOpened branches sequence progress)
  · exact (carries_readLeaf progress.flags).bind fun part => sequence (progress.add part)

theorem carries_readBranchesStep
    (branches : ∀ branches flags names, Carries (inside branches flags names) fun i =>
      insideLonger i branches flags names)
    (sequence : ∀ progress, Carries (next progress) fun i => nextLonger i progress)
    (earlier : List Part) (flags : Flags) (names : List (List Char)) :
    Carries (readBranchesStep inside next earlier flags names) fun i =>
      readBranchesStep (insideLonger i) (nextLonger i) earlier flags names := by
  have behind : ∀ progress, Carries (readBehindBranch inside earlier progress)
      fun i => readBehindBranch (insideLonger i) earlier progress := fun progress =>
    .onMark (by decide) (branches _ _ _)
      (.unread (some (Part.choice (Part.sequence progress.parts :: earlier), progress.names)))
  exact (sequence _).bind behind

end Steps

theorem carries_pattern (fuel : Nat) :
    (∀ branches flags names, Carries (readBranches fuel branches flags names)
      fun more : { more // fuel ≤ more } => readBranches more branches flags names) ∧
    ∀ progress, Carries (readSequence fuel progress)
      fun more : { more // fuel ≤ more } => readSequence more progress := by
  induction fuel with
  | zero => exact ⟨fun _ _ _ => .failing, fun _ => .failing⟩
  | succ fuel ih =>
      obtain ⟨branches, sequence⟩ := ih
      refine ⟨fun earlier flags names => ?_, fun progress => ?_⟩
      · refine Carries.of_succ (readBranches · earlier flags names) ?_
        exact (carries_readBranchesStep branches sequence earlier flags names).congr
          (readBranches_succ fuel earlier flags names) fun more =>
            readBranches_succ more earlier flags names
      · refine Carries.of_succ (readSequence · progress) ?_
        exact ((carries_readSequenceStep branches sequence progress).skipBefore
          progress.flags).congr (readSequence_succ fuel progress) fun more =>
            readSequence_succ more progress

end PolicyWatch.Regex
