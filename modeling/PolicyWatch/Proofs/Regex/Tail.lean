import PolicyWatch.Proofs.Regex.Reader

/-!
# Reading in front of a tail

A reader goes from the front of a text and leaves a rest.  A tail that starts with
a closing parenthesis is left with the rest, unless a comment is open where the text
ends, which then takes in the tail.  Main statements: readers made from readers with
this property have it, and dropping blanks and comments has it.
-/

namespace PolicyWatch.Regex

/-- A closing parenthesis with text of the same line behind it. -/
def IsTail (tail : List Char) : Prop :=
  ∃ line, tail = ')' :: line ∧ '\n' ∉ line

theorem IsTail.isClosing {tail : List Char} (isTail : IsTail tail) : IsClosing tail := by
  obtain ⟨line, rfl, _⟩ := isTail
  exact ⟨line, rfl⟩

section Carries

variable {ι κ α β : Type}

/-- What becomes of the tails behind a text that is read with a rest: they are left behind
the rest, or they are taken in where nothing is left. -/
def KeepsTails (value : α) (rest : List Char) (longer : ι → List Char → Option (α × List Char)) :
    Prop :=
  (∀ i tail, IsTail tail → longer i tail = some (value, rest ++ tail)) ∨
    (rest = [] ∧ ∀ i tail, IsTail tail → longer i tail = some (value, []))

theorem KeepsTails.congr {value : α} {rest : List Char}
    {longer : ι → List Char → Option (α × List Char)}
    {another : κ → List Char → Option (α × List Char)} (keeps : KeepsTails value rest longer)
    (index : κ → List Char → ι)
    (same : ∀ k tail, IsTail tail → another k tail = longer (index k tail) tail) :
    KeepsTails value rest another := by
  rcases keeps with left | ⟨isEnd, swallowed⟩
  · exact .inl fun k tail closes => (same k tail closes).trans (left _ tail closes)
  · exact .inr ⟨isEnd, fun k tail closes => (same k tail closes).trans (swallowed _ tail closes)⟩

/-- Whether what one reader reads is read by others where tails are put behind the text. -/
structure Carries (reader : List Char → Option (α × List Char))
    (longer : ι → List Char → Option (α × List Char)) : Prop where
  atEnd : ∀ value rest, reader [] = some (value, rest) →
    rest = [] ∧ ∀ i, longer i [] = some (value, [])
  inFront : ∀ text value rest, reader text = some (value, rest) →
    KeepsTails value rest fun i tail => longer i (text ++ tail)

namespace Carries

variable {reader : List Char → Option (α × List Char)}
  {longer : ι → List Char → Option (α × List Char)}

theorem congr {other : List Char → Option (α × List Char)}
    {another : ι → List Char → Option (α × List Char)} (carries : Carries reader longer)
    (same : ∀ text, other text = reader text)
    (sameLonger : ∀ i text, another i text = longer i text) : Carries other another := by
  rw [funext same, funext fun i => funext (sameLonger i)]
  exact carries

theorem reindex (carries : Carries reader longer) (index : κ → ι) :
    Carries reader fun k => longer (index k) where
  atEnd value rest done :=
    ⟨(carries.atEnd value rest done).1, fun k => (carries.atEnd value rest done).2 (index k)⟩
  inFront text value rest done :=
    (carries.inFront text value rest done).congr (fun k _ => index k) fun _ _ _ => rfl

theorem unread (value? : Option α) :
    Carries (fun text => value?.map (·, text)) fun (_ : ι) text => value?.map (·, text) where
  atEnd value rest done := by
    obtain ⟨same, rfl, isResult⟩ := Option.map_eq_some_iff.1 done
    cases isResult
    exact ⟨rfl, fun _ => rfl⟩
  inFront text value rest done := by
    obtain ⟨same, rfl, isResult⟩ := Option.map_eq_some_iff.1 done
    cases isResult
    exact .inl fun _ tail _ => rfl

theorem failing : Carries (fun _ => none) longer where
  atEnd _ _ done := nomatch done
  inFront _ _ _ done := nomatch done

/-- A reader that needs some text may be looked at behind each first character. -/
theorem onCharacter {each : Char → List Char → Option (α × List Char)}
    {later : ι → Char → List Char → Option (α × List Char)}
    (carries : ∀ character, Carries (each character) fun i => later i character) :
    Carries (Regex.onCharacter each) fun i => Regex.onCharacter (later i) where
  atEnd _ _ done := nomatch done
  inFront text value rest done := by
    cases text with
    | nil => cases done
    | cons character text => exact (carries character).inFront text value rest done

theorem ite {condition : Prop} [Decidable condition]
    {other : List Char → Option (α × List Char)}
    {another : ι → List Char → Option (α × List Char)}
    (holds : condition → Carries reader longer) (fails : ¬ condition → Carries other another) :
    Carries (fun text => if condition then reader text else other text)
      fun i text => if condition then longer i text else another i text := by
  by_cases given : condition
  · simp only [given, if_true]
    exact holds given
  · simp only [given, if_false]
    exact fails given

/-- A tail does not look like another mark than a closing parenthesis. -/
theorem onMark {mark : Char} (notClosing : mark ≠ ')')
    {behind : List Char → Option (α × List Char)}
    {behindLonger : ι → List Char → Option (α × List Char)}
    (stands : Carries behind behindLonger) (other : Carries reader longer) :
    Carries (Regex.onMark mark behind reader) fun i =>
      Regex.onMark mark (behindLonger i) (longer i) where
  atEnd value rest done := other.atEnd value rest done
  inFront text value rest done := by
    by_cases isMark : ∃ inside, text = mark :: inside
    · obtain ⟨inside, rfl⟩ := isMark
      rw [onMark_cons rfl] at done
      exact (stands.inFront inside value rest done).congr (fun i _ => i) fun _ _ _ =>
        onMark_cons rfl
    · rw [onMark_of_ne fun inside same => isMark ⟨inside, same⟩] at done
      refine (other.inFront text value rest done).congr (fun i _ => i) fun _ tail closes =>
        onMark_of_ne ?_
      exact closes.isClosing.ne_mark notClosing fun inside same => isMark ⟨inside, same⟩

/-- A tail does not make a pair of marks of which none is a closing parenthesis. -/
theorem onPair {first second : Char} (firstOpen : first ≠ ')') (secondOpen : second ≠ ')')
    {behind : List Char → Option (α × List Char)}
    {behindLonger : ι → List Char → Option (α × List Char)}
    (stands : Carries behind behindLonger) (other : Carries reader longer) :
    Carries (Regex.onPair first second behind reader) fun i =>
      Regex.onPair first second (behindLonger i) (longer i) where
  atEnd value rest done := other.atEnd value rest done
  inFront text value rest done := by
    by_cases isPair : ∃ inside, text = first :: second :: inside
    · obtain ⟨inside, rfl⟩ := isPair
      rw [onPair_cons] at done
      exact (stands.inFront inside value rest done).congr (fun i _ => i) fun _ _ _ =>
        onPair_cons _
    · rw [onPair_of_ne fun inside same => isPair ⟨inside, same⟩] at done
      refine (other.inFront text value rest done).congr (fun i _ => i) fun _ tail closes =>
        onPair_of_ne ?_
      exact closes.isClosing.ne_pair firstOpen secondOpen fun inside same =>
        isPair ⟨inside, same⟩

/-- One reader after another.  Where the first lets tails be taken in, it leaves
nothing for the second. -/
theorem bind {next : α → List Char → Option (β × List Char)}
    {later : ι → α → List Char → Option (β × List Char)}
    (first : Carries reader longer)
    (second : ∀ value, Carries (next value) fun i => later i value) :
    Carries (fun text => (reader text).bind fun read => next read.1 read.2)
      fun i text => (longer i text).bind fun read => later i read.1 read.2 where
  atEnd value final done := by
    obtain ⟨⟨middle, rest⟩, read, done⟩ := Option.bind_eq_some_iff.1 done
    obtain ⟨rfl, readLonger⟩ := first.atEnd middle rest read
    obtain ⟨isFinal, readLater⟩ := (second middle).atEnd value final done
    exact ⟨isFinal, fun i => Option.bind_eq_some_iff.2 ⟨_, readLonger i, readLater i⟩⟩
  inFront text value final done := by
    obtain ⟨⟨middle, rest⟩, read, done⟩ := Option.bind_eq_some_iff.1 done
    rcases first.inFront text middle rest read with left | ⟨rfl, swallowed⟩
    · refine ((second middle).inFront rest value final done).congr (fun i _ => i) ?_
      intro i tail closes
      have readLonger : longer i (text ++ tail) = some (middle, rest ++ tail) :=
        left i tail closes
      rw [readLonger, Option.bind_some]
    · obtain ⟨isFinal, readLater⟩ := (second middle).atEnd value final done
      exact .inr ⟨isFinal, fun i tail closes =>
        Option.bind_eq_some_iff.2 ⟨_, swallowed i tail closes, readLater i⟩⟩

theorem filterMap (carries : Carries reader longer) (change : α → Option β) :
    Carries (fun text => (reader text).bind fun read => (change read.1).map (·, read.2))
      fun i text => (longer i text).bind fun read => (change read.1).map (·, read.2) :=
  carries.bind fun value => unread (change value)

theorem map (carries : Carries reader longer) (change : α → β) :
    Carries (fun text => (reader text).map fun read => (change read.1, read.2))
      fun i text => (longer i text).map fun read => (change read.1, read.2) := by
  refine (carries.filterMap fun value => some (change value)).congr ?_ ?_
  · intro text
    cases reader text <;> rfl
  · intro i text
    cases longer i text <;> rfl

/-- What is read may decide how to go on without being part of the text. -/
theorem given (value? : Option β) {next : β → List Char → Option (α × List Char)}
    {later : ι → β → List Char → Option (α × List Char)}
    (each : ∀ value, Carries (next value) fun i => later i value) :
    Carries (fun text => value?.bind (next · text)) fun i text => value?.bind (later i · text) := by
  cases value? with
  | none => exact failing
  | some value => exact each value

theorem unlessEmpty (carries : Carries reader longer) :
    Carries (fun text => if text = [] then none else reader text)
      fun i text => if text = [] then none else longer i text where
  atEnd _ _ done := nomatch done
  inFront text value rest done := by
    by_cases empty : text = []
    · rw [if_pos empty] at done
      cases done
    · rw [if_neg empty] at done
      refine (carries.inFront text value rest done).congr (fun i _ => i) fun _ tail _ => if_neg ?_
      exact fun same => empty (List.append_eq_nil_iff.1 same).1

/-- The next character may decide, if a closing parenthesis decides as the end does. -/
theorem onHead {condition : Option Char → Bool} (alike : condition (some ')') = condition none)
    {other : List Char → Option (α × List Char)}
    {another : ι → List Char → Option (α × List Char)}
    (holds : Carries reader longer) (fails : Carries other another) :
    Carries (fun text => if condition text.head? then reader text else other text)
      fun i text => if condition text.head? then longer i text else another i text where
  atEnd value rest done := by
    rw [List.head?_nil] at done ⊢
    by_cases decided : condition none
    · rw [if_pos decided] at done
      obtain ⟨isEnd, readLonger⟩ := holds.atEnd value rest done
      exact ⟨isEnd, fun i => (if_pos decided).trans (readLonger i)⟩
    · rw [if_neg decided] at done
      obtain ⟨isEnd, readLonger⟩ := fails.atEnd value rest done
      exact ⟨isEnd, fun i => (if_neg decided).trans (readLonger i)⟩
  inFront text value rest done := by
    have same : ∀ tail, IsTail tail → condition (text ++ tail).head? = condition text.head? :=
      fun tail closes => closes.isClosing.head?_append alike text
    by_cases decided : condition text.head?
    · rw [if_pos decided] at done
      exact (holds.inFront text value rest done).congr (fun i _ => i) fun _ tail closes =>
        if_pos ((same tail closes).trans decided)
    · rw [if_neg decided] at done
      exact (fails.inFront text value rest done).congr (fun i _ => i) fun _ tail closes =>
        if_neg (ne_of_eq_of_ne (same tail closes) decided)

/-- A reader that needs some text, and does not look at what it leaves. -/
theorem of_isLocal (needs : reader [] = none) (isLocal : IsLocal reader) :
    Carries reader fun _ : ι => reader where
  atEnd _ _ done := nomatch needs.symm.trans done
  inFront text value rest done := by
    obtain ⟨used, rfl, same⟩ := isLocal text value rest done
    refine .inl fun _ tail _ => ?_
    change reader (used ++ rest ++ tail) = some (value, rest ++ tail)
    rw [List.append_assoc]
    exact same (rest ++ tail)

theorem orElse {first : List Char → Option (β × List Char)}
    {next : β → List Char → Option (α × List Char)}
    {later : ι → β → List Char → Option (α × List Char)}
    (same : ∀ text tail, IsClosing tail →
      first (text ++ tail) = (first text).map fun read => (read.1, read.2 ++ tail))
    (needs : first [] = none) (found : ∀ value, Carries (next value) fun i => later i value)
    (other : Carries reader longer) :
    Carries (Regex.orElse first next reader) fun i =>
      Regex.orElse first (later i) (longer i) where
  atEnd value rest done := by
    simp only [Regex.orElse, needs] at done ⊢
    exact other.atEnd value rest done
  inFront text value rest done := by
    unfold Regex.orElse at done ⊢
    cases read : first text with
    | none =>
        rw [read] at done
        refine (other.inFront text value rest done).congr (fun i _ => i) fun _ tail closes => ?_
        rw [same text tail closes.isClosing, read]
        rfl
    | some reading =>
        rw [read] at done
        refine ((found reading.1).inFront reading.2 value rest done).congr (fun i _ => i)
          fun _ tail closes => ?_
        rw [same text tail closes.isClosing, read]
        rfl

theorem of_succ {fuel : Nat} (longer : Nat → List Char → Option (α × List Char))
    (carries : Carries reader fun more : { more // fuel ≤ more } => longer (more + 1)) :
    Carries reader fun more : { more // fuel + 1 ≤ more } => longer more := by
  refine (carries.reindex fun more : { more // fuel + 1 ≤ more } =>
    ⟨more.1 - 1, Nat.le_sub_one_of_lt more.2⟩).congr (fun _ => rfl) fun more text => ?_
  change longer more text = longer (more - 1 + 1) text
  rw [Nat.sub_add_cancel (Nat.le_of_add_left_le more.2)]

/-- A reader with as much fuel as the text is long, if more fuel changes nothing. -/
theorem fuelled {reader : Nat → List Char → Option (α × List Char)}
    (carries : ∀ fuel, Carries (reader fuel) fun more : { more // fuel ≤ more } => reader more)
    (size : Nat → Nat) (grows : ∀ few many, few ≤ many → size few ≤ size many) :
    Carries (fun text => reader (size text.length) text)
      fun (_ : ι) text => reader (size text.length) text where
  atEnd value rest done :=
    ⟨((carries _).atEnd value rest done).1, fun _ =>
      ((carries _).atEnd value rest done).2 ⟨size 0, Nat.le_refl _⟩⟩
  inFront text value rest done := by
    have enough : ∀ tail : List Char, size text.length ≤ size (text ++ tail).length := by
      intro tail
      exact grows _ _ (by rw [List.length_append]; exact Nat.le_add_right _ _)
    exact ((carries _).inFront text value rest done).congr (fun _ tail => ⟨_, enough tail⟩)
      fun _ _ _ => rfl

end Carries

end Carries

/-! ## Blanks and comments -/

namespace Flags

theorem skipComments_line (line : List Char) (oneLine : '\n' ∉ line) :
    skipComments true line = [] := by
  induction line with
  | nil => rfl
  | cons character rest ih =>
      obtain ⟨here, later⟩ := List.ne_and_not_mem_of_not_mem_cons oneLine
      have stays : (character != '\n') = true := bne_iff_ne.2 (Ne.symm here)
      rw [skipComments, stays]
      exact ih later

theorem keepsTails_skipComments {ι α : Type} (value : α) (comment : Bool) (text : List Char) :
    KeepsTails value (skipComments comment text) fun (_ : ι) tail =>
      some (value, skipComments comment (text ++ tail)) := by
  induction text generalizing comment with
  | nil =>
      cases comment with
      | false =>
          refine .inl ?_
          rintro _ tail ⟨line, rfl, _⟩
          rfl
      | true =>
          refine .inr ⟨rfl, ?_⟩
          rintro _ tail ⟨line, rfl, oneLine⟩
          exact congrArg (fun rest => some (value, rest)) (skipComments_line line oneLine)
  | cons character rest ih =>
      cases comment with
      | true => exact ih (character != '\n')
      | false =>
          simp only [List.cons_append, skipComments]
          split
          · exact ih false
          · split
            · exact ih true
            · exact .inl fun _ tail _ => rfl

theorem skip_nil (flags : Flags) : flags.skip [] = [] := by
  unfold skip
  split <;> rfl

/-- Skipping reads nothing but blanks and comments. -/
theorem carries_skip {ι α : Type} (flags : Flags) (value : α) :
    Carries (fun text => some (value, flags.skip text))
      fun (_ : ι) text => some (value, flags.skip text) where
  atEnd _ _ := by
    rintro ⟨⟩
    exact ⟨flags.skip_nil, fun _ => congrArg (fun rest => some (value, rest)) flags.skip_nil⟩
  inFront text _ _ := by
    rintro ⟨⟩
    unfold skip
    split
    · exact keepsTails_skipComments value false text
    · exact .inl fun _ tail _ => rfl

end Flags

namespace Carries

variable {ι α : Type} {reader : List Char → Option (α × List Char)}
  {longer : ι → List Char → Option (α × List Char)}

theorem skipBefore (carries : Carries reader longer) (flags : Flags) :
    Carries (fun text => reader (flags.skip text)) fun i text => longer i (flags.skip text) :=
  (flags.carries_skip ()).bind fun _ => carries

theorem skipAfter (carries : Carries reader longer) (flags : Flags) :
    Carries (fun text => (reader text).bind fun read => some (read.1, flags.skip read.2))
      fun i text => (longer i text).bind fun read => some (read.1, flags.skip read.2) :=
  carries.bind fun value => flags.carries_skip value

end Carries

theorem carries_skim {σ : Type} (flags : Flags) {take? : σ → Char → Option σ}
    (stops : ∀ state, take? state ')' = none) (fuel : Nat) (state : σ) :
    Carries (skim flags take? fuel state) fun more : { more // fuel ≤ more } =>
      skim flags take? more state := by
  induction fuel generalizing state with
  | zero => exact .failing
  | succ fuel ih =>
      refine Carries.of_succ (skim flags take? · state) ?_
      refine Carries.onHead
        ?_
        (.unread (some state)) (.onCharacter fun character => ?_)
      · rw [Option.all_some, stops, Option.all_none, Option.isNone_none]
      · exact .given (take? state character) fun next => (ih next).skipBefore flags

end PolicyWatch.Regex
