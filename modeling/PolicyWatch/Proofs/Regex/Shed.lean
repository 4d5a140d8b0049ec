import PolicyWatch.Proofs.Regex.Reader

/-!
# Reading without a tail

A reader that leaves a closing parenthesis, and all behind it, reads the same where
nothing is left behind.  Main statements: readers made from readers with this property
have it, and dropping blanks and comments has it.
-/

namespace PolicyWatch.Regex

variable {α β : Type}

/-- Whether what one reader reads of a text in front of a tail, which it leaves, is read
by another of the text alone, for texts shorter than a size. -/
structure Sheds (size : Nat) (reader shorter : List Char → Option (α × List Char)) : Prop where
  /-- A reader leaves an end of the text. -/
  leaves : ∀ text value rest, reader text = some (value, rest) → rest <:+ text
  sheds : ∀ text tail value rest, text.length < size → IsClosing tail →
    reader (text ++ tail) = some (value, rest ++ tail) → shorter text = some (value, rest)

namespace Sheds

variable {size : Nat} {reader shorter : List Char → Option (α × List Char)}

theorem congr {other another : List Char → Option (α × List Char)}
    (sheds : Sheds size reader shorter) (same : ∀ text, other text = reader text)
    (sameShorter : ∀ text, another text = shorter text) : Sheds size other another := by
  rw [funext same, funext sameShorter]
  exact sheds

theorem weaken {another : List Char → Option (α × List Char)} (sheds : Sheds size reader shorter)
    (reads : ∀ text value rest, shorter text = some (value, rest) →
      another text = some (value, rest)) : Sheds size reader another where
  leaves := sheds.leaves
  sheds text tail value rest short closes done :=
    reads text value rest (sheds.sheds text tail value rest short closes done)

theorem mono {fewer : Nat} (sheds : Sheds size reader shorter) (le : fewer ≤ size) :
    Sheds fewer reader shorter where
  leaves := sheds.leaves
  sheds text tail value rest short closes done :=
    sheds.sheds text tail value rest (Nat.lt_of_lt_of_le short le) closes done

/-- Without fuel a size of nothing is enough, and no text is shorter than nothing. -/
theorem of_succ (sizes : Nat → Nat) (none : sizes 0 = 0)
    (shorter : Nat → List Char → Option (α × List Char))
    (sheds : ∀ fuel, Sheds (sizes (fuel + 1)) reader (shorter (fuel + 1))) (fuel : Nat) :
    Sheds (sizes fuel) reader (shorter fuel) := by
  cases fuel with
  | zero =>
      rw [none]
      exact ⟨(sheds 0).leaves, fun _ _ _ _ short => absurd short (Nat.not_lt_zero _)⟩
  | succ fuel => exact sheds fuel

/-- A rest behind a closing parenthesis is shorter than the text from there on. -/
theorem not_left {rest line : List Char} : ¬ rest ++ ')' :: line <:+ line := by
  intro ends
  have longer := ends.length_le
  rw [List.length_append, List.length_cons] at longer
  omega

theorem exists_middle {text tail middle rest : List Char} (ends : middle <:+ text ++ tail)
    (leaves : rest ++ tail <:+ middle) :
    ∃ inner, middle = inner ++ tail ∧ inner <:+ text := by
  obtain ⟨used, same⟩ := ends
  obtain ⟨between, rfl⟩ := leaves
  refine ⟨between ++ rest, (List.append_assoc ..).symm, used, ?_⟩
  rw [← List.append_assoc, ← List.append_assoc] at same
  rw [← List.append_cancel_right same, List.append_assoc]

theorem failing : Sheds size (fun _ => none) shorter where
  leaves _ _ _ done := nomatch done
  sheds _ _ _ _ _ _ done := nomatch done

theorem unread (value? : Option α) :
    Sheds size (fun text => value?.map (·, text)) fun text => value?.map (·, text) where
  leaves text value rest done := by
    obtain ⟨same, rfl, isResult⟩ := Option.map_eq_some_iff.1 done
    cases isResult
    exact List.suffix_rfl
  sheds text tail value rest _ _ done := by
    obtain ⟨same, rfl, isResult⟩ := Option.map_eq_some_iff.1 done
    obtain ⟨rfl, isLeft⟩ := Prod.mk.inj isResult
    rw [List.append_cancel_right isLeft]
    rfl

theorem onCharacter {each later : Char → List Char → Option (α × List Char)}
    (sheds : ∀ character, Sheds (size - 1) (each character) (later character)) :
    Sheds size (Regex.onCharacter each) (Regex.onCharacter later) where
  leaves text value rest done := by
    cases text with
    | nil => cases done
    | cons character text =>
        exact ((sheds character).leaves text value rest done).trans (List.suffix_cons _ _)
  sheds text tail value rest short closes done := by
    cases text with
    | nil =>
        obtain ⟨line, rfl⟩ := closes
        exact absurd ((sheds ')').leaves line value _ done) not_left
    | cons character text =>
        exact (sheds character).sheds text tail value rest (Nat.lt_sub_of_add_lt short) closes done

theorem ite {condition : Prop} [Decidable condition]
    {other another : List Char → Option (α × List Char)}
    (holds : condition → Sheds size reader shorter)
    (fails : ¬ condition → Sheds size other another) :
    Sheds size (fun text => if condition then reader text else other text)
      fun text => if condition then shorter text else another text := by
  by_cases given : condition
  · simp only [given, if_true]
    exact holds given
  · simp only [given, if_false]
    exact fails given

theorem onMarkBack {mark : Char} (notClosing : mark ≠ ')')
    {behind behindShorter : List Char → Option (α × List Char)}
    (leaves : ∀ text value rest, behind text = some (value, rest) → rest <:+ mark :: text)
    (sheds : ∀ text tail value rest, text.length < size - 1 → IsClosing tail →
      behind (text ++ tail) = some (value, rest ++ tail) → behindShorter text = some (value, rest))
    (other : Sheds size reader shorter) :
    Sheds size (Regex.onMark mark behind reader) (Regex.onMark mark behindShorter shorter) where
  leaves text value rest done := by
    by_cases stands : ∃ inside, text = mark :: inside
    · obtain ⟨inside, rfl⟩ := stands
      rw [onMark_cons rfl] at done
      exact leaves inside value rest done
    · rw [onMark_of_ne fun inside same => stands ⟨inside, same⟩] at done
      exact other.leaves text value rest done
  sheds text tail value rest short closes done := by
    by_cases stands : ∃ inside, text = mark :: inside
    · obtain ⟨inside, rfl⟩ := stands
      rw [List.cons_append, onMark_cons rfl] at done
      rw [onMark_cons rfl]
      exact sheds inside tail value rest (Nat.lt_sub_of_add_lt short) closes done
    · have absent : ∀ inside, text ≠ mark :: inside := fun inside same => stands ⟨inside, same⟩
      rw [onMark_of_ne (closes.ne_mark notClosing absent)] at done
      rw [onMark_of_ne absent]
      exact other.sheds text tail value rest short closes done

theorem onMark {mark : Char} (notClosing : mark ≠ ')')
    {behind behindShorter : List Char → Option (α × List Char)}
    (stands : Sheds (size - 1) behind behindShorter) (other : Sheds size reader shorter) :
    Sheds size (Regex.onMark mark behind reader) (Regex.onMark mark behindShorter shorter) :=
  .onMarkBack notClosing
    (fun text value rest done =>
      (stands.leaves text value rest done).trans (List.suffix_cons _ _))
    stands.sheds other

theorem onPair {first second : Char} (firstOpen : first ≠ ')') (secondOpen : second ≠ ')')
    {behind behindShorter : List Char → Option (α × List Char)}
    (stands : Sheds (size - 1) behind behindShorter) (other : Sheds size reader shorter) :
    Sheds size (Regex.onPair first second behind reader)
      (Regex.onPair first second behindShorter shorter) where
  leaves text value rest done := by
    by_cases isPair : ∃ inside, text = first :: second :: inside
    · obtain ⟨inside, rfl⟩ := isPair
      rw [onPair_cons] at done
      exact (stands.leaves inside value rest done).trans ⟨[first, second], rfl⟩
    · rw [onPair_of_ne fun inside same => isPair ⟨inside, same⟩] at done
      exact other.leaves text value rest done
  sheds text tail value rest short closes done := by
    by_cases isPair : ∃ inside, text = first :: second :: inside
    · obtain ⟨inside, rfl⟩ := isPair
      rw [List.cons_append, List.cons_append, onPair_cons] at done
      rw [onPair_cons]
      refine stands.sheds inside tail value rest ?_ closes done
      rw [List.length_cons, List.length_cons] at short
      omega
    · have absent : ∀ inside, text ≠ first :: second :: inside := fun inside same =>
        isPair ⟨inside, same⟩
      rw [onPair_of_ne (closes.ne_pair firstOpen secondOpen absent)] at done
      rw [onPair_of_ne absent]
      exact other.sheds text tail value rest short closes done

theorem onHead {condition : Option Char → Bool} (alike : condition (some ')') = condition none)
    {other another : List Char → Option (α × List Char)}
    (holds : Sheds size reader shorter) (fails : Sheds size other another) :
    Sheds size (fun text => if condition text.head? then reader text else other text)
      fun text => if condition text.head? then shorter text else another text where
  leaves text value rest done := by
    split at done
    · exact holds.leaves text value rest done
    · exact fails.leaves text value rest done
  sheds text tail value rest short closes done := by
    simp only [closes.head?_append alike] at done
    by_cases decided : condition text.head?
    · rw [if_pos decided] at done
      exact (if_pos decided).trans (holds.sheds text tail value rest short closes done)
    · rw [if_neg decided] at done
      exact (if_neg decided).trans (fails.sheds text tail value rest short closes done)

/-- One reader after another, the second for texts as long as the first leaves. -/
theorem bindWithin {fewer : Nat} {next later : α → List Char → Option (β × List Char)}
    (first : Sheds size reader shorter)
    (within : ∀ text tail value rest, text.length < size →
      reader (text ++ tail) = some (value, rest ++ tail) → rest.length < fewer)
    (second : ∀ value, Sheds fewer (next value) (later value)) :
    Sheds size (fun text => (reader text).bind fun read => next read.1 read.2)
      fun text => (shorter text).bind fun read => later read.1 read.2 where
  leaves text value rest done := by
    obtain ⟨read, isRead, done⟩ := Option.bind_eq_some_iff.1 done
    exact ((second read.1).leaves read.2 value rest done).trans
      (first.leaves text read.1 read.2 isRead)
  sheds text tail value rest short closes done := by
    obtain ⟨⟨middle, between⟩, isRead, done⟩ := Option.bind_eq_some_iff.1 done
    obtain ⟨inner, rfl, _⟩ := exists_middle (first.leaves _ middle between isRead)
      ((second middle).leaves between value _ done)
    refine Option.bind_eq_some_iff.2 ⟨(middle, inner), ?_, ?_⟩
    · exact first.sheds text tail middle inner short closes isRead
    · exact (second middle).sheds inner tail value rest (within text tail middle inner short isRead)
        closes done

theorem bind {next later : α → List Char → Option (β × List Char)}
    (first : Sheds size reader shorter) (second : ∀ value, Sheds size (next value) (later value)) :
    Sheds size (fun text => (reader text).bind fun read => next read.1 read.2)
      fun text => (shorter text).bind fun read => later read.1 read.2 := by
  refine first.bindWithin (fun text tail value rest short done => ?_) second
  have fewer := (first.leaves _ value _ done).length_le
  rw [List.length_append, List.length_append] at fewer
  omega

theorem bindBehind {next later : α → List Char → Option (β × List Char)}
    (first : Sheds size reader shorter)
    (consumes : ∀ text value rest, reader text = some (value, rest) → rest.length < text.length)
    (second : ∀ value, Sheds (size - 1) (next value) (later value)) :
    Sheds size (fun text => (reader text).bind fun read => next read.1 read.2)
      fun text => (shorter text).bind fun read => later read.1 read.2 := by
  refine first.bindWithin (fun text tail value rest short done => ?_) second
  have fewer := consumes _ value _ done
  rw [List.length_append, List.length_append] at fewer
  omega

theorem filterMap (sheds : Sheds size reader shorter) (change : α → Option β) :
    Sheds size (fun text => (reader text).bind fun read => (change read.1).map (·, read.2))
      fun text => (shorter text).bind fun read => (change read.1).map (·, read.2) :=
  sheds.bind fun value => unread (change value)

theorem map (sheds : Sheds size reader shorter) (change : α → β) :
    Sheds size (fun text => (reader text).map fun read => (change read.1, read.2))
      fun text => (shorter text).map fun read => (change read.1, read.2) := by
  refine (sheds.filterMap fun value => some (change value)).congr ?_ ?_
  · intro text
    cases reader text <;> rfl
  · intro text
    cases shorter text <;> rfl

theorem given (value? : Option β) {next later : β → List Char → Option (α × List Char)}
    (each : ∀ value, Sheds size (next value) (later value)) :
    Sheds size (fun text => value?.bind (next · text)) fun text => value?.bind (later · text) := by
  cases value? with
  | none => exact failing
  | some value => exact each value

/-- In front of a tail it does not matter whether a reader fails where no text is left. -/
theorem unlessEmpty (sheds : Sheds size reader shorter) :
    Sheds size (fun text => if text = [] then none else reader text) shorter where
  leaves text value rest done := by
    split at done
    · cases done
    · exact sheds.leaves text value rest done
  sheds text tail value rest short closes done := by
    have nonempty : text ++ tail ≠ [] := by
      obtain ⟨line, rfl⟩ := closes
      exact List.append_ne_nil_of_right_ne_nil _ (List.cons_ne_nil _ _)
    rw [if_neg nonempty] at done
    exact sheds.sheds text tail value rest short closes done

theorem orElse {first : List Char → Option (β × List Char)}
    {next later : β → List Char → Option (α × List Char)}
    (same : ∀ text tail, IsClosing tail →
      first (text ++ tail) = (first text).map fun read => (read.1, read.2 ++ tail))
    (leaves : ∀ text value rest, first text = some (value, rest) → rest <:+ text)
    (found : ∀ value, Sheds size (next value) (later value)) (other : Sheds size reader shorter) :
    Sheds size (Regex.orElse first next reader) (Regex.orElse first later shorter) where
  leaves text value rest done := by
    unfold Regex.orElse at done
    split at done
    · rename_i read isRead
      exact ((found read.1).leaves read.2 value rest done).trans
        (leaves text read.1 read.2 isRead)
    · exact other.leaves text value rest done
  sheds text tail value rest short closes done := by
    unfold Regex.orElse at done ⊢
    rw [same text tail closes] at done
    cases read : first text with
    | none =>
        rw [read] at done
        exact other.sheds text tail value rest short closes done
    | some reading =>
        rw [read] at done
        have fewer := (leaves text reading.1 reading.2 read).length_le
        exact (found reading.1).sheds reading.2 tail value rest (Nat.lt_of_le_of_lt fewer short)
          closes done

theorem of_isLocal (isLocal : IsLocal reader) : Sheds size reader reader where
  leaves text value rest done := by
    obtain ⟨used, rfl, _⟩ := isLocal text value rest done
    exact List.suffix_append used rest
  sheds text tail value rest _ _ done := by
    obtain ⟨used, same, again⟩ := isLocal _ value _ done
    rw [← List.append_assoc] at same
    rw [List.append_cancel_right same]
    exact again rest

theorem fuelled {reader shorter : Nat → List Char → Option (α × List Char)}
    (sheds : ∀ more fuel, Sheds fuel (reader more) (shorter fuel)) :
    Sheds size (fun text => reader (text.length + 1) text)
      fun text => shorter (text.length + 1) text where
  leaves text := (sheds (text.length + 1) 0).leaves text
  sheds text tail value rest _ closes done :=
    (sheds _ (text.length + 1)).sheds text tail value rest (Nat.lt_succ_self _) closes done

end Sheds

/-! ## Blanks and comments -/

namespace Flags

theorem skipComments_suffix (comment : Bool) (text : List Char) :
    skipComments comment text <:+ text := by
  induction text generalizing comment with
  | nil => cases comment <;> exact List.suffix_rfl
  | cons character rest ih =>
      cases comment with
      | true => exact (ih _).trans (List.suffix_cons _ _)
      | false =>
          simp only [skipComments]
          split
          · exact (ih false).trans (List.suffix_cons _ _)
          · split
            · exact (ih true).trans (List.suffix_cons _ _)
            · exact List.suffix_rfl

theorem skip_suffix (flags : Flags) (text : List Char) : flags.skip text <:+ text := by
  unfold skip
  split
  · exact skipComments_suffix false text
  · exact List.suffix_rfl

theorem skipComments_shed {comment : Bool} {text tail rest : List Char} (closes : IsClosing tail)
    (skipped : skipComments comment (text ++ tail) = rest ++ tail) :
    skipComments comment text = rest := by
  induction text generalizing comment with
  | nil =>
      obtain ⟨line, rfl⟩ := closes
      cases comment with
      | false => exact List.append_cancel_right (show [] ++ ')' :: line = _ from skipped)
      | true =>
          exact absurd (skipped ▸ skipComments_suffix true line) Sheds.not_left
  | cons character text ih =>
      cases comment with
      | true => exact ih skipped
      | false =>
          simp only [List.cons_append, skipComments] at skipped ⊢
          by_cases isBlank : Text.isBlank character
          · rw [if_pos isBlank] at skipped ⊢
            exact ih skipped
          · rw [if_neg isBlank] at skipped ⊢
            by_cases isMark : character = '#'
            · rw [if_pos isMark] at skipped ⊢
              exact ih skipped
            · rw [if_neg isMark] at skipped ⊢
              exact List.append_cancel_right skipped

/-- A tail that skipping leaves is left behind what skipping leaves without it. -/
theorem skip_shed {flags : Flags} {text tail rest : List Char} (closes : IsClosing tail)
    (skipped : flags.skip (text ++ tail) = rest ++ tail) : flags.skip text = rest := by
  unfold skip at skipped ⊢
  split at skipped
  · rename_i isVerbose
    rw [if_pos isVerbose]
    exact skipComments_shed closes skipped
  · rename_i notVerbose
    rw [if_neg notVerbose]
    exact List.append_cancel_right skipped

theorem sheds_skip {size : Nat} {α : Type} (flags : Flags) (value : α) :
    Sheds size (fun text => some (value, flags.skip text))
      fun text => some (value, flags.skip text) where
  leaves text _ _ := by
    rintro ⟨⟩
    exact flags.skip_suffix text
  sheds text tail _ rest _ closes done := by
    obtain ⟨rfl, skipped⟩ := Prod.mk.inj (Option.some.inj done)
    rw [skip_shed closes skipped]

end Flags

namespace Sheds

variable {size : Nat} {reader shorter : List Char → Option (α × List Char)}

theorem skipBefore (sheds : Sheds size reader shorter) (flags : Flags) :
    Sheds size (fun text => reader (flags.skip text)) fun text => shorter (flags.skip text) :=
  (flags.sheds_skip ()).bind fun _ => sheds

theorem skipAfter (sheds : Sheds size reader shorter) (flags : Flags) :
    Sheds size (fun text => (reader text).bind fun read => some (read.1, flags.skip read.2))
      fun text => (shorter text).bind fun read => some (read.1, flags.skip read.2) :=
  sheds.bind fun value => flags.sheds_skip value

end Sheds

theorem sheds_skim {σ : Type} (flags : Flags) {take? : σ → Char → Option σ}
    (stops : ∀ state, take? state ')' = none) (more fuel : Nat) (state : σ) :
    Sheds fuel (skim flags take? more state) (skim flags take? fuel state) := by
  induction more generalizing fuel state with
  | zero => exact .failing
  | succ more ih =>
      refine Sheds.of_succ id rfl (skim flags take? · state) (fun fuel => ?_) fuel
      refine .onHead ?_ (.unread (some state)) (.onCharacter fun character => ?_)
      · rw [Option.all_some, stops, Option.all_none, Option.isNone_none]
      · exact .given (take? state character) fun next => (ih fuel next).skipBefore flags

end PolicyWatch.Regex
