import PolicyWatch.Proofs.Glob.Expression

/-!
# Patterns of absolute paths

A pattern is read token by token, and a recursive star may take a token that was read before
it back.  Main statement: a pattern that starts with a slash keeps a first token that covers
a slash, whatever branches and recursive stars follow, so that only absolute paths fit it.
-/

namespace PolicyWatch.Glob

variable {before text after : List Char} {fuel : Nat} {reading grown : Reading}
  {tokens : List Token} {token : Token}

/-! ## Tokens that cover a slash first -/

/-- Whether a token covers a slash before all else. -/
def Token.IsRooted : Token → Prop
  | .literal character => character = '/'
  | .deepBack => True
  | .deepBetween => True
  | _ => False

/-- A recursive star takes the slash before it along. -/
theorem Token.IsRooted.deepen (rooted : token.IsRooted) (atEnd : Bool) :
    (Glob.deepen atEnd token).IsRooted := by
  cases token with
  | deepBack => trivial
  | literal character => cases atEnd <;> trivial
  | deepBetween => cases atEnd <;> trivial
  | _ => exact rooted.elim

theorem Token.IsRooted.exists_cons (rooted : token.IsRooted)
    (covered : token.toRegex.Matches before text after) : ∃ rest, text = '/' :: rest := by
  have slashFirst : ∀ {second : Regex} {after : List Char},
      (Regex.seq slash second).Matches before text after → ∃ rest, text = '/' :: rest := by
    intro second after covered
    obtain ⟨left, right, rfl, isSlash, _⟩ := Regex.matches_seq_iff.1 covered
    obtain rfl := matches_slash_iff.1 isSlash
    exact ⟨right, rfl⟩
  cases token with
  | literal character =>
      obtain rfl : character = '/' := rooted
      exact ⟨[], matches_literal_iff.1 covered⟩
  | deepBack =>
      rw [Token.toRegex] at covered
      exact slashFirst covered
  | deepBetween =>
      rw [Token.toRegex] at covered
      rcases Regex.matches_either_iff.1 covered with isSlash | within
      · exact ⟨[], matches_slash_iff.1 isSlash⟩
      · exact slashFirst within
  | _ => exact rooted.elim

/-! ## What one step of reading does -/

/-- What a reading may grow to while one character, or two stars, are taken. -/
inductive Reading.Grows (reading : Reading) : Reading → Prop where
  | add (token : Token) : Grows reading (reading.add token)
  | twoStars : Grows reading ((reading.add .star).add .star)
  | deepen (atEnd : Bool) : Grows reading (reading.replaceLast (Glob.deepen atEnd))
  | openGroup : Grows reading reading.openGroup
  | endBranch (inside : reading.isOutermost = false) : Grows reading reading.endBranch
  | closeGroup {closed : Reading} (isClosed : reading.closeGroup? = some closed) :
      Grows reading closed

theorem grows_readTwoStars (reading : Reading) (previous : Option Char) (rest : List Char) :
    reading.Grows (readTwoStars reading previous rest).1 := by
  unfold readTwoStars
  dsimp only
  split
  · split
    · exact .add .deepFront
    · exact .add .deepFront
    · exact .twoStars
  · split
    · split
      · exact .deepen true
      · exact .deepen false
      · split
        · exact .deepen true
        · exact .twoStars
    · exact .twoStars

theorem exists_grows_of_readTokens {previous : Option Char} {character : Char} {rest : List Char}
    (read : readTokens (fuel + 1) reading previous (character :: rest) = .ok tokens) :
    ∃ grown last remaining, reading.Grows grown ∧
      readTokens fuel grown last remaining = .ok tokens := by
  unfold readTokens at read
  split at read
  · exact ⟨_, _, _, .add .anyByte, read⟩
  · split at read
    · exact ⟨_, _, _, grows_readTwoStars reading previous _, read⟩
    · exact ⟨_, _, _, .add .star, read⟩
  · split at read
    split at read
    · exact ⟨_, _, _, .add _, read⟩
    · cases read
  · exact ⟨_, _, _, .openGroup, read⟩
  · split at read
    · rename_i closed isClosed
      exact ⟨_, _, _, .closeGroup isClosed, read⟩
    · cases read
  · dsimp only at read
    split at read
    · exact ⟨_, _, _, .add _, read⟩
    · rename_i inside
      exact ⟨_, _, _, .endBranch (Bool.not_eq_true _ ▸ inside), read⟩
  · split at read
    · exact ⟨_, _, _, .add _, read⟩
    · cases read
  · exact ⟨_, _, _, .add _, read⟩

/-! ## The first token -/

def Reading.outermost (reading : Reading) : Group :=
  reading.outer.getLastD reading.inner

/-- Whether the first token read covers a slash before all else. -/
def Reading.IsRooted (reading : Reading) : Prop :=
  ∃ later first, reading.outermost.current = later ++ [first] ∧ first.IsRooted

theorem Reading.outermost_of_cons {inner around : Group} {outer : List Group} :
    Reading.outermost ⟨inner, around :: outer⟩ = outer.getLastD around :=
  List.getLastD_cons

theorem Reading.IsRooted.add (rooted : reading.IsRooted) (token : Token) :
    (reading.add token).IsRooted := by
  obtain ⟨inner, outer⟩ := reading
  obtain ⟨later, first, isCurrent, isRooted⟩ := rooted
  cases outer with
  | nil => exact ⟨token :: later, first, congrArg (token :: ·) isCurrent, isRooted⟩
  | cons around outer => exact ⟨later, first, isCurrent, isRooted⟩

/-- The first token may be the one that a recursive star takes back. -/
theorem Reading.IsRooted.deepen (rooted : reading.IsRooted) (atEnd : Bool) :
    (reading.replaceLast (Glob.deepen atEnd)).IsRooted := by
  obtain ⟨⟨finished, current⟩, outer⟩ := reading
  obtain ⟨later, first, isCurrent, isRooted⟩ := rooted
  cases current with
  | nil => exact ⟨later, first, isCurrent, isRooted⟩
  | cons last earlier =>
      cases outer with
      | cons around outer => exact ⟨later, first, isCurrent, isRooted⟩
      | nil =>
          cases later with
          | nil =>
              obtain ⟨rfl, rfl⟩ := List.cons.inj isCurrent
              exact ⟨[], Glob.deepen atEnd last, rfl, isRooted.deepen atEnd⟩
          | cons last' later =>
              obtain ⟨_, isEarlier⟩ := List.cons.inj isCurrent
              exact ⟨Glob.deepen atEnd last :: later, first,
                congrArg (Glob.deepen atEnd last :: ·) isEarlier, isRooted⟩

/-- The branches of a group make up one token behind the first one. -/
theorem Reading.IsRooted.closeGroup {closed : Reading} (rooted : reading.IsRooted)
    (isClosed : reading.closeGroup? = some closed) : closed.IsRooted := by
  obtain ⟨inner, outer⟩ := reading
  obtain ⟨later, first, isCurrent, isRooted⟩ := rooted
  cases outer with
  | nil => cases isClosed
  | cons around outer =>
      cases isClosed
      rw [Reading.outermost_of_cons] at isCurrent
      cases outer with
      | nil => exact ⟨_ :: later, first, congrArg (_ :: ·) isCurrent, isRooted⟩
      | cons other outer => exact ⟨later, first, isCurrent, isRooted⟩

theorem Reading.Grows.isRooted (grows : reading.Grows grown) (rooted : reading.IsRooted) :
    grown.IsRooted := by
  cases grows with
  | add token => exact rooted.add token
  | twoStars => exact (rooted.add .star).add .star
  | deepen atEnd => exact rooted.deepen atEnd
  | closeGroup isClosed => exact rooted.closeGroup isClosed
  | openGroup =>
      obtain ⟨later, first, isCurrent, isRooted⟩ := rooted
      exact ⟨later, first, outermost_of_cons ▸ isCurrent, isRooted⟩
  | endBranch inside =>
      obtain ⟨inner, outer⟩ := reading
      cases outer with
      | nil => cases inside
      | cons around outer => exact rooted

/-- What is read keeps the first token, or one that a recursive star made of it. -/
theorem exists_rooted_of_readTokens (rooted : reading.IsRooted) {previous : Option Char}
    {pattern : List Char} (read : readTokens fuel reading previous pattern = .ok tokens) :
    ∃ first rest, tokens = first :: rest ∧ first.IsRooted := by
  induction fuel generalizing reading previous pattern with
  | zero => cases read
  | succ fuel ih =>
      cases pattern with
      | nil =>
          rw [readTokens] at read
          split at read
          · rename_i isOutermost
            obtain ⟨later, first, isCurrent, isRooted⟩ := rooted
            have noOuter : reading.outer = [] := List.isEmpty_iff.1 isOutermost
            unfold Reading.outermost at isCurrent
            rw [noOuter] at isCurrent
            cases read
            refine ⟨first, later.reverse, ?_, isRooted⟩
            rw [show reading.inner.current = later ++ [first] from isCurrent]
            exact List.reverse_concat
          · cases read
      | cons character rest =>
          obtain ⟨grown, last, remaining, grows, readOn⟩ := exists_grows_of_readTokens read
          exact ih (grows.isRooted rooted) readOn

theorem Fits.exists_cons_slash {pattern path : List Char} (fits : Fits ('/' :: pattern) path) :
    ∃ rest, path = '/' :: rest := by
  obtain ⟨tokens, read, covered⟩ := fits_iff.1 fits
  have rooted : (Reading.start.add (.literal '/')).IsRooted := ⟨[], .literal '/', rfl, rfl⟩
  obtain ⟨first, rest, rfl, isRooted⟩ := exists_rooted_of_readTokens rooted read
  obtain ⟨left, right, spreads, coveredFirst, _⟩ := matches_row_cons_iff.1 covered
  obtain ⟨middle, rfl⟩ := isRooted.exists_cons coveredFirst
  exact Text.exists_cons_slash_of_spread spreads

end PolicyWatch.Glob
