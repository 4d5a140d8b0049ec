import PolicyWatch.Json.Reader
import PolicyWatch.Json.Writer

/-!
# JSON strings

Every character is written so that it is read back.  Main statement: a string that was written
in quotes is read up to its closing quote, whatever stands behind it.
-/

namespace PolicyWatch.Json

open PolicyWatch.Text

theorem digitValue?_hexDigit {value : Nat} (small : value < 16) :
    digitValue? 16 (hexDigit value) = some value := by
  have each : ∀ digit : Fin 16, digitValue? 16 (hexDigit digit) = some digit.val := by decide
  exact each ⟨value, small⟩

/-- The four digits of a character below 32 say its code. -/
theorem readUnit_control {code : Nat} (small : code < 32) (rest : List Char) :
    readUnit ('0' :: '0' :: hexDigit (code / 16) :: hexDigit (code % 16) :: rest) =
      some (code, rest) := by
  have zero : digitValue? 16 '0' = some 0 := rfl
  have high := digitValue?_hexDigit (show code / 16 < 16 by omega)
  have low := digitValue?_hexDigit (show code % 16 < 16 by omega)
  have code_eq : ((0 * 16 + 0) * 16 + 0) * 16 + code / 16 = code / 16 := by omega
  rw [readUnit, digitsValue?]
  simp only [List.foldl_cons, List.foldl_nil, zero, high, low, code_eq, Option.map_some]
  rw [Nat.mul_comm, Nat.div_add_mod]

theorem readPair_control {code : Nat} (small : code < 32) (rest : List Char) :
    readPair code rest = (some (Char.ofNat code), rest) := by
  unfold readPair
  rw [if_neg (by omega), if_neg (by omega)]

theorem readPieces_escape (fuel : Nat) (read : List Piece) (character : Char)
    (rest : List Char) :
    readPieces (fuel + 1) read (escape character ++ rest) =
      readPieces fuel (some character :: read) rest := by
  unfold escape
  split
  · rename_i quote
    rw [quote]
    rfl
  split
  · rename_i backslash
    rw [backslash]
    rfl
  split
  · rename_i lineFeed
    rw [lineFeed]
    rfl
  split
  · rename_i carriageReturn
    rw [carriageReturn]
    rfl
  split
  · rename_i tab
    rw [tab]
    rfl
  split
  · rename_i backspace
    rw [backspace]
    rfl
  split
  · rename_i formFeed
    rw [formFeed]
    rfl
  split
  · rename_i control
    have escaped : readEscape ('u' :: '0' :: '0' :: hexDigit (character.toNat / 16) ::
        hexDigit (character.toNat % 16) :: rest) = some (some character, rest) := by
      rw [readEscape, readUnit_control control, Option.map_some]
      dsimp only
      rw [readPair_control control, Char.ofNat_toNat]
    simp only [List.cons_append, List.nil_append]
    rw [readPieces, escaped]
  · rename_i notQuote notBackslash _ _ _ _ _ notControl
    rw [List.singleton_append, readPieces, if_neg notControl]
    · exact notQuote
    · exact notBackslash

theorem readPieces_flatMap_escape (text : List Char) {fuel : Nat} (enough : text.length < fuel)
    (read : List Piece) (rest : List Char) :
    readPieces fuel read (text.flatMap escape ++ '"' :: rest) =
      some ((text.map some).reverse ++ read, rest) := by
  induction text generalizing fuel read with
  | nil =>
      cases fuel with
      | zero => cases enough
      | succ fuel => rfl
  | cons first text ih =>
      cases fuel with
      | zero => cases enough
      | succ fuel =>
          rw [List.flatMap_cons, List.append_assoc, readPieces_escape,
            ih (Nat.lt_of_succ_lt_succ enough), List.map_cons, List.reverse_cons,
            List.append_assoc, List.singleton_append]

theorem joinPieces_map_some (joined text : List Char) :
    joinPieces joined (text.map some) = some (text.reverse ++ joined) := by
  induction text generalizing joined with
  | nil => rfl
  | cons first text ih =>
      rw [List.map_cons, joinPieces, ih, List.reverse_cons, List.append_assoc,
        List.singleton_append]

theorem escape_ne_nil (character : Char) : escape character ≠ [] := by
  unfold escape
  repeat' split
  all_goals exact List.cons_ne_nil _ _

theorem length_le_flatMap_escape (text : List Char) :
    text.length ≤ (text.flatMap escape).length := by
  induction text with
  | nil => exact Nat.le_refl _
  | cons first text ih =>
      have written := List.length_pos_iff.2 (escape_ne_nil first)
      rw [List.flatMap_cons, List.length_append, List.length_cons]
      omega

/-- The characters of a string in quotes, behind the opening one. -/
theorem toList_writeText (text : String) :
    (writeText text).toList = '"' :: (text.toList.flatMap escape ++ ['"']) := by
  simp only [writeText, String.toList_append, String.toList_ofList]
  rfl

theorem readText_escaped (text : String) (rest : List Char) :
    readText (text.toList.flatMap escape ++ '"' :: rest) = some (some text, rest) := by
  have enough : text.toList.length <
      (text.toList.flatMap escape ++ '"' :: rest).length + 1 := by
    have written := length_le_flatMap_escape text.toList
    rw [List.length_append]
    omega
  rw [readText, readPieces_flatMap_escape _ enough, Option.map_some]
  dsimp only
  rw [List.append_nil, ← List.map_reverse, joinPieces_map_some, List.reverse_reverse,
    List.append_nil, Option.map_some, String.ofList_toList]

end PolicyWatch.Json
