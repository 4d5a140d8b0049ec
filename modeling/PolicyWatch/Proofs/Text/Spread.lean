import PolicyWatch.Proofs.Text.Bytes

/-!
# Texts spread into bytes

A text is spread by writing each of its characters as bytes.  Main statements: no byte of
another character is a slash, so that a text has its slashes, and its parts between them,
where it has them when spread.
-/

namespace PolicyWatch.Text

theorem toNat_lt (character : Char) : character.toNat < 0x110000 := by
  rcases character.valid with small | ⟨_, below⟩
  · exact Nat.lt_trans small (by decide)
  · exact below

theorem toNat_ofNat_of_byte {byte : Nat} (small : byte < 0x100) :
    (Char.ofNat byte).toNat = byte := by
  have valid : byte.isValidChar := .inl (by omega)
  unfold Char.ofNat
  rw [dif_pos valid]
  rfl

theorem ofNat_eq_iff_of_byte {byte : Nat} (small : byte < 0x100) {character : Char} :
    Char.ofNat byte = character ↔ character.toNat = byte := by
  constructor
  · rintro rfl
    exact toNat_ofNat_of_byte small
  · rintro rfl
    exact Char.ofNat_toNat character

theorem bytesOf_of_basic {character : Char} (basic : character.toNat < 0x80) :
    bytesOf character = [character.toNat] := by
  unfold bytesOf bytesOfCode
  rw [if_pos basic]

theorem le_of_mem_bytesOf {character : Char} (notBasic : ¬ character.toNat < 0x80) :
    ∀ byte ∈ bytesOf character, 0x80 ≤ byte := by
  unfold bytesOf bytesOfCode
  rw [if_neg notBasic]
  split_ifs <;> simp only [List.forall_mem_cons, List.not_mem_nil, false_implies, implies_true,
    and_true] <;> omega

theorem lt_of_mem_bytesOf {character : Char} : ∀ byte ∈ bytesOf character, byte < 0x100 := by
  have valid := toNat_lt character
  unfold bytesOf bytesOfCode
  split_ifs <;> simp only [List.forall_mem_cons, List.not_mem_nil, false_implies, implies_true,
    and_true] <;> omega

def spreadOf (character : Char) : List Char :=
  (bytesOf character).map Char.ofNat

theorem spread_cons (character : Char) (rest : List Char) :
    spread (character :: rest) = spreadOf character ++ spread rest :=
  List.flatMap_cons

theorem spreadOf_ne_nil (character : Char) : spreadOf character ≠ [] :=
  fun empty => bytesOf_ne_nil character (List.map_eq_nil_iff.1 empty)

theorem spreadOf_of_basic {character : Char} (basic : character.toNat < 0x80) :
    spreadOf character = [character] := by
  unfold spreadOf
  rw [bytesOf_of_basic basic, List.map_singleton, Char.ofNat_toNat]

/-- A character of the basic alphabet is found only where it was before. -/
theorem mem_spreadOf_of_basic {character sought : Char} (basic : sought.toNat < 0x80) :
    sought ∈ spreadOf character ↔ character = sought := by
  constructor
  · intro member
    obtain ⟨byte, isByte, same⟩ := List.mem_map.1 member
    have isCode := (ofNat_eq_iff_of_byte (lt_of_mem_bytesOf byte isByte)).1 same
    by_cases characterBasic : character.toNat < 0x80
    · rw [bytesOf_of_basic characterBasic, List.mem_singleton] at isByte
      rw [← same, isByte, Char.ofNat_toNat]
    · have above := le_of_mem_bytesOf characterBasic byte isByte
      omega
  · rintro rfl
    rw [spreadOf_of_basic basic]
    exact List.mem_singleton_self character

theorem slash_mem_spreadOf {character : Char} : '/' ∈ spreadOf character ↔ character = '/' :=
  mem_spreadOf_of_basic (by decide)

theorem spreadOf_slash : spreadOf '/' = ['/'] := rfl

theorem exists_cons_slash_of_spread {text rest : List Char} (spreads : spread text = '/' :: rest) :
    ∃ tail, text = '/' :: tail := by
  cases text with
  | nil => cases spreads
  | cons first tail =>
      refine ⟨tail, congrArg (· :: tail) ?_⟩
      rw [spread_cons] at spreads
      obtain ⟨byte, bytes, written⟩ := List.exists_cons_of_ne_nil (spreadOf_ne_nil first)
      rw [written, List.cons_append] at spreads
      have isSlash : byte = '/' := (List.cons.inj spreads).1
      refine slash_mem_spreadOf.1 ?_
      rw [written, isSlash]
      exact List.mem_cons_self

/-! ## Parts between slashes -/

def parts (text : List Char) : List (List Char) :=
  text.splitOn '/'

theorem parts_nil : parts [] = [[]] := List.splitOn_nil '/'

theorem parts_slash (rest : List Char) : parts ('/' :: rest) = [] :: parts rest := by
  unfold parts
  rw [List.splitOn_cons_eq_if_modifyHead, if_pos (beq_self_eq_true '/')]

theorem exists_parts (text : List Char) : ∃ first others, parts text = first :: others :=
  List.exists_cons_of_ne_nil (List.splitOn_ne_nil '/' text)

theorem parts_cons {character : Char} {rest first : List Char} {others : List (List Char)}
    (apart : character ≠ '/') (split : parts rest = first :: others) :
    parts (character :: rest) = (character :: first) :: others := by
  have other : ¬ (character == '/') = true := fun same => apart (beq_iff_eq.1 same)
  unfold parts at split ⊢
  rw [List.splitOn_cons_eq_if_modifyHead, if_neg other, split, List.modifyHead_cons]

theorem parts_append {front rest first : List Char} {others : List (List Char)}
    (free : '/' ∉ front) (split : parts rest = first :: others) :
    parts (front ++ rest) = (front ++ first) :: others := by
  induction front with
  | nil => exact split
  | cons character front ih =>
      obtain ⟨apart, freeRest⟩ := not_or.1 (fun isIn => free (List.mem_cons.2 isIn))
      exact parts_cons (Ne.symm apart) (ih freeRest)

theorem mem_parts_cons {character : Char} {text part : List Char}
    (isPart : part ∈ parts (character :: text)) :
    part = [] ∨ part ∈ parts text ∨
      character ≠ '/' ∧ ∃ begun ∈ parts text, part = character :: begun := by
  by_cases isSlash : character = '/'
  · subst isSlash
    rw [parts_slash] at isPart
    rcases List.mem_cons.1 isPart with rfl | later
    · exact .inl rfl
    · exact .inr (.inl later)
  · obtain ⟨first, others, split⟩ := exists_parts text
    rw [parts_cons isSlash split] at isPart
    rw [split]
    rcases List.mem_cons.1 isPart with rfl | later
    · exact .inr (.inr ⟨isSlash, first, List.mem_cons_self, rfl⟩)
    · exact .inr (.inl (List.mem_cons_of_mem first later))

theorem free_of_mem_parts {text part : List Char} (isPart : part ∈ parts text) : '/' ∉ part := by
  induction text generalizing part with
  | nil =>
      obtain rfl := List.mem_singleton.1 isPart
      exact List.not_mem_nil
  | cons character text ih =>
      rcases mem_parts_cons isPart with rfl | later | ⟨apart, begun, isBegun, rfl⟩
      · exact List.not_mem_nil
      · exact ih later
      · rw [List.mem_cons, not_or]
        exact ⟨Ne.symm apart, ih isBegun⟩

theorem subset_of_mem_parts {text part : List Char} (isPart : part ∈ parts text) :
    part ⊆ text := by
  induction text generalizing part with
  | nil =>
      obtain rfl := List.mem_singleton.1 isPart
      exact List.nil_subset _
  | cons character text ih =>
      rcases mem_parts_cons isPart with rfl | later | ⟨_, begun, isBegun, rfl⟩
      · exact List.nil_subset _
      · exact List.subset_cons_of_subset character (ih later)
      · exact List.cons_subset_cons character (ih isBegun)

theorem parts_spread (text : List Char) : parts (spread text) = (parts text).map spread := by
  induction text with
  | nil => rfl
  | cons character rest ih =>
      by_cases isSlash : character = '/'
      · subst isSlash
        rw [spread_cons, spreadOf_slash, List.singleton_append, parts_slash, parts_slash, ih]
        rfl
      · obtain ⟨first, others, split⟩ := exists_parts rest
        have free : '/' ∉ spreadOf character := fun member => isSlash (slash_mem_spreadOf.1 member)
        rw [split, List.map_cons] at ih
        rw [spread_cons, parts_append free ih, parts_cons isSlash split, List.map_cons, spread_cons]

theorem length_parts (text : List Char) : (parts text).length = text.count '/' + 1 := by
  induction text with
  | nil => rfl
  | cons character rest ih =>
      by_cases isSlash : character = '/'
      · subst isSlash
        rw [parts_slash, List.length_cons, ih, List.count_cons_self]
      · obtain ⟨first, others, split⟩ := exists_parts rest
        rw [parts_cons isSlash split, List.count_cons_of_ne isSlash, ← ih, split, List.length_cons,
          List.length_cons]

end PolicyWatch.Text
