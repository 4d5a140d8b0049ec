import PolicyWatch.Proofs.Regex.Reader
import PolicyWatch.Regex.Escape

/-!
# Reading escapes step by step

The readers of escapes, put together from the forms of readers.  Each form is proved
equal to the reader it stands for.
-/

namespace PolicyWatch.Regex

/-! ## Codes of characters -/

theorem readHexDigits_succ (flags : Flags) (count : Nat) (read text : List Char) :
    readHexDigits flags (count + 1) read text =
      onCharacter (fun digit rest =>
        if (Text.digitValue? 16 digit).isSome then
          readHexDigits flags count (digit :: read) (flags.skip rest)
        else none) text := by
  cases text <;> rfl

theorem readHexBraces_succ (flags : Flags) (fuel : Nat) (read text : List Char) :
    readHexBraces flags (fuel + 1) read text =
      onCharacter (fun character rest =>
        if character = '\x7d' then some (read.reverse, rest)
        else if (Text.digitValue? 16 character).isSome then
          readHexBraces flags fuel (character :: read) rest
        else none) (flags.skip text) := by
  rw [readHexBraces]
  split <;> simp_all [onCharacter]

/-- The character with a code in hexadecimal digits of a width. -/
def hexOfWidth? (flags : Flags) (width : Nat) (digits : List Char) : Option Char :=
  (Text.digitsValue? 16 digits).bind fun code =>
    if width = 2 ∧ !flags.unicode ∧ 0x7F < code then none else characterOf? code

/-- The character with a code in hexadecimal digits between braces. -/
def hexInBraces? (digits : List Char) : Option Char :=
  if digits = [] then none else (Text.digitsValue? 16 digits).bind characterOf?

/-- Read hexadecimal digits between braces as the code of a character. -/
def readBracedHex (flags : Flags) (text : List Char) : Option (Char × List Char) :=
  ((readHexBraces flags (text.length + 1) [] text).bind fun read =>
    (hexInBraces? read.1).map (·, read.2)).bind fun read => some (read.1, flags.skip read.2)

/-- Read a number of hexadecimal digits as the code of a character. -/
def readBareHex (flags : Flags) (width : Nat) (text : List Char) : Option (Char × List Char) :=
  (readHexDigits flags width [] text).bind fun read =>
    (hexOfWidth? flags width read.1).map (·, read.2)

theorem readHex_eq (flags : Flags) (width : Nat) (text : List Char) :
    readHex flags width text =
      onMark '\x7b' (readBracedHex flags) (readBareHex flags width) (flags.skip text) := by
  unfold readHex
  split
  · rename_i inside skipped
    rw [onMark_cons skipped]
    unfold readBracedHex hexInBraces?
    cases readHexBraces flags (inside.length + 1) [] inside with
    | none => rfl
    | some read =>
        obtain ⟨digits, after⟩ := read
        cases digits with
        | nil => rfl
        | cons digit digits =>
            dsimp only [Option.bind_some]
            rw [if_neg (List.cons_ne_nil _ _)]
            cases (Text.digitsValue? 16 (digit :: digits)).bind characterOf? <;> rfl
  · rename_i notBrace
    rw [onMark_of_ne notBrace]
    unfold readBareHex hexOfWidth?
    cases readHexDigits flags width [] (flags.skip text) with
    | none => rfl
    | some read =>
        obtain ⟨digits, after⟩ := read
        dsimp only [Option.bind_some]
        cases Text.digitsValue? 16 digits with
        | none => rfl
        | some code =>
            dsimp only [Option.bind_some]
            split <;> rfl

/-! ## Properties -/

theorem readPropertyName_succ (flags : Flags) (fuel : Nat) (read text : List Char) :
    readPropertyName flags (fuel + 1) read text =
      onCharacter (fun character rest =>
        if character = '\x7d' then some (read.reverse, rest)
        else readPropertyName flags fuel (character :: read) rest) (flags.skip text) := by
  rw [readPropertyName]
  split <;> simp_all [onCharacter]

def propertyInBraces? (flags : Flags) (negated : Bool) (name : List Char) : Option CharSet :=
  (namedProperty name).bind fun (set, unequal) => flags.foldAndNegate? (negated != unequal) set

def propertyOfLetter? (flags : Flags) (negated : Bool) (letter : Char) : Option CharSet :=
  if letter = '\\' then none
  else (Unicode.propertySet? [letter]).bind (flags.foldAndNegate? negated)

theorem readProperty_eq (flags : Flags) (negated : Bool) (text : List Char) :
    readProperty flags negated text =
      if !flags.unicode then none
      else
        onCharacter (fun character rest =>
          if character = '\x7b' then
            (readPropertyName flags (rest.length + 1) [] rest).bind fun read =>
              (propertyInBraces? flags negated read.1).map (·, read.2)
          else
            ((propertyOfLetter? flags negated character).map (·, rest)).bind fun read =>
              some (read.1, flags.skip read.2)) (flags.skip text) := by
  unfold readProperty
  split
  · rfl
  · split
    · rename_i skipped
      rw [skipped]
      rfl
    · rename_i rest skipped
      rw [skipped]
      simp only [onCharacter, if_true]
      cases readPropertyName flags (rest.length + 1) [] rest with
      | none => rfl
      | some read =>
          obtain ⟨name, after⟩ := read
          unfold propertyInBraces?
          dsimp only [Option.bind_some]
          cases namedProperty name <;> rfl
    · rename_i letter rest notBrace skipped
      rw [skipped]
      simp only [onCharacter, if_neg notBrace, propertyOfLetter?]
      split
      · rfl
      · cases Unicode.propertySet? [letter] with
        | none => rfl
        | some set =>
            dsimp only [Option.bind_some]
            generalize flags.foldAndNegate? negated set = chosen
            cases chosen <;> rfl

/-! ## Word edges -/

theorem readEdgeName_succ (flags : Flags) (fuel : Nat) (read text : List Char) :
    readEdgeName flags (fuel + 1) read text =
      onCharacter (fun character rest =>
        if character = '\x7d' then some (read.reverse, rest)
        else if isEdgeNameCharacter character then
          readEdgeName flags fuel (character :: read) (flags.skip rest)
        else none) text := by
  rw [readEdgeName.eq_def]
  split <;> simp_all [onCharacter]

def readNamedEdge (flags : Flags) (text : List Char) : Option (WordEdge × List Char) :=
  (readEdgeName flags (text.length + 1) [] text).bind fun read =>
    (edgeNamed? read.1).map (·, read.2)

/-- Read a word edge behind a brace, which may belong to a repetition. -/
def readEdgeBehindOpen (flags : Flags) (text : List Char) : Option (WordEdge × List Char) :=
  if (flags.skip text).head?.any isEdgeNameCharacter then readNamedEdge flags (flags.skip text)
  else some (.boundary, '\x7b' :: text)

def readEdgeBehind (flags : Flags) (text : List Char) : Option (WordEdge × List Char) :=
  if flags.skip text = [] then none else readEdgeBehindOpen flags text

theorem readEdge_eq (flags : Flags) (text : List Char) :
    readEdge flags text =
      onMark '\x7b' (readEdgeBehind flags) (fun text => some (.boundary, text)) text := by
  unfold readEdge
  split
  · rename_i rest
    rw [onMark_cons rfl]
    unfold readEdgeBehind readEdgeBehindOpen readNamedEdge
    cases flags.skip rest with
    | nil => rfl
    | cons character tail =>
        rw [if_neg (List.cons_ne_nil _ _), List.head?_cons, Option.any_some]
        dsimp only [List.length_cons]
        split
        · cases readEdgeName flags (tail.length + 1 + 1) [] (character :: tail) <;> rfl
        · rfl
  · rename_i notBrace
    rw [onMark_of_ne notBrace]

/-! ## Escapes -/

def escapeOfLetter? (flags : Flags) (letter : Char) : Option Escaped :=
  match letter with
  | 'a' => some (.character '\x07')
  | 'f' => some (.character '\x0c')
  | 't' => some (.character '\t')
  | 'n' => some (.character '\n')
  | 'r' => some (.character '\r')
  | 'v' => some (.character '\x0b')
  | 'A' => some (.anchor .textStart)
  | 'z' => some (.anchor .textEnd)
  | 'B' => some (.anchor (.word .inside (!flags.unicode)))
  | '<' => some (.anchor (.word .start (!flags.unicode)))
  | '>' => some (.anchor (.word .stop (!flags.unicode)))
  | _ => none

/-- Read what a backslash introduces, with a reader of the word edges behind `b`. -/
def readEscapedWith (edge : List Char → Option (WordEdge × List Char)) (flags : Flags) :
    List Char → Option (Escaped × List Char) :=
  onCharacter fun letter rest =>
    if letter.isDigit then none
    else if letter = 'x' then
      (readHex flags 2 rest).map fun read => (.character read.1, read.2)
    else if letter = 'u' then
      (readHex flags 4 rest).map fun read => (.character read.1, read.2)
    else if letter = 'U' then
      (readHex flags 8 rest).map fun read => (.character read.1, read.2)
    else if letter = 'p' then
      (readProperty flags false rest).map fun read => (.set read.1, read.2)
    else if letter = 'P' then
      (readProperty flags true rest).map fun read => (.set read.1, read.2)
    else if ['d', 's', 'w', 'D', 'S', 'W'].contains letter then
      ((flags.shorthand? letter).map Escaped.set).map (·, rest)
    else if isPlainWhenEscaped letter then some (.character letter, rest)
    else if letter = 'b' then
      (edge rest).map fun read => (.anchor (.word read.1 (!flags.unicode)), read.2)
    else (escapeOfLetter? flags letter).map (·, rest)

theorem readEscaped_eq (flags : Flags) (text : List Char) :
    readEscaped flags text = readEscapedWith (readEdge flags) flags text := by
  cases text with
  | nil => rfl
  | cons letter rest =>
      have shorthand : (flags.shorthand? letter).map (fun set => (Escaped.set set, rest)) =
          ((flags.shorthand? letter).map Escaped.set).map (·, rest) := by
        rw [Option.map_map]
        rfl
      refine if_congr Iff.rfl rfl (if_congr Iff.rfl rfl (if_congr Iff.rfl rfl (if_congr Iff.rfl rfl
        (if_congr Iff.rfl rfl (if_congr Iff.rfl rfl (if_congr Iff.rfl shorthand
          (if_congr Iff.rfl rfl ?_)))))))
      by_cases isEdge : letter = 'b'
      · subst isEdge
        rfl
      · rw [if_neg isEdge]
        unfold escapeOfLetter?
        split <;> first | rfl | simp_all

end PolicyWatch.Regex
