import PolicyWatch.Proofs.Regex.Search
import PolicyWatch.Proofs.Regex.PatternSteps

/-!
# Repetitions of patterns are ordered

Main statement: no repetition of an expression that is read from a pattern asks for
more rounds than it allows, so searching finds just what the expression covers.
-/

namespace PolicyWatch.Regex

def Yields {α : Type} (property : α → Prop) (reader : List Char → Option (α × List Char)) : Prop :=
  ∀ text value rest, reader text = some (value, rest) → property value

namespace Yields

variable {α β : Type} {property : α → Prop} {reader other : List Char → Option (α × List Char)}

theorem failing : Yields property fun _ => none := by
  intro text value rest done
  cases done

theorem unread {value : α} (holds : property value) :
    Yields property fun text => some (value, text) := by
  rintro text _ rest ⟨⟩
  exact holds

theorem ite {condition : List Char → Prop} [DecidablePred condition]
    (stands : Yields property reader) (fails : Yields property other) :
    Yields property fun text => if condition text then reader text else other text := by
  intro text value rest done
  by_cases given : condition text
  · exact stands text value rest ((if_pos given).symm.trans done)
  · exact fails text value rest ((if_neg given).symm.trans done)

theorem onMark {mark : Char} (stands : Yields property reader) (fails : Yields property other) :
    Yields property (Regex.onMark mark reader other) := by
  intro text value rest done
  unfold Regex.onMark at done
  split at done
  · exact stands _ value rest done
  · exact fails _ value rest done

theorem onCharacter {each : Char → List Char → Option (α × List Char)}
    (yields : ∀ character, Yields property (each character)) :
    Yields property (Regex.onCharacter each) := by
  intro text value rest done
  cases text with
  | nil => cases done
  | cons character text => exact yields character text value rest done

theorem bind {first : List Char → Option (β × List Char)} {before : β → Prop}
    {next : β → List Char → Option (α × List Char)} (yields : Yields before first)
    (later : ∀ value, before value → Yields property (next value)) :
    Yields property fun text => (first text).bind fun read => next read.1 read.2 := by
  intro text value rest done
  obtain ⟨read, isRead, done⟩ := Option.bind_eq_some_iff.1 done
  exact later read.1 (yields text read.1 read.2 isRead) read.2 value rest done

theorem given (value? : Option β) {next : β → List Char → Option (α × List Char)}
    (later : ∀ value, value? = some value → Yields property (next value)) :
    Yields property fun text => value?.bind (next · text) := by
  intro text value rest done
  obtain ⟨middle, isGiven, done⟩ := Option.bind_eq_some_iff.1 done
  exact later middle isGiven text value rest done

theorem map {first : List Char → Option (β × List Char)} {change : β → α}
    (holds : ∀ value, property (change value)) :
    Yields property fun text => (first text).map fun read => (change read.1, read.2) := by
  intro text value rest done
  obtain ⟨read, _, same⟩ := Option.map_eq_some_iff.1 done
  cases same
  exact holds read.1

theorem any (first : List Char → Option (β × List Char)) : Yields (fun _ => True) first :=
  fun _ _ _ _ => trivial

/-- What holds of all that is read behind a prefix holds of all that is read. -/
theorem comap (yields : Yields property reader) (change : List Char → List Char) :
    Yields property fun text => reader (change text) :=
  fun text => yields (change text)

end Yields

/-! ## Parts -/

/-- A repetition that asks for no more rounds than it allows is ordered. -/
theorem ordered_repeatWithin {body : Regex} (ordered : body.Ordered) {least : Nat}
    {most : Option Nat} (enough : ∀ bound, most = some bound → least ≤ bound) :
    (body.repeatWithin least most).Ordered := by
  unfold repeatWithin
  split
  · refine ⟨ordered, ?_⟩
    rintro _ ⟨⟩
    cases most with
    | none => exact Nat.min_le_right least 1
    | some bound =>
        have fewer : least ≤ bound := enough bound rfl
        change min least 1 ≤ min bound 1
        omega
  · exact ⟨ordered, enough⟩

namespace Part

variable {parts : List Part}

theorem ordered_foldl_seq (ordered : ∀ part ∈ parts, part.regex.Ordered) {last : Regex}
    (orderedLast : last.Ordered) :
    (parts.foldl (fun rest part => .seq part.regex rest) last).Ordered := by
  induction parts generalizing last with
  | nil => exact orderedLast
  | cons part parts ih =>
      obtain ⟨orderedFirst, orderedRest⟩ := List.forall_mem_cons.1 ordered
      exact ih orderedRest ⟨orderedFirst, orderedLast⟩

theorem ordered_foldl_either (ordered : ∀ part ∈ parts, part.regex.Ordered) {last : Regex}
    (orderedLast : last.Ordered) :
    (parts.foldl (fun rest part => .either part.regex rest) last).Ordered := by
  induction parts generalizing last with
  | nil => exact orderedLast
  | cons part parts ih =>
      obtain ⟨orderedFirst, orderedRest⟩ := List.forall_mem_cons.1 ordered
      exact ih orderedRest ⟨orderedFirst, orderedLast⟩

theorem ordered_sequence (ordered : ∀ part ∈ parts, part.regex.Ordered) :
    (sequence parts).regex.Ordered := by
  unfold sequence
  split
  · trivial
  · exact ordered _ List.mem_cons_self
  · exact ordered_foldl_seq ordered trivial

theorem ordered_choice (ordered : ∀ part ∈ parts, part.regex.Ordered) :
    (choice parts).regex.Ordered := by
  unfold choice
  split
  · trivial
  · exact ordered _ List.mem_cons_self
  · obtain ⟨orderedLast, orderedEarlier⟩ := List.forall_mem_cons.1 ordered
    exact ordered_foldl_either orderedEarlier orderedLast

end Part

namespace Progress

/-- Whether all parts read so far are ordered. -/
def Ordered (progress : Progress) : Prop :=
  ∀ part ∈ progress.parts, part.regex.Ordered

theorem Ordered.cons {progress : Progress} (ordered : progress.Ordered) {part : Part}
    (orderedPart : part.regex.Ordered) (flags : Flags) (names : List (List Char)) :
    Ordered ⟨flags, names, part :: progress.parts⟩ :=
  List.forall_mem_cons.2 ⟨orderedPart, ordered⟩

theorem Ordered.repeatLast {progress grown : Progress} (ordered : progress.Ordered) {least : Nat}
    {most : Option Nat} (enough : ∀ bound, most = some bound → least ≤ bound)
    (repeated : progress.repeatLast? least most = some grown) : grown.Ordered := by
  unfold repeatLast? at repeated
  split at repeated
  · rename_i part earlier same
    split at repeated
    · cases repeated
      unfold Ordered at ordered
      rw [same] at ordered
      obtain ⟨orderedPart, orderedEarlier⟩ := List.forall_mem_cons.1 ordered
      exact List.forall_mem_cons.2 ⟨ordered_repeatWithin orderedPart enough, orderedEarlier⟩
    · cases repeated
  · cases repeated

end Progress

/-! ## Readers -/

/-- The counts that are read allow at least the rounds they ask for. -/
theorem yields_readRounds (flags : Flags) :
    Yields (fun read => ∀ bound, read.2 = some bound → read.1 ≤ bound) (readRounds flags) := by
  have exactly : ∀ least bound : Nat, some least = some bound → least ≤ bound :=
    fun _ _ same => Nat.le_of_eq (Option.some.inj same)
  have closed : ∀ least most, Yields (fun read => ∀ bound, read.2 = some bound → read.1 ≤ bound)
      (readCountsEnd least most) := by
    refine fun least most => .onMark ?_ .failing
    intro text value rest done
    split at done
    · rename_i enough
      cases done
      exact fun _ same => Option.some.inj same ▸ enough
    · cases done
  have most : ∀ least, Yields (fun read => ∀ bound, read.2 = some bound → read.1 ≤ bound)
      (readMost flags least) := fun least =>
    .onMark (.unread nofun) ((Yields.any (readCount flags)).bind fun most? _ =>
      .given most? fun most _ => closed least most)
  have behind : ∀ least, Yields (fun read => ∀ bound, read.2 = some bound → read.1 ≤ bound)
      (readRoundsFrom flags least) := fun least =>
    .onMark (.unread (exactly least)) (.onMark ((most least).comap flags.skip) .failing)
  exact .ite .failing ((Yields.any (readCount flags)).bind fun least? _ =>
    .given least? fun least _ => behind least)

theorem yields_readLeaf (flags : Flags) :
    Yields (fun part => part.regex.Ordered) (readLeaf flags) := by
  rw [funext (readLeaf_eq flags)]
  refine .onMark (.map fun escaped => ?_) (.onMark ?_ (.onMark (.unread trivial)
    (.onMark (.unread trivial) (.onMark (.map fun _ => trivial)
      (.onCharacter fun _ => .unread trivial)))))
  · cases escaped <;> trivial
  · intro text value rest done
    obtain ⟨part, isPart, same⟩ := Option.map_eq_some_iff.1 done
    cases same
    obtain ⟨regex, isDot, rfl⟩ := Option.map_eq_some_iff.1 isPart
    unfold Flags.dot? at isDot
    repeat' split at isDot
    all_goals cases isDot <;> trivial

section Steps

variable
  {inside : List Part → Flags → List (List Char) → List Char →
    Option ((Part × List (List Char)) × List Char)}
  {next : Progress → List Char → Option (Progress × List Char)}

theorem yields_readRepeated
    (sequence : ∀ progress, progress.Ordered → Yields Progress.Ordered (next progress))
    {progress : Progress} (ordered : progress.Ordered) {least : Nat} {most : Option Nat}
    (enough : ∀ bound, most = some bound → least ≤ bound) :
    Yields Progress.Ordered (readRepeated next progress least most) :=
  .given _ fun grown repeated =>
    (sequence grown (ordered.repeatLast enough repeated)).comap dropLazyMark

theorem yields_readOpened
    (branches : ∀ branches flags names, (∀ part ∈ branches, part.regex.Ordered) →
      Yields (fun read => read.1.regex.Ordered) (inside branches flags names))
    (sequence : ∀ progress, progress.Ordered → Yields Progress.Ordered (next progress))
    {progress : Progress} (ordered : progress.Ordered) (opening : Opening) :
    Yields Progress.Ordered (readOpened inside next progress opening) := by
  cases opening with
  | setting changed =>
      have orderedSetting : Part.setting.regex.Ordered := trivial
      exact sequence _ (ordered.cons orderedSetting changed progress.names)
  | group flags remembers name? =>
      refine .ite .failing ?_
      refine (branches [] _ _ (List.forall_mem_nil _)).bind fun read orderedRead => ?_
      refine .onCharacter fun mark => .ite (sequence _ (ordered.cons ?_ _ _)) .failing
      cases remembers <;> exact orderedRead

theorem yields_readSequenceStep
    (branches : ∀ branches flags names, (∀ part ∈ branches, part.regex.Ordered) →
      Yields (fun read => read.1.regex.Ordered) (inside branches flags names))
    (sequence : ∀ progress, progress.Ordered → Yields Progress.Ordered (next progress))
    {progress : Progress} (ordered : progress.Ordered) :
    Yields Progress.Ordered (readSequenceStep inside next progress) := by
  have rounds : ∀ read : Nat × Option Nat, (∀ bound, read.2 = some bound → read.1 ≤ bound) →
      Yields Progress.Ordered fun text =>
        readRepeated next progress read.1 read.2 (progress.flags.skip text) :=
    fun read enough => (yields_readRepeated sequence ordered enough).comap progress.flags.skip
  have leaf : ∀ part : Part, part.regex.Ordered →
      Yields Progress.Ordered (next (progress.add part)) := fun part orderedPart =>
    sequence _ (ordered.cons orderedPart progress.flags progress.names)
  refine .ite (.unread ordered) (.onMark (yields_readRepeated sequence ordered ?_)
    (.onMark (yields_readRepeated sequence ordered nofun)
      (.onMark (yields_readRepeated sequence ordered nofun)
        (.onMark ?_ (.onMark ?_ ?_)))))
  · exact fun bound _ => Nat.zero_le bound
  · exact ((yields_readRounds progress.flags).comap progress.flags.skip).bind rounds
  · exact (Yields.any (readGroupOpening progress.flags)).bind fun opening _ =>
      yields_readOpened branches sequence ordered opening
  · exact (yields_readLeaf progress.flags).bind leaf

theorem yields_readBranchesStep
    (branches : ∀ branches flags names, (∀ part ∈ branches, part.regex.Ordered) →
      Yields (fun read => read.1.regex.Ordered) (inside branches flags names))
    (sequence : ∀ progress, progress.Ordered → Yields Progress.Ordered (next progress))
    {earlier : List Part} (ordered : ∀ part ∈ earlier, part.regex.Ordered) (flags : Flags)
    (names : List (List Char)) :
    Yields (fun read => read.1.regex.Ordered)
      (readBranchesStep inside next earlier flags names) := by
  have start : Progress.Ordered ⟨flags, names, []⟩ := List.forall_mem_nil _
  refine (sequence _ start).bind fun progress orderedProgress => ?_
  have orderedAll : ∀ part ∈ Part.sequence progress.parts :: earlier, part.regex.Ordered :=
    List.forall_mem_cons.2 ⟨Part.ordered_sequence orderedProgress, ordered⟩
  exact .onMark (branches _ _ _ orderedAll) (.unread (Part.ordered_choice orderedAll))

end Steps

theorem yields_pattern (fuel : Nat) :
    (∀ branches flags names, (∀ part ∈ branches, part.regex.Ordered) →
      Yields (fun read => read.1.regex.Ordered) (readBranches fuel branches flags names)) ∧
    ∀ progress, progress.Ordered → Yields Progress.Ordered (readSequence fuel progress) := by
  induction fuel with
  | zero => exact ⟨fun _ _ _ _ => .failing, fun _ _ => .failing⟩
  | succ fuel ih =>
      obtain ⟨branches, sequence⟩ := ih
      refine ⟨fun earlier flags names ordered => ?_, fun progress ordered => ?_⟩
      · rw [funext (readBranches_succ fuel earlier flags names)]
        exact yields_readBranchesStep branches sequence ordered flags names
      · rw [funext (readSequence_succ fuel progress)]
        exact (yields_readSequenceStep branches sequence ordered).comap progress.flags.skip

end PolicyWatch.Regex
