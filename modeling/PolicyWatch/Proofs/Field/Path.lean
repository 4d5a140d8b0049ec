import PolicyWatch.Proofs.Field.Disjunction
import PolicyWatch.Proofs.Glob.Components
import PolicyWatch.Proofs.Glob.Root
import PolicyWatch.Regex.Size

/-!
# Fields that hold paths

A path passes a listed value as the very text or as a pattern.  Main statement: only absolute
paths pass, a listed path passes itself, and a value that stands for its components is passed
by paths with as many components, each of which fits the component at its place.
-/

namespace PolicyWatch

def Field.path? (field : Field) (event : Event) : Option String :=
  match field with
  | actualPath => event.fileAccess?.map fun access => access.file.actualPath
  | effectivePath => event.fileAccess?.map fun access => access.file.effectivePath
  | _ => none

theorem Field.extract_eq_path {field : Field} (isPath : field.kind = .path) (event : Event) :
    field.extract event = (field.path? event).toList.flatMap Field.pathValue := by
  cases field with
  | actualPath => cases event <;> rfl
  | effectivePath => cases event <;> rfl
  | _ => cases isPath

variable {field : Field} {listed path : String}

theorem Field.passes_path_iff [SizeLimit] (isPath : field.kind = .path) :
    field.Passes listed (.text path) ↔
      path = listed ∨ Glob.Fits listed.toList path.toList := by
  unfold Field.Passes
  rw [isPath]
  rfl

theorem Field.Takes.exists_cons_slash [SizeLimit] (isPath : field.kind = .path)
    (taken : field.Takes listed) :
    ∃ rest, listed.toList = '/' :: rest := by
  have reads := taken.1
  unfold Field.Reads at reads
  rw [isPath] at reads
  have absolute := reads.1
  cases written : listed.toList with
  | nil =>
      rw [written] at absolute
      cases absolute
  | cons first rest =>
      rw [written] at absolute
      obtain ⟨isSlash, _⟩ := (Bool.and_eq_true _ _).mp absolute
      exact ⟨rest, by rw [← beq_iff_eq.1 isSlash]⟩

/-- Only absolute paths pass an absolute value. -/
theorem Field.Passes.exists_cons_slash [SizeLimit] (isPath : field.kind = .path)
    (taken : field.Takes listed)
    (passes : field.Passes listed (.text path)) : ∃ rest, path.toList = '/' :: rest := by
  obtain ⟨pattern, written⟩ := taken.exists_cons_slash isPath
  rcases (Field.passes_path_iff isPath).1 passes with rfl | fits
  · exact ⟨pattern, written⟩
  · rw [written] at fits
    exact fits.exists_cons_slash

theorem Field.passes_iff_parts [SizeLimit] (isPath : field.kind = .path)
    (componentwise : Glob.IsComponentwise listed.toList) :
    field.Passes listed (.text path) ↔
      List.Forall₂ Glob.Fits (Text.parts listed.toList) (Text.parts path.toList) := by
  rw [Field.passes_path_iff isPath, ← componentwise.fits_iff_parts]
  refine or_iff_right_of_imp ?_
  rintro rfl
  exact componentwise.fits_iff_describes.2 (Glob.describes_spread _)

namespace FieldMatcher

variable {values : List String} {matcher : FieldMatcher} {event : Event}

theorem isMet_path_iff [SizeLimit] (isPath : field.kind = .path) (present : values ≠ [])
    (compiled : compile field values = .ok matcher) (carried : field.path? event = some path) :
    matcher.isMet event = true ↔ ∃ listed ∈ values, field.Passes listed (.text path) := by
  have taken := exists_compile_iff.1 ⟨matcher, compiled⟩
  rw [isMet_iff compiled, Field.extract_eq_path isPath, carried, Option.toList_some,
    List.flatMap_cons, List.flatMap_nil, List.append_nil]
  unfold Field.pathValue
  split
  · rename_i empty
    refine iff_of_false (by simp) ?_
    rintro ⟨listed, member, passes⟩
    obtain ⟨rest, absolute⟩ := passes.exists_cons_slash isPath (taken listed member)
    rw [empty] at absolute
    cases absolute
  · simp [present]

/-- Paths are matched as absolute paths, and within their directories.  Of a field of paths a
path that is listed is met, only absolute paths are, and an empty path never is.  A path is met
just if it passes some listed value; one without classes, branches, escapes and recursive stars
is passed just by the paths whose components fit its own one by one, which are as many. -/
theorem paths_keep_to_components [SizeLimit] (isPath : field.kind = .path) (present : values ≠ [])
    (compiled : compile field values = .ok matcher) (carried : field.path? event = some path) :
    (path ∈ values → matcher.isMet event = true) ∧
      (matcher.isMet event = true → ∃ rest, path.toList = '/' :: rest) ∧
      (path = "" → matcher.isMet event = false) ∧
      (matcher.isMet event = true ↔ ∃ listed ∈ values, field.Passes listed (.text path)) ∧
      ∀ listed ∈ values, Glob.IsComponentwise listed.toList →
        (field.Passes listed (.text path) ↔
          List.Forall₂ Glob.Fits (Text.parts listed.toList) (Text.parts path.toList)) ∧
        (field.Passes listed (.text path) →
          path.toList.count '/' = listed.toList.count '/') := by
  have taken := exists_compile_iff.1 ⟨matcher, compiled⟩
  have met := isMet_path_iff isPath present compiled carried
  have absolute : matcher.isMet event = true → ∃ rest, path.toList = '/' :: rest := by
    intro isMet
    obtain ⟨listed, member, passes⟩ := met.1 isMet
    exact passes.exists_cons_slash isPath (taken listed member)
  refine ⟨fun member => ?_, absolute, fun empty => ?_, met, fun listed _ componentwise => ?_⟩
  · exact met.2 ⟨path, member, (Field.passes_path_iff isPath).2 (.inl rfl)⟩
  · refine Bool.eq_false_iff.2 fun isMet => ?_
    obtain ⟨rest, written⟩ := absolute isMet
    rw [empty] at written
    cases written
  · have partwise : field.Passes listed (.text path) ↔
        List.Forall₂ Glob.Fits (Text.parts listed.toList) (Text.parts path.toList) :=
      Field.passes_iff_parts isPath componentwise
    refine ⟨partwise, fun passes => ?_⟩
    have sameLength := (partwise.1 passes).length_eq
    rw [Text.length_parts, Text.length_parts] at sameLength
    exact (Nat.succ.inj sameLength).symm

/-- A star is met by a name in its directory, and not by a path below that directory. -/
theorem star_stays_in_directory :
    ∃ matcher, compile .actualPath ["/etc/*.conf"] = .ok matcher ∧
      ∀ (node : Node) (operation : FileOperation),
        matcher.isMet (.nodeFileAccess node ⟨⟨"/etc/resolv.conf", ""⟩, operation⟩) = true ∧
        matcher.isMet (.nodeFileAccess node ⟨⟨"/etc/nginx/a.conf", ""⟩, operation⟩) = false := by
  have ordinary : ("/etc/*.conf".toList.all fun character =>
      decide (character ∉ ['[', '\x7b', '\x7d', '\\'])) = true := by decide
  have componentwise : Glob.IsComponentwise "/etc/*.conf".toList :=
    ⟨fun character member => of_decide_eq_true (List.all_eq_true.1 ordinary character member),
      by decide⟩
  have absolute : Text.startsWith ['/'] "/etc/*.conf".toList = true := by decide
  have shallow : Glob.height ("/etc/*.conf".toList.map Glob.ordinaryToken) ≤
      Glob.greatestHeight := by decide +kernel
  have fits : Glob.Fits "/etc/*.conf".toList "/etc/resolv.conf".toList :=
    ⟨_, componentwise.ofText_eq, by decide +kernel⟩
  have taken : Field.actualPath.Takes "/etc/*.conf" := by
    refine ⟨⟨absolute, _, componentwise.ofText_eq⟩, fun _ tokens read => ?_⟩
    rw [componentwise.ofText_eq, Except.ok.injEq] at read
    rw [← read]
    exact shallow
  obtain ⟨matcher, compiled⟩ := exists_compile_iff.2 (List.forall_mem_singleton.2 taken)
  refine ⟨matcher, compiled, fun node operation => ⟨?_, ?_⟩⟩
  · have carried : Field.actualPath.path? (.nodeFileAccess node
        ⟨⟨"/etc/resolv.conf", ""⟩, operation⟩) = some "/etc/resolv.conf" := rfl
    obtain ⟨_, _, _, met, _⟩ :=
      paths_keep_to_components rfl (List.cons_ne_nil _ _) compiled carried
    exact met.2 ⟨_, List.mem_cons_self, (Field.passes_path_iff rfl).2 (.inr fits)⟩
  · have carried : Field.actualPath.path? (.nodeFileAccess node
        ⟨⟨"/etc/nginx/a.conf", ""⟩, operation⟩) = some "/etc/nginx/a.conf" := rfl
    obtain ⟨_, _, _, met, partwise⟩ :=
      paths_keep_to_components rfl (List.cons_ne_nil _ _) compiled carried
    refine Bool.eq_false_iff.2 fun isMet => ?_
    obtain ⟨listed, member, passes⟩ := met.1 isMet
    obtain rfl := List.mem_singleton.1 member
    have sameCount := (partwise _ member componentwise).2 passes
    exact absurd sameCount (by decide)

end FieldMatcher

end PolicyWatch
