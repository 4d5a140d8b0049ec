import Mathlib.Data.List.TakeWhile
import PolicyWatch.Proofs.Policy.File
import PolicyWatch.Proofs.Text.Bytes

/-!
# Directories of policy files are loaded in order

What is loaded from a directory.  Main statement: a directory is loaded just if each policy file in
it is and no ID comes twice, what is loaded are the policies of the files in the order of the bytes
of their names, and else what is reported is the first fault that is met in this order.
-/

namespace PolicyWatch.PolicyDirectory

open Checks
open PolicyFile (LoadsAt listedAt requirementsAt)

/-! ## Names of policy files -/

theorem eq_append_of_dropWhile {mark first : Char} {text rest : List Char}
    (dropped : text.dropWhile (· != mark) = first :: rest) :
    text = text.takeWhile (· != mark) ++ mark :: rest := by
  induction text with
  | nil => cases dropped
  | cons next others ih =>
      rw [List.dropWhile_cons] at dropped
      rw [List.takeWhile_cons]
      split at dropped
      · rename_i goesOn
        rw [if_pos goesOn, List.cons_append, ← ih dropped]
      · rename_i stops
        have isMark : next = mark := by simpa using stops
        cases dropped
        rw [if_neg stops, isMark]
        rfl

/-- The extension of a name is what follows its last dot, where something else comes before it. -/
theorem extension?_eq_some_iff {name extension : String} (undotted : '.' ∉ extension.toList) :
    extension? name = some extension ↔ ∃ stem, stem ≠ "" ∧ name = stem ++ ("." ++ extension) := by
  unfold extension?
  constructor
  · intro found
    split at found
    · rename_i dot last others dropped
      cases found
      refine ⟨String.ofList (last :: others).reverse, ?_, ?_⟩
      · intro isEmpty
        have noStem := String.toList_eq_nil_iff.2 isEmpty
        simp at noStem
      · have parted := congrArg List.reverse (eq_append_of_dropWhile dropped)
        rw [List.reverse_reverse] at parted
        apply String.toList_inj.1
        apply parted.trans
        simp
    · cases found
  · rintro ⟨stem, hasStem, rfl⟩
    have stemReversed : stem.toList.reverse ≠ [] := by
      rw [Ne, List.reverse_eq_nil_iff, String.toList_eq_nil_iff]
      exact hasStem
    obtain ⟨last, others, reversed⟩ := List.exists_cons_of_ne_nil stemReversed
    have behindDot : ∀ character ∈ extension.toList.reverse, (character != '.') = true := by
      intro character member
      rw [bne_iff_ne]
      rintro rfl
      exact undotted (List.mem_reverse.1 member)
    have written : (stem ++ ("." ++ extension)).toList.reverse =
        extension.toList.reverse ++ '.' :: last :: others := by
      rw [String.toList_append, String.toList_append, List.reverse_append, List.reverse_append,
        reversed, List.append_assoc]
      rfl
    rw [written, List.dropWhile_append_of_pos behindDot, List.takeWhile_append_of_pos behindDot]
    simp

theorem isPolicyFileName_iff {name : String} :
    isPolicyFileName name = true ↔
      ∃ stem, stem ≠ "" ∧ (name = stem ++ ".yaml" ∨ name = stem ++ ".yml") := by
  have yaml := @extension?_eq_some_iff name "yaml" (by decide)
  have yml := @extension?_eq_some_iff name "yml" (by decide)
  unfold isPolicyFileName
  rw [Bool.or_eq_true, beq_iff_eq, beq_iff_eq, yaml, yml, ← exists_or]
  simp only [← and_or_left]
  rfl

/-! ## The order of files -/

theorem fileNames_perm (tree : FileTree) (directory : String) (names : List String) :
    (fileNames tree directory names).Perm (names.filter (isPolicyFile tree directory)) :=
  List.mergeSort_perm _ _

variable {tree : FileTree} {directory : String} {names : List String}

theorem fileNames_ascending : (fileNames tree directory names).Pairwise (· ≤ ·) :=
  Text.pairwise_mergeSort_le id _

theorem fileNames_eq_of_ascending {ascending : List String}
    (same : (names.filter (isPolicyFile tree directory)).Perm ascending)
    (sorted : ascending.Pairwise (· ≤ ·)) : fileNames tree directory names = ascending := by
  refine ((fileNames_perm tree directory names).trans same).eq_of_pairwise ?_
    fileNames_ascending sorted
  intro first other _ _ before after
  exact String.le_antisymm before after

/-! ## What is required -/

/-- What is required of a policy file behind others: what is required of the file, and then of each
of its policies that none of the others lists its ID. -/
def fileRequirements (tree : FileTree) (earlier : List String) (path : String) :
    List (Requirement Failure) :=
  requirementsAt tree path ++ (listedAt tree path).map fun policy =>
    ⟨policy.id ∉ (earlier.flatMap (listedAt tree)).map Policy.id,
      .ofMessage ("duplicate policy id '" ++ policy.id ++ "' in " ++ path)⟩

/-- Whether files are as required: each is loaded, and no ID comes twice. -/
structure WellFormed (tree : FileTree) (paths : List String) : Prop where
  loads : ∀ path ∈ paths, LoadsAt tree path
  distinct : ((paths.flatMap (listedAt tree)).map Policy.id).Nodup

theorem nodup_listedAt {path : String} (loads : LoadsAt tree path) :
    ((listedAt tree path).map Policy.id).Nodup := by
  obtain ⟨text, file, isFile, read, wellFormed⟩ := loads
  rw [PolicyFile.listedAt_eq isFile read]
  exact wellFormed.distinct

theorem WellFormed.id_ne_empty {paths : List String} (wellFormed : WellFormed tree paths) :
    ∀ policy ∈ paths.flatMap (listedAt tree), policy.id ≠ "" := by
  intro policy listed
  obtain ⟨path, member, inFile⟩ := List.mem_flatMap.1 listed
  obtain ⟨text, file, isFile, read, fileWellFormed⟩ := wellFormed.loads path member
  rw [PolicyFile.listedAt_eq isFile read] at inFile
  exact fileWellFormed.identified policy inFile

theorem met_fileRequirements {earlier : List String} {path : String} :
    Met (fileRequirements tree earlier path) ↔ LoadsAt tree path ∧
      ∀ policy ∈ listedAt tree path,
        policy.id ∉ (earlier.flatMap (listedAt tree)).map Policy.id := by
  unfold fileRequirements
  rw [met_append, PolicyFile.met_requirementsAt]
  exact and_congr_right fun _ => List.forall_mem_map

theorem wellFormed_nil (tree : FileTree) : WellFormed tree [] := by
  refine ⟨?_, List.nodup_nil⟩
  intro path impossible
  cases impossible

theorem wellFormed_cons_iff {first : String} {rest : List String} :
    WellFormed tree (first :: rest) ↔ LoadsAt tree first ∧ WellFormed tree rest ∧
      ∀ policy ∈ rest.flatMap (listedAt tree),
        policy.id ∉ (listedAt tree first).map Policy.id := by
  constructor
  · rintro ⟨loads, distinct⟩
    rw [List.flatMap_cons, List.map_append] at distinct
    obtain ⟨-, restDistinct, apart⟩ := List.nodup_append.1 distinct
    refine ⟨loads first List.mem_cons_self, ⟨?_, restDistinct⟩, ?_⟩
    · intro path member
      exact loads path (List.mem_cons_of_mem _ member)
    · intro policy member known
      exact apart policy.id known policy.id (List.mem_map_of_mem member) rfl
  · rintro ⟨loads, restWellFormed, apart⟩
    constructor
    · intro path member
      rcases List.mem_cons.1 member with rfl | later
      · exact loads
      · exact restWellFormed.loads path later
    · rw [List.flatMap_cons, List.map_append]
      refine List.nodup_append.2 ⟨nodup_listedAt loads, restWellFormed.distinct, ?_⟩
      rintro id known other listed rfl
      obtain ⟨policy, member, rfl⟩ := List.mem_map.1 listed
      exact apart policy member known

theorem met_eachBehind {earlier paths : List String} :
    Met (eachBehind (fileRequirements tree) earlier paths) ↔
      WellFormed tree paths ∧
        ∀ policy ∈ paths.flatMap (listedAt tree),
          policy.id ∉ (earlier.flatMap (listedAt tree)).map Policy.id := by
  induction paths generalizing earlier with
  | nil =>
      refine iff_of_true met_nil ⟨wellFormed_nil tree, ?_⟩
      intro policy impossible
      cases impossible
  | cons first rest ih =>
      rw [eachBehind, met_append, met_fileRequirements, ih, wellFormed_cons_iff]
      simp only [List.flatMap_cons, List.flatMap_append, List.flatMap_nil, List.append_nil,
        List.map_append, List.mem_append, not_or]
      constructor
      · rintro ⟨⟨loads, fresh⟩, restWellFormed, apart⟩
        refine ⟨⟨loads, restWellFormed, ?_⟩, ?_⟩
        · intro policy member
          exact (apart policy member).2
        · rintro policy (own | later)
          · exact fresh policy own
          · exact (apart policy later).1
      · rintro ⟨⟨loads, restWellFormed, own⟩, fresh⟩
        refine ⟨⟨loads, ?_⟩, restWellFormed, ?_⟩
        · intro policy member
          exact fresh policy (.inl member)
        · intro policy member
          exact ⟨fresh policy (.inr member), own policy member⟩

theorem met_eachBehind_nil {paths : List String} :
    Met (eachBehind (fileRequirements tree) [] paths) ↔ WellFormed tree paths := by
  rw [met_eachBehind]
  exact and_iff_left fun _ _ => List.not_mem_nil

/-! ## Loading -/

/-- Policies whose IDs are distinct are added in order, each if none of those before has its ID.
Those added already belong to the same file. -/
theorem reports_addFile (path : String) (before added : List Policy) {policies : List Policy}
    (distinct : ((added ++ policies).map Policy.id).Nodup) :
    Reports (addFile path (before ++ added) policies) (policies.map fun policy =>
      ⟨policy.id ∉ before.map Policy.id,
        .ofMessage ("duplicate policy id '" ++ policy.id ++ "' in " ++ path)⟩) := by
  induction policies generalizing added with
  | nil => exact .ok _
  | cons first rest ih =>
      have notAdded : first.id ∉ added.map Policy.id := by
        intro known
        rw [List.map_append, List.nodup_append] at distinct
        exact distinct.2.2 first.id known first.id List.mem_cons_self rfl
      unfold addFile
      refine Reports.guard ?_ fun fresh => ?_
      · rw [List.contains_iff_mem, List.map_append, List.mem_append, not_not]
        exact or_iff_left notAdded
      · rw [List.append_assoc]
        apply ih
        rwa [List.append_assoc]

/-- Added policies come behind those before. -/
theorem addFile_eq_ok {path : String} {loaded policies grown : List Policy}
    (added : addFile path loaded policies = .ok grown) : grown = loaded ++ policies := by
  induction policies generalizing loaded with
  | nil =>
      cases added
      exact (List.append_nil _).symm
  | cons first rest ih =>
      unfold addFile at added
      split at added
      · cases added
      · rw [ih added, List.append_assoc]
        rfl

theorem loadFiles_eq_ok {loaded policies : List Policy} {paths : List String}
    (read : loadFiles tree loaded paths = .ok policies) :
    policies = loaded ++ paths.flatMap (listedAt tree) := by
  induction paths generalizing loaded with
  | nil =>
      cases read
      exact (List.append_nil _).symm
  | cons first rest ih =>
      obtain ⟨own, ownLoaded, others⟩ := bind_eq_ok_iff.1 read
      obtain ⟨grown, added, restLoaded⟩ := bind_eq_ok_iff.1 others
      rw [ih restLoaded, addFile_eq_ok added, PolicyFile.loadAt_eq_ok ownLoaded,
        List.append_assoc]
      rfl

theorem reports_loadFiles (tree : FileTree) (earlier paths : List String) :
    Reports (loadFiles tree (earlier.flatMap (listedAt tree)) paths)
      (eachBehind (fileRequirements tree) earlier paths) := by
  induction paths generalizing earlier with
  | nil => exact .ok _
  | cons first rest ih =>
      have firstReported := PolicyFile.reports_loadAt tree first
      unfold loadFiles eachBehind fileRequirements
      rw [List.append_assoc]
      apply firstReported.bind
      intro own ownLoaded
      cases PolicyFile.loadAt_eq_ok ownLoaded
      have loads : LoadsAt tree first :=
        PolicyFile.met_requirementsAt.1 (firstReported.exists_ok_iff.1 ⟨_, ownLoaded⟩)
      have distinct : (([] ++ listedAt tree first).map Policy.id).Nodup := nodup_listedAt loads
      have addedReported := reports_addFile first (earlier.flatMap (listedAt tree)) [] distinct
      rw [List.append_nil] at addedReported
      apply addedReported.bind
      intro grown added
      have before : grown = (earlier ++ [first]).flatMap (listedAt tree) := by
        rw [addFile_eq_ok added, List.flatMap_append, List.flatMap_singleton]
      rw [before]
      exact ih (earlier ++ [first])

theorem loadFiles_eq_ok_iff {paths : List String} (policies : List Policy) :
    loadFiles tree [] paths = .ok policies ↔
      WellFormed tree paths ∧ policies = paths.flatMap (listedAt tree) := by
  have reported := reports_loadFiles tree [] paths
  constructor
  · intro loaded
    exact ⟨met_eachBehind_nil.1 (reported.exists_ok_iff.1 ⟨policies, loaded⟩),
      loadFiles_eq_ok loaded⟩
  · rintro ⟨wellFormed, rfl⟩
    obtain ⟨policies, loaded⟩ := reported.exists_ok_iff.2 (met_eachBehind_nil.2 wellFormed)
    have same : policies = paths.flatMap (listedAt tree) := loadFiles_eq_ok loaded
    rwa [same] at loaded

/-- Else what is reported is the first fault of the first file that is not as required behind those
before it. -/
theorem loadFiles_eq_error_iff {paths : List String} (failure : Failure) :
    loadFiles tree [] paths = .error failure ↔
      ∃ earlier path later, paths = earlier ++ path :: later ∧ WellFormed tree earlier ∧
        FirstViolated failure (fileRequirements tree earlier path) := by
  have reported := reports_loadFiles tree [] paths
  refine (reported.eq_error_iff failure).trans ?_
  rw [firstViolated_eachBehind_iff]
  simp only [met_eachBehind_nil, List.nil_append]

theorem loadFiles_congr {otherTree : FileTree} {loaded : List Policy} {paths : List String}
    (same : ∀ path ∈ paths, otherTree.entry? path = tree.entry? path) :
    loadFiles otherTree loaded paths = loadFiles tree loaded paths := by
  induction paths generalizing loaded with
  | nil => rfl
  | cons first rest ih =>
      have sameFirst : PolicyFile.loadAt otherTree first = PolicyFile.loadAt tree first := by
        unfold PolicyFile.loadAt
        rw [same first List.mem_cons_self]
      have sameRest : ∀ grown, loadFiles otherTree grown rest = loadFiles tree grown rest := by
        intro grown
        apply ih
        intro path member
        exact same path (List.mem_cons_of_mem _ member)
      unfold loadFiles
      rw [sameFirst]
      simp only [sameRest]

/-! ## Directories -/

def filePaths (tree : FileTree) (directory : String) (names : List String) : List String :=
  (fileNames tree directory names).map (FileTree.join directory)

theorem load_eq (isDirectory : tree.entry? directory = some (.directory names)) :
    load tree directory = loadFiles tree [] (filePaths tree directory names) := by
  unfold load
  rw [isDirectory]
  rfl

/-- What it means that the names in a directory say what is loaded from it. -/
structure LoadsExactly (tree : FileTree) (directory : String) (names : List String) : Prop where
  /-- A policy file is a file whose name has one of two extensions. -/
  chosen : ∀ name, isPolicyFile tree directory name = true ↔
    (∃ stem, stem ≠ "" ∧ (name = stem ++ ".yaml" ∨ name = stem ++ ".yml")) ∧
      tree.isFile (FileTree.join directory name) = true
  /-- Each policy file is read, in the order of the bytes of their names. -/
  ordered : (fileNames tree directory names).Perm (names.filter (isPolicyFile tree directory)) ∧
    (fileNames tree directory names).Pairwise fun earlier later =>
      Text.BytesBefore earlier later ∨ earlier = later
  /-- The directory is loaded just if they are as required, and then what is loaded are their
  policies, file by file, in the order in which each lists them. -/
  loaded : ∀ policies, load tree directory = .ok policies ↔
    WellFormed tree (filePaths tree directory names) ∧
      policies = (filePaths tree directory names).flatMap (listedAt tree)
  /-- So each has an ID, and no two have the same. -/
  identified : ∀ policies, load tree directory = .ok policies →
    (∀ policy ∈ policies, policy.id ≠ "") ∧ (policies.map Policy.id).Nodup
  /-- Else what is reported is the first fault of the first file that is not as required behind
  those before it. -/
  refused : ∀ failure, load tree directory = .error failure ↔
    ∃ earlier path later, filePaths tree directory names = earlier ++ path :: later ∧
      WellFormed tree earlier ∧ FirstViolated failure (fileRequirements tree earlier path)
  /-- Nothing else in the directory makes a difference, nor does the order in which it lists its
  files. -/
  others : ∀ otherTree otherNames,
    FileTree.entry? otherTree directory = some (.directory otherNames) →
    (otherNames.filter (isPolicyFile otherTree directory)).Perm
      (names.filter (isPolicyFile tree directory)) →
    (∀ path ∈ filePaths tree directory names, otherTree.entry? path = tree.entry? path) →
      load otherTree directory = load tree directory

/-- What is loaded from a directory is exactly what its policy files say. -/
theorem loads_exactly (isDirectory : tree.entry? directory = some (.directory names)) :
    LoadsExactly tree directory names := by
  constructor
  case chosen =>
    intro name
    unfold isPolicyFile
    rw [Bool.and_eq_true, isPolicyFileName_iff]
  case ordered =>
    refine ⟨fileNames_perm tree directory names, ?_⟩
    exact fileNames_ascending.imp Text.bytesBefore_or_eq_of_le
  case loaded =>
    intro policies
    rw [load_eq isDirectory]
    exact loadFiles_eq_ok_iff policies
  case identified =>
    intro policies loaded
    rw [load_eq isDirectory, loadFiles_eq_ok_iff] at loaded
    obtain ⟨wellFormed, rfl⟩ := loaded
    exact ⟨wellFormed.id_ne_empty, wellFormed.distinct⟩
  case refused =>
    intro failure
    rw [load_eq isDirectory]
    exact loadFiles_eq_error_iff failure
  case others =>
    intro otherTree otherNames otherDirectory sameNames sameFiles
    have samePaths : filePaths otherTree directory otherNames = filePaths tree directory names := by
      have reordered := sameNames.trans (fileNames_perm tree directory names).symm
      unfold filePaths
      rw [fileNames_eq_of_ascending reordered fileNames_ascending]
    rw [load_eq isDirectory, load_eq otherDirectory, samePaths]
    exact loadFiles_congr sameFiles

def fileOf (id : String) : String :=
  "version: '1.0'\npolicies:\n- id: " ++ id ++ "\n  name: Privileged\n  severity: LOW\n"

/-- A directory with two policy files, a note, and a directory with the name of a policy file. -/
def mixedDirectory : FileTree where
  entry?
    | "policies" => some (.directory ["second.yml", "notes.txt", "old.yaml", "first.yaml"])
    | "policies/second.yml" => some (.file (fileOf "p2"))
    | "policies/notes.txt" => some (.file "no policies")
    | "policies/old.yaml" => some (.directory [])
    | "policies/first.yaml" => some (.file (fileOf "p1"))
    | _ => none

/-- The two files are loaded, and nothing else. -/
theorem mixedDirectory_loads_exactly :
    let names := ["second.yml", "notes.txt", "old.yaml", "first.yaml"]
    mixedDirectory.entry? "policies" = some (.directory names) ∧
      LoadsExactly mixedDirectory "policies" names ∧
      (load mixedDirectory "policies").toOption.map (List.map Policy.id) = some ["p1", "p2"] := by
  intro names
  have ordered : fileNames mixedDirectory "policies" names = ["first.yaml", "second.yml"] :=
    fileNames_eq_of_ascending (by decide +kernel) (by decide +kernel)
  refine ⟨rfl, loads_exactly rfl, ?_⟩
  rw [load_eq rfl, filePaths, ordered]
  decide +kernel

end PolicyWatch.PolicyDirectory
