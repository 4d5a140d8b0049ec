import PolicyWatch.PolicyDirectory
import PolicyWatch.Proofs.Checks

/-!
# Policy files are checked in order

What is required of a policy file.  Main statement: a file is loaded just if it is read, has the
known version, and its policies have IDs of their own and names, and else what is reported is the
first of these that it lacks.
-/

namespace PolicyWatch.PolicyFile

open Checks

/-! ## What is required -/

/-- What is required of a policy behind others: an ID, a name, and that none of the others has its
ID. -/
def policyRequirements (earlier : List Policy) (policy : Policy) : List (Requirement Failure) :=
  [⟨policy.id ≠ "", .ofMessage "policy id must not be empty"⟩,
    ⟨policy.name ≠ "", .ofMessage ("policy '" ++ policy.id ++ "' has an empty name")⟩,
    ⟨policy.id ∉ earlier.map Policy.id,
      .ofMessage ("duplicate policy id: '" ++ policy.id ++ "'")⟩]

/-- What is required of a policy file: the version first, then each policy in order. -/
def requirements (file : PolicyFile) : List (Requirement Failure) :=
  ⟨file.version = "1.0", .ofMessage ("unsupported policy version '" ++ file.version ++
      "'; only '1.0' is supported")⟩ ::
    eachBehind policyRequirements [] file.policies

structure WellFormed (file : PolicyFile) : Prop where
  version : file.version = "1.0"
  identified : ∀ policy ∈ file.policies, policy.id ≠ ""
  named : ∀ policy ∈ file.policies, policy.name ≠ ""
  distinct : (file.policies.map Policy.id).Nodup

theorem met_policyRequirements {earlier policies : List Policy} :
    Met (eachBehind policyRequirements earlier policies) ↔
      (∀ policy ∈ policies, policy.id ≠ "") ∧ (∀ policy ∈ policies, policy.name ≠ "") ∧
        (policies.map Policy.id).Nodup ∧
        ∀ policy ∈ policies, policy.id ∉ earlier.map Policy.id := by
  induction policies generalizing earlier with
  | nil => simp [eachBehind]
  | cons first rest ih =>
      simp only [eachBehind, policyRequirements, met_append, met_cons, met_nil, ih,
        List.forall_mem_cons, List.map_cons, List.nodup_cons, List.map_append, List.mem_append,
        List.map_nil, List.mem_singleton, not_or, List.mem_map, not_exists, not_and]
      constructor
      · rintro ⟨⟨identified, named, fresh, -⟩, restIdentified, restNamed, distinct, apart⟩
        refine ⟨⟨identified, restIdentified⟩, ⟨named, restNamed⟩, ⟨?_, distinct⟩, fresh, ?_⟩
        · intro policy member
          exact (apart policy member).2
        · intro policy member
          exact (apart policy member).1
      · rintro ⟨⟨identified, restIdentified⟩, ⟨named, restNamed⟩, ⟨own, distinct⟩, fresh, apart⟩
        refine ⟨⟨identified, named, fresh, trivial⟩, restIdentified, restNamed, distinct, ?_⟩
        intro policy member
        exact ⟨apart policy member, own policy member⟩

theorem met_requirements {file : PolicyFile} : Met file.requirements ↔ file.WellFormed := by
  unfold requirements
  rw [met_cons, met_policyRequirements]
  constructor
  · rintro ⟨version, identified, named, distinct, -⟩
    exact ⟨version, identified, named, distinct⟩
  · rintro ⟨version, identified, named, distinct⟩
    exact ⟨version, identified, named, distinct, fun _ _ => List.not_mem_nil⟩

/-! ## The check -/

theorem reports_checkPolicies {taken : List String} {earlier : List Policy}
    (areTaken : ∀ id, id ∈ taken ↔ id ∈ earlier.map Policy.id) (policies : List Policy) :
    Reports (checkPolicies taken policies) (eachBehind policyRequirements earlier policies) := by
  induction policies generalizing taken earlier with
  | nil => exact .ok ()
  | cons first rest ih =>
      unfold checkPolicies
      apply Reports.guard not_not.symm
      intro identified
      apply Reports.guard not_not.symm
      intro named
      refine Reports.guard ?_ fun fresh => ?_
      · rw [List.contains_iff_mem, areTaken, not_not]
      · apply ih
        intro id
        rw [List.mem_cons, areTaken, List.map_append, List.mem_append, List.map_singleton,
          List.mem_singleton, or_comm]

theorem reports_check (file : PolicyFile) : Reports file.check file.requirements := by
  by_cases known : file.version = knownVersion
  · unfold check
    rw [if_pos known]
    apply Reports.skip known
    have noneTaken : ∀ id, id ∈ [] ↔ id ∈ ([] : List Policy).map Policy.id := fun _ => Iff.rfl
    exact reports_checkPolicies noneTaken file.policies
  · unfold check
    rw [if_neg known]
    exact .refused known

/-! ## Files at paths -/

/-- What is required of the text of a policy file: that a policy file is written there, and what is
required of that. -/
def textRequirements (text : String) : List (Requirement Failure) :=
  match read? text.toList with
  | some file => file.requirements
  | none => [⟨False, .ofMessage "YAML deserialization failed"⟩]

/-- What is required of the file at a path: that it can be read, and what is required of its
text. -/
def requirementsAt (tree : FileTree) (path : String) : List (Requirement Failure) :=
  match tree.entry? path with
  | some (.file text) =>
      (textRequirements text).map
        (.map (Failure.within · ("failed to parse policy file: " ++ path)))
  | some (.spoiled _) =>
      [⟨False, (Failure.ofMessage FileEntry.spoiledFault).within
        ("failed to read policy file: " ++ path)⟩]
  | _ => [⟨False, .ofMessage ("failed to read policy file: " ++ path)⟩]

def LoadsAt (tree : FileTree) (path : String) : Prop :=
  ∃ text file, tree.entry? path = some (.file text) ∧ read? text.toList = some file ∧
    file.WellFormed

def listedAt (tree : FileTree) (path : String) : List Policy :=
  (((tree.text? path).bind fun text => read? text.toList).map PolicyFile.policies).getD []

variable {tree : FileTree} {path text : String} {file : PolicyFile} {policies : List Policy}

theorem listedAt_eq (isFile : tree.entry? path = some (.file text))
    (read : read? text.toList = some file) : listedAt tree path = file.policies := by
  rw [listedAt, FileTree.text?_eq_some_iff.2 isFile, Option.bind_some, read]
  rfl

theorem met_textRequirements :
    Met (textRequirements text) ↔ ∃ file, read? text.toList = some file ∧ file.WellFormed := by
  unfold textRequirements
  cases read? text.toList with
  | none => simp
  | some file => simp [met_requirements]

theorem met_requirementsAt : Met (requirementsAt tree path) ↔ LoadsAt tree path := by
  unfold requirementsAt LoadsAt
  cases tree.entry? path with
  | none => simp
  | some entry =>
      cases entry with
      | file text => simp [met_textRequirements]
      | spoiled front => simp
      | directory names => simp

theorem load_eq_ok (loaded : load text = .ok policies) :
    ∃ file, read? text.toList = some file ∧ file.policies = policies := by
  unfold load at loaded
  cases read : read? text.toList with
  | none =>
      rw [read] at loaded
      cases loaded
  | some file =>
      rw [read] at loaded
      obtain ⟨_, _, same⟩ := bind_eq_ok_iff.1 loaded
      exact ⟨file, rfl, pure_eq_ok_iff.1 same⟩

theorem reports_load (text : String) : Reports (load text) (textRequirements text) := by
  unfold load textRequirements
  cases read? text.toList with
  | none => exact .refused not_false
  | some file => exact (reports_check file).make fun _ => file.policies

theorem loadAt_eq_ok (loaded : loadAt tree path = .ok policies) :
    policies = listedAt tree path := by
  unfold loadAt at loaded
  split at loaded
  · rename_i text isFile
    cases read : load text with
    | ok found =>
        rw [read] at loaded
        cases loaded
        obtain ⟨file, isRead, same⟩ := load_eq_ok read
        rw [listedAt_eq isFile isRead, same]
    | error failure =>
        rw [read] at loaded
        cases loaded
  · cases loaded
  · cases loaded

theorem reports_loadAt (tree : FileTree) (path : String) :
    Reports (loadAt tree path) (requirementsAt tree path) := by
  unfold loadAt requirementsAt
  cases tree.entry? path with
  | none => exact .refused not_false
  | some entry =>
      cases entry with
      | file text => exact (reports_load text).mapError _
      | spoiled front => exact .refused not_false
      | directory names => exact .refused not_false

end PolicyWatch.PolicyFile
