import Mathlib.Data.List.Nodup
import PolicyWatch.Proofs.Detector.Evaluation
import PolicyWatch.Proofs.Policy.Directory
import PolicyWatch.Proofs.Registry.Rival

/-!
# The detector registers what compiles

Which policies a detector holds.  Main statement: of policies that were loaded the detector holds
just those that compile, each under its own ID, the others are counted, and a run that checks the
policies succeeds just if there are no others.
-/

namespace PolicyWatch

theorem nodup_ids_of_loadPolicies {tree : FileTree} {path : String} {policies : List Policy}
    (loaded : loadPolicies tree path = .ok policies) : (policies.map Policy.id).Nodup := by
  unfold loadPolicies at loaded
  split at loaded
  · rename_i isDirectory
    unfold FileTree.isDirectory at isDirectory
    split at isDirectory
    · rename_i names isListed
      rw [PolicyDirectory.load_eq isListed, PolicyDirectory.loadFiles_eq_ok_iff] at loaded
      obtain ⟨wellFormed, rfl⟩ := loaded
      exact wellFormed.distinct
    · cases isDirectory
  · have reported := PolicyFile.reports_loadAt tree path
    have loads := PolicyFile.met_requirementsAt.1 (reported.exists_ok_iff.1 ⟨policies, loaded⟩)
    rw [PolicyFile.loadAt_eq_ok loaded]
    exact PolicyDirectory.nodup_listedAt loads

namespace Registry

variable {registry : Registry} {compiled : CompiledPolicy}

/-- A policy under a new ID takes the place of none. -/
theorem entries_insert_of_not_mem (isNew : compiled.id ∉ registry.ids) :
    (registry.insert compiled).entries = ⟨registry.nextStamp, compiled⟩ :: registry.entries := by
  have kept : others registry.entries compiled.id = registry.entries := by
    refine List.filter_eq_self.2 fun entry member => bne_iff_ne.2 ?_
    intro same
    exact isNew (same ▸ List.mem_map_of_mem member)
  exact congrArg (⟨registry.nextStamp, compiled⟩ :: ·) kept

theorem compiled_of_find?_eq_some_iff (registry : Registry) (id : String)
    (compiled : CompiledPolicy) :
    (registry.find? id).map Entry.compiled = some compiled ↔
      compiled ∈ registry.entries.map Entry.compiled ∧ compiled.id = id := by
  constructor
  · intro found
    obtain ⟨entry, isFound, rfl⟩ := Option.map_eq_some_iff.1 found
    exact ⟨List.mem_map_of_mem (mem_of_find? isFound), id_of_find? isFound⟩
  · rintro ⟨held, rfl⟩
    obtain ⟨entry, member, rfl⟩ := List.mem_map.1 held
    obtain ⟨other, isFound⟩ := mem_ids_iff.1 (List.mem_map_of_mem member)
    have same : other = entry :=
      List.inj_on_of_nodup_map registry.distinct (mem_of_find? isFound) member
        (id_of_find? isFound)
    rw [Option.map_eq_some_iff]
    exact ⟨other, isFound, congrArg Entry.compiled same⟩

end Registry

namespace Detector

/-! ## Installing policies -/

def compiledOf [SizeLimit] (supply : LabelSupply) (policies : List Policy) : List CompiledPolicy :=
  policies.filterMap fun policy => (CompiledPolicy.compile supply policy).toOption

theorem mem_compiledOf_iff [SizeLimit] {supply : LabelSupply} {policies : List Policy}
    {compiled : CompiledPolicy} :
    compiled ∈ compiledOf supply policies ↔
      ∃ policy ∈ policies, CompiledPolicy.compile supply policy = .ok compiled := by
  have made (policy : Policy) : (CompiledPolicy.compile supply policy).toOption = some compiled ↔
      CompiledPolicy.compile supply policy = .ok compiled := by
    cases CompiledPolicy.compile supply policy <;> simp [Except.toOption]
  simp only [compiledOf, List.mem_filterMap, made]

theorem length_compiledOf [SizeLimit] (supply : LabelSupply) (policies : List Policy) :
    (compiledOf supply policies).length = policies.countP (compiles supply) := by
  have compiled : (fun policy => (CompiledPolicy.compile supply policy).toOption.isSome) =
      compiles supply := by
    funext policy
    unfold compiles
    cases CompiledPolicy.compile supply policy <;> rfl
  rw [compiledOf, List.length_filterMap_eq_countP, compiled]

def countFaulty [SizeLimit] (supply : LabelSupply) (policies : List Policy) : Nat :=
  policies.countP fun policy => !compiles supply policy

theorem countFaulty_eq_zero_iff [SizeLimit] {supply : LabelSupply} {policies : List Policy} :
    countFaulty supply policies = 0 ↔ ∀ policy ∈ policies, compiles supply policy = true := by
  unfold countFaulty
  rw [List.countP_eq_zero]
  simp

theorem countFaulty_add_length [SizeLimit] (supply : LabelSupply) (policies : List Policy) :
    countFaulty supply policies + (compiledOf supply policies).length = policies.length := by
  have parted := List.length_eq_countP_add_countP (compiles supply) (l := policies)
  have faulty : policies.countP (fun policy => decide ¬compiles supply policy = true) =
      countFaulty supply policies := by
    unfold countFaulty
    simp
  rw [length_compiledOf, parted, faulty, Nat.add_comm]

section Register

variable {policy : Policy} {policies : List Policy} {registry : Registry}

theorem register_of_ok [SizeLimit] {compiled : CompiledPolicy}
    (made : CompiledPolicy.compile registry.supply policy = .ok compiled) :
    register (policy :: policies) registry = register policies (registry.insert compiled) := by
  rw [register, Registry.upsert_of_ok made]

theorem register_of_error [SizeLimit] {fault : CompileError}
    (refused : CompiledPolicy.compile registry.supply policy = .error fault) :
    register (policy :: policies) registry =
      ((register policies registry).1, (register policies registry).2 + 1) := by
  rw [register, Registry.upsert_of_error refused]

/-- What is registered can be told by what compiles: policies whose IDs are distinct and new are
all installed, but for those that do not compile, and these are counted. -/
theorem register_eq [SizeLimit] (distinct : (policies.map Policy.id).Nodup)
    (fresh : ∀ policy ∈ policies, policy.id ∉ registry.ids) :
    (register policies registry).1.supply = registry.supply ∧
      (register policies registry).1.entries.map Entry.compiled =
        (compiledOf registry.supply policies).reverse ++ registry.entries.map Entry.compiled ∧
      (register policies registry).2 = countFaulty registry.supply policies := by
  induction policies generalizing registry with
  | nil => exact ⟨rfl, rfl, rfl⟩
  | cons first rest ih =>
      obtain ⟨firstNew, restDistinct⟩ := List.nodup_cons.1 distinct
      have restFresh : ∀ policy ∈ rest, policy.id ∉ registry.ids :=
        fun policy member => fresh policy (List.mem_cons_of_mem first member)
      cases made : CompiledPolicy.compile registry.supply first with
      | ok compiled =>
          have sameId : compiled.id = first.id :=
            congrArg Policy.id (CompiledPolicy.of_compile made).1
          have isNew : compiled.id ∉ registry.ids :=
            sameId ▸ fresh first List.mem_cons_self
          have entries := Registry.entries_insert_of_not_mem isNew
          have stillFresh : ∀ policy ∈ rest, policy.id ∉ (registry.insert compiled).ids := by
            intro policy member known
            unfold Registry.ids at known
            rw [entries, List.map_cons] at known
            rcases List.mem_cons.1 known with same | earlier
            · have isFirst : policy.id = first.id := same.trans sameId
              exact firstNew (isFirst ▸ List.mem_map_of_mem member)
            · exact restFresh policy member earlier
          obtain ⟨supplied, installed, counted⟩ := ih restDistinct stillFresh
          rw [register_of_ok made]
          refine ⟨supplied, ?_, ?_⟩
          · rw [installed, entries]
            simp [compiledOf, Registry.insert, made, Except.toOption]
          · rw [counted]
            simp [countFaulty, compiles, Registry.insert, made, Except.isOk, Except.toBool]
      | error fault =>
          obtain ⟨supplied, installed, counted⟩ := ih restDistinct restFresh
          rw [register_of_error made]
          refine ⟨supplied, ?_, ?_⟩
          · rw [installed]
            simp [compiledOf, made, Except.toOption]
          · rw [counted]
            simp [countFaulty, compiles, made, Except.isOk, Except.toBool]

end Register

/-! ## Checking policies -/

/-- Whether a run is asked to check policies that were read, with labels of the settings. -/
def Invocation.ChecksPolicies (invocation : Invocation) (labels : LabelSettings)
    (policies : List Policy) : Prop :=
  ∃ request settings, CommandLine.parse invocation.words = .ok request ∧
    settle invocation.files request = .ok settings ∧ settings.labels = labels ∧
    loadPolicies invocation.files settings.policies = .ok policies ∧ request.command = .check

theorem ending_check (detector : Detector) (failed : Nat) :
    (detector.check failed).ending =
      if failed = 0 then .success
      else .failure (.ofMessage (toString failed ++ " policies failed to compile")) := by
  unfold check
  split <;> rfl

theorem Invocation.ChecksPolicies.ending_eq [SizeLimit] {invocation : Invocation}
    {labels : LabelSettings}
    {policies : List Policy} (checks : invocation.ChecksPolicies labels policies) (now : Instant) :
    (invocation.report now).ending =
      if (ofPolicies labels now policies).2 = 0 then .success
      else .failure (.ofMessage
        (toString (ofPolicies labels now policies).2 ++ " policies failed to compile")) := by
  obtain ⟨request, settings, parsed, settled, rfl, loaded, command⟩ := checks
  rw [(report_of_loaded parsed settled loaded now).1, command]
  exact ending_check _ _

/-- What it means that the detector of policies registers those that compile. -/
structure RegistersExactly [SizeLimit] (labels : LabelSettings) (policies : List Policy)
    (now : Instant) :
    Prop where
  /-- It holds the policies that compile with both kinds of labels to look up, as compiled, and no
  others. -/
  held : ((ofPolicies labels now policies).1.registry.entries.map Entry.compiled).Perm
    (compiledOf .full policies)
  /-- Each is found under its own ID, and nothing else is found. -/
  found : ∀ id compiled,
    ((ofPolicies labels now policies).1.registry.find? id).map Entry.compiled = some compiled ↔
      ∃ policy ∈ policies, policy.id = id ∧ CompiledPolicy.compile .full policy = .ok compiled
  /-- The labels looked up are those of the settings. -/
  labelled : (ofPolicies labels now policies).1.registry.supply = .full ∧
    (ofPolicies labels now policies).1.answers = labels.answers
  /-- The others have no part in it: other policies of which the same compile make the same
  detector. -/
  undisturbed : ∀ others, others.filter (compiles .full) = policies.filter (compiles .full) →
    (ofPolicies labels now others).1 = (ofPolicies labels now policies).1
  /-- They are counted, so that none of the policies is missed. -/
  counted : (ofPolicies labels now policies).2 = countFaulty .full policies ∧
    (ofPolicies labels now policies).2 + (ofPolicies labels now policies).1.registry.size =
      policies.length
  /-- A run that checks the policies succeeds just if each compiles. -/
  checked : ∀ invocation, Invocation.ChecksPolicies invocation labels policies →
    ((invocation.report now).ending = .success ↔
      ∀ policy ∈ policies, ∃ compiled, CompiledPolicy.compile .full policy = .ok compiled)
  /-- Else it fails with the number of those that do not. -/
  refused : ∀ invocation, Invocation.ChecksPolicies invocation labels policies →
    (∃ policy ∈ policies, ∃ fault, CompiledPolicy.compile .full policy = .error fault) →
      (invocation.report now).ending = .failure (.ofMessage
        (toString (countFaulty .full policies) ++ " policies failed to compile"))

theorem compiles_iff [SizeLimit] {supply : LabelSupply} {policy : Policy} :
    compiles supply policy = true ↔
      ∃ compiled, CompiledPolicy.compile supply policy = .ok compiled := by
  unfold compiles
  cases CompiledPolicy.compile supply policy <;> simp [Except.isOk, Except.toBool]

/-- The detector of policies that were loaded registers those that compile, whatever the labels
are. -/
theorem registers_exactly [SizeLimit] {tree : FileTree} {path : String} {policies : List Policy}
    (loaded : loadPolicies tree path = .ok policies) (labels : LabelSettings) (now : Instant) :
    RegistersExactly labels policies now := by
  obtain ⟨supplied, installed, counted⟩ :
      (ofPolicies labels now policies).1.registry.supply = .full ∧
        (ofPolicies labels now policies).1.registry.entries.map Entry.compiled =
          (compiledOf .full policies).reverse ++ [] ∧
        (ofPolicies labels now policies).2 = countFaulty .full policies :=
    register_eq (nodup_ids_of_loadPolicies loaded) fun _ _ => List.not_mem_nil
  rw [List.append_nil] at installed
  constructor
  case held =>
    rw [installed]
    exact List.reverse_perm _
  case found =>
    intro id compiled
    rw [Registry.compiled_of_find?_eq_some_iff, installed, List.mem_reverse, mem_compiledOf_iff]
    constructor
    · rintro ⟨⟨policy, listed, made⟩, rfl⟩
      exact ⟨policy, listed, (congrArg Policy.id (CompiledPolicy.of_compile made).1).symm, made⟩
    · rintro ⟨policy, listed, rfl, made⟩
      exact ⟨⟨policy, listed, made⟩, congrArg Policy.id (CompiledPolicy.of_compile made).1⟩
  case labelled => exact ⟨supplied, rfl⟩
  case undisturbed =>
    intro others same
    rw [← ofPolicies_filter_compiles, same, ofPolicies_filter_compiles]
  case counted =>
    refine ⟨counted, ?_⟩
    have size := congrArg List.length installed
    rw [List.length_map, List.length_reverse] at size
    rw [counted, Registry.size, size, countFaulty_add_length]
  case checked =>
    intro invocation checks
    rw [checks.ending_eq now, counted]
    simp only [← compiles_iff, ← countFaulty_eq_zero_iff]
    split
    · rename_i noFaults
      exact iff_of_true rfl noFaults
    · rename_i faults
      exact iff_of_false RunEnd.noConfusion faults
  case refused =>
    rintro invocation checks ⟨policy, listed, fault, refused⟩
    have faults : countFaulty .full policies ≠ 0 := by
      intro noFaults
      obtain ⟨compiled, made⟩ := compiles_iff.1 (countFaulty_eq_zero_iff.1 noFaults policy listed)
      cases made.symm.trans refused
    rw [checks.ending_eq now, counted, if_neg faults]

/-- A run that checks two policies. -/
def checking : Invocation :=
  { evaluating "" with words := ["--policies", "policies.yaml", "check"] }

/-- Of a policy that compiles and one that does not, the first is registered, and the check fails
for the other. -/
theorem registers_exactly_one_of_two :
    let policies := [noReplicas, noSections]
    let now : Instant := ⟨2024, 2, 29, 12, 0, 0, 0⟩
    loadPolicies checking.files "policies.yaml" = .ok policies ∧
      RegistersExactly .default policies now ∧
      (ofPolicies .default now policies).1.registry.ids = ["p1"] ∧
      checking.ChecksPolicies .default policies ∧
      (checking.report now).ending = .failure (.ofMessage "1 policies failed to compile") := by
  intro policies now
  have loaded : loadPolicies checking.files "policies.yaml" = .ok policies := by decide +kernel
  have exactly := registers_exactly loaded .default now
  have checks : checking.ChecksPolicies .default policies := ⟨_, _, rfl, rfl, rfl, loaded, rfl⟩
  have oneFaulty : countFaulty .full policies = 1 := by decide +kernel
  have listed : noSections ∈ policies := List.mem_cons_of_mem _ List.mem_cons_self
  refine ⟨loaded, exactly, by decide +kernel, checks, ?_⟩
  rw [exactly.refused checking checks ⟨noSections, listed, _, rfl⟩, oneFaulty]
  rfl

end Detector

end PolicyWatch
