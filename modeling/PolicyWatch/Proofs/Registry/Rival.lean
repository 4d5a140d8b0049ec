import PolicyWatch.Proofs.CompiledPolicy.Description
import PolicyWatch.Proofs.CompiledPolicy.Meaning

/-!
# Rivals

While a store writes a policy, rivals may install newer versions of that policy
or remove it.  What they do may depend on all calls of the store so far: it is
described by a function of these.  Main statements: a rival changes the entry
under the one ID only, and puts another entry there just if something that it
does takes effect.
-/

namespace PolicyWatch

def Policy.under (policy : Policy) (id : String) : Policy :=
  { policy with id }

/-- What rivals may do to the policy under an ID. -/
inductive Interference where
  | install (policy : Policy)
  | remove

namespace Interference

/-- Whether it takes effect.  A policy that does not compile is not installed. -/
def TakesEffect [SizeLimit] (supply : LabelSupply) (id : String) : Interference → Prop
  | install policy => ∃ compiled, CompiledPolicy.compile supply (policy.under id) = .ok compiled
  | remove => True

def versionAfter [SizeLimit] (supply : LabelSupply) (id : String)
    (version : Option CompiledPolicy) :
    Interference → Option CompiledPolicy
  | install policy =>
      match CompiledPolicy.compile supply (policy.under id) with
      | .ok compiled => some compiled
      | .error _ => version
  | remove => none

end Interference

namespace Registry

def version (registry : Registry) (id : String) : Option CompiledPolicy :=
  (registry.find? id).map Entry.compiled

def disturb [SizeLimit] (id : String) (registry : Registry) : Interference → Registry
  | .install policy =>
      match registry.upsert (policy.under id) with
      | .ok changed => changed
      | .error _ => registry
  | .remove => registry.remove id

/-- Let interferences with an ID happen in order. -/
def interfere [SizeLimit] (registry : Registry) (id : String) (acts : List Interference) :
    Registry :=
  acts.foldl (disturb id) registry

/-- Whether every entry is the compilation of its own policy. -/
def Coherent [SizeLimit] (registry : Registry) : Prop :=
  ∀ entry ∈ registry.entries,
    CompiledPolicy.compile registry.supply entry.compiled.policy = .ok entry.compiled

variable {registry changed : Registry} {id : String} {entry : Entry} {compiled : CompiledPolicy}

theorem Coherent.of_perm [SizeLimit] (coherent : registry.Coherent)
    (sameSupply : changed.supply = registry.supply)
    (sameEntries : changed.entries.Perm registry.entries) : changed.Coherent := by
  intro entry member
  rw [sameSupply]
  exact coherent entry (sameEntries.mem_iff.1 member)

theorem id_of_find? (found : registry.find? id = some entry) : entry.id = id := by
  have same := @List.find?_some _ (fun entry : Entry => entry.id == id) _ _ found
  exact beq_iff_eq.1 same

theorem mem_of_find? (found : registry.find? id = some entry) : entry ∈ registry.entries :=
  List.mem_of_find?_eq_some found

theorem stamp_lt_of_find? (found : registry.find? id = some entry) :
    entry.stamp < registry.nextStamp :=
  registry.fresh entry (mem_of_find? found)

theorem mem_ids_iff : id ∈ registry.ids ↔ ∃ entry, registry.find? id = some entry := by
  rw [← Option.isSome_iff_exists]
  unfold ids find?
  rw [List.find?_isSome, List.mem_map]
  simp only [beq_iff_eq]

theorem of_upsert [SizeLimit] {policy : Policy} (installed : registry.upsert policy = .ok changed) :
    ∃ compiled, CompiledPolicy.compile registry.supply policy = .ok compiled ∧
      changed = registry.insert compiled := by
  obtain ⟨compiled, made, same⟩ := Checks.bind_eq_ok_iff.1 installed
  exact ⟨compiled, made, (Checks.pure_eq_ok_iff.1 same).symm⟩

theorem disturb_install_of_ok [SizeLimit] {policy : Policy}
    (made : CompiledPolicy.compile registry.supply (policy.under id) = .ok compiled) :
    registry.disturb id (.install policy) = registry.insert compiled := by
  simp only [disturb, upsert_of_ok made]

theorem disturb_install_of_error [SizeLimit] {policy : Policy} {error : CompileError}
    (refused : CompiledPolicy.compile registry.supply (policy.under id) = .error error) :
    registry.disturb id (.install policy) = registry := by
  simp only [disturb, upsert_of_error refused]

/-! ## Changes under one ID -/

structure ChangedAt [SizeLimit] (id : String) (before after : Registry) : Prop where
  supply : after.supply = before.supply
  stamps : before.nextStamp ≤ after.nextStamp
  others : ∀ other, other ≠ id → after.find? other = before.find? other
  coherent : before.Coherent → after.Coherent

namespace ChangedAt

theorem refl [SizeLimit] (id : String) (registry : Registry) : ChangedAt id registry registry :=
  ⟨rfl, Nat.le_refl _, fun _ _ => rfl, fun coherent => coherent⟩

theorem trans [SizeLimit] {before between after : Registry} (first : ChangedAt id before between)
    (second : ChangedAt id between after) : ChangedAt id before after where
  supply := second.supply.trans first.supply
  stamps := Nat.le_trans first.stamps second.stamps
  others other apart := (second.others other apart).trans (first.others other apart)
  coherent before := second.coherent (first.coherent before)

theorem insert [SizeLimit] {policy : Policy}
    (made : CompiledPolicy.compile registry.supply policy = .ok compiled) :
    ChangedAt policy.id registry (registry.insert compiled) := by
  have same : compiled.policy = policy := (CompiledPolicy.of_compile made).1
  have sameId : compiled.id = policy.id := congrArg Policy.id same
  refine ⟨rfl, Nat.le_succ _, ?_, ?_⟩
  · intro other apart
    rw [find?_insert, if_neg (fun isOther => apart (isOther.symm.trans sameId))]
  · intro coherent entry member
    rcases List.mem_cons.1 member with rfl | kept
    · change CompiledPolicy.compile registry.supply compiled.policy = .ok compiled
      rw [same, made]
    · exact coherent entry (List.mem_filter.1 kept).1

theorem of_upsert [SizeLimit] {policy : Policy} (installed : registry.upsert policy = .ok changed) :
    ChangedAt policy.id registry changed := by
  obtain ⟨compiled, made, rfl⟩ := Registry.of_upsert installed
  exact .insert made

theorem remove [SizeLimit] (registry : Registry) (id : String) :
    ChangedAt id registry (registry.remove id) := by
  refine ⟨rfl, Nat.le_refl _, ?_, ?_⟩
  · intro other apart
    rw [find?_remove, if_neg (Ne.symm apart)]
  · intro coherent entry member
    exact coherent entry (List.mem_filter.1 member).1

theorem disturb [SizeLimit] (registry : Registry) (id : String) (act : Interference) :
    ChangedAt id registry (registry.disturb id act) := by
  cases act with
  | remove => exact .remove registry id
  | install policy =>
      cases made : CompiledPolicy.compile registry.supply (policy.under id) with
      | ok compiled =>
          rw [disturb_install_of_ok made]
          exact .insert made
      | error =>
          rw [disturb_install_of_error made]
          exact .refl id registry

theorem interfere [SizeLimit] (registry : Registry) (id : String) (acts : List Interference) :
    ChangedAt id registry (registry.interfere id acts) := by
  unfold Registry.interfere
  induction acts generalizing registry with
  | nil => exact .refl id registry
  | cons act rest ih => exact (disturb registry id act).trans (ih (registry.disturb id act))

end ChangedAt

/-! ## What interference leaves under its ID -/

theorem version_disturb [SizeLimit] (registry : Registry) (id : String) (act : Interference) :
    (registry.disturb id act).version id =
      act.versionAfter registry.supply id (registry.version id) := by
  cases act with
  | remove =>
      unfold version disturb Interference.versionAfter
      rw [find?_remove, if_pos rfl]
      rfl
  | install policy =>
      cases made : CompiledPolicy.compile registry.supply (policy.under id) with
      | ok compiled =>
          have sameId : compiled.id = id :=
            congrArg Policy.id (CompiledPolicy.of_compile made).1
          rw [disturb_install_of_ok made, version, find?_insert, if_pos sameId]
          simp only [Interference.versionAfter, made, Option.map_some]
      | error =>
          rw [disturb_install_of_error made]
          simp only [Interference.versionAfter, made]

theorem version_interfere [SizeLimit] (registry : Registry) (id : String)
    (acts : List Interference) :
    (registry.interfere id acts).version id =
      acts.foldl (Interference.versionAfter registry.supply id) (registry.version id) := by
  unfold interfere
  induction acts generalizing registry with
  | nil => rfl
  | cons act rest ih =>
      rw [List.foldl_cons, ih, version_disturb, (ChangedAt.disturb registry id act).supply,
        List.foldl_cons]

theorem disturb_of_not_takesEffect [SizeLimit] {act : Interference}
    (idle : ¬ act.TakesEffect registry.supply id) : registry.disturb id act = registry := by
  cases act with
  | remove => exact absurd trivial idle
  | install policy =>
      cases made : CompiledPolicy.compile registry.supply (policy.under id) with
      | ok compiled => exact absurd ⟨compiled, made⟩ idle
      | error => exact disturb_install_of_error made

theorem le_stamp_of_takesEffect [SizeLimit] {act : Interference}
    (effective : act.TakesEffect registry.supply id)
    (left : (registry.disturb id act).find? id = some entry) :
    registry.nextStamp ≤ entry.stamp := by
  cases act with
  | remove =>
      unfold disturb at left
      rw [find?_remove, if_pos rfl] at left
      cases left
  | install policy =>
      obtain ⟨compiled, made⟩ := effective
      have sameId : compiled.id = id :=
        congrArg Policy.id (CompiledPolicy.of_compile made).1
      rw [disturb_install_of_ok made, find?_insert, if_pos sameId] at left
      cases left
      exact Nat.le_refl _

theorem interfere_cases [SizeLimit] (registry : Registry) (id : String) (acts : List Interference) :
    ((∀ act ∈ acts, ¬ act.TakesEffect registry.supply id) ∧
        registry.interfere id acts = registry) ∨
      ((∃ act ∈ acts, act.TakesEffect registry.supply id) ∧
        ∀ entry, (registry.interfere id acts).find? id = some entry →
          registry.nextStamp ≤ entry.stamp) := by
  unfold interfere
  induction acts generalizing registry with
  | nil => exact .inl ⟨by simp, rfl⟩
  | cons act rest ih =>
      have frame := ChangedAt.disturb registry id act
      rw [List.foldl_cons]
      by_cases effective : act.TakesEffect registry.supply id
      · refine .inr ⟨⟨act, List.mem_cons_self, effective⟩, ?_⟩
        intro entry left
        rcases ih (registry.disturb id act) with ⟨_, same⟩ | ⟨_, new⟩
        · rw [same] at left
          exact le_stamp_of_takesEffect effective left
        · exact Nat.le_trans frame.stamps (new entry left)
      · have idle := disturb_of_not_takesEffect effective
        rw [idle]
        rcases ih registry with ⟨none, same⟩ | ⟨⟨later, member, takes⟩, new⟩
        · exact .inl ⟨List.forall_mem_cons.2 ⟨effective, none⟩, same⟩
        · exact .inr ⟨⟨later, List.mem_cons_of_mem _ member, takes⟩, new⟩

end Registry

/-! ## Stores with rivals -/

/-- A call of a store: the policy written, what rivals did meanwhile, the answer,
and the entry under the ID of the policy before and afterwards. -/
structure StoreCall where
  policy : Policy
  acts : List Interference
  result : Except Failure Unit
  found : Option Entry
  left : Option Entry

namespace StoreCall

/-- Whether the entry that was found is not the one that is left. -/
def disturbed (call : StoreCall) : Bool :=
  call.left.map Entry.stamp != call.found.map Entry.stamp

/-- Why the store failed, if it did. -/
def failure? (call : StoreCall) : Option Failure :=
  match call.result with
  | .ok () => none
  | .error failure => some failure

def content (call : StoreCall) : Policy × List Interference × Except Failure Unit :=
  (call.policy, call.acts, call.result)

end StoreCall

def callsFor (id : String) (calls : List StoreCall) : List StoreCall :=
  calls.filter fun call => call.policy.id == id

/-- What rivals do and what the store answers, at every call after every history. -/
structure Rival where
  answer : List StoreCall → Policy → List Interference × Except Failure Unit

namespace Rival

def call [SizeLimit] (rival : Rival) (policy : Policy) (registry : Registry)
    (earlier : List StoreCall) :
    StoreCall :=
  let (acts, result) := rival.answer earlier policy
  ⟨policy, acts, result,
    registry.find? policy.id, (registry.interfere policy.id acts).find? policy.id⟩

def store [SizeLimit] (rival : Rival) : PolicyStore (List StoreCall) where
  update policy registry earlier :=
    let call := rival.call policy registry earlier
    (call.result, registry.interfere policy.id call.acts, earlier ++ [call])

/-- Whether rivals do the same to an ID, and the stores answer the same, as long as
the calls about that ID are the same. -/
def AgreesOn (id : String) (left right : Rival) : Prop :=
  ∀ earlier other policy, policy.id = id →
    (callsFor id earlier).map StoreCall.content = (callsFor id other).map StoreCall.content →
      left.answer earlier policy = right.answer other policy

end Rival

end PolicyWatch
