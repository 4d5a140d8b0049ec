import PolicyWatch.CompiledPolicy.Basic
import PolicyWatch.Failure

/-!
# The registry of policies

The registry holds at most one compiled policy under an ID, in no particular
order.  Each entry carries a stamp that no other entry, present or past, has.
-/

namespace PolicyWatch

def CompileError.failure (error : CompileError) : Failure :=
  match error with
  | .invalidGlob _ value fault => ⟨[error.message, fault.report value]⟩
  | .exclusion _ fault => ⟨[error.message, fault.message]⟩
  | _ => ⟨[error.message]⟩

/-- A policy in the registry. -/
structure Entry where
  stamp : Nat
  compiled : CompiledPolicy

def Entry.id (entry : Entry) : String :=
  entry.compiled.id

structure Registry where
  supply : LabelSupply
  entries : List Entry
  nextStamp : Nat
  distinct : (entries.map Entry.id).Nodup := by simp
  fresh : ∀ entry ∈ entries, entry.stamp < nextStamp := by simp

namespace Registry

/-- The registry without policies, given the sources of labels. -/
def empty (supply : LabelSupply) : Registry := ⟨supply, [], 0, by simp, by simp⟩

def find? (registry : Registry) (id : String) : Option Entry :=
  registry.entries.find? fun entry => entry.id == id

def contains (registry : Registry) (id : String) : Bool :=
  (registry.find? id).isSome

def size (registry : Registry) : Nat :=
  registry.entries.length

def ids (registry : Registry) : List String :=
  registry.entries.map Entry.id

def others (entries : List Entry) (id : String) : List Entry :=
  entries.filter fun entry => entry.id != id

theorem not_mem_others (entries : List Entry) (id : String) :
    id ∉ (others entries id).map Entry.id := by
  simp [others]

theorem nodup_others {entries : List Entry} (distinct : (entries.map Entry.id).Nodup)
    (id : String) : ((others entries id).map Entry.id).Nodup :=
  distinct.sublist (List.filter_sublist.map _)

/-- Put a compiled policy under its ID, in place of any policy there. -/
def insert (registry : Registry) (compiled : CompiledPolicy) : Registry where
  supply := registry.supply
  entries := ⟨registry.nextStamp, compiled⟩ :: others registry.entries compiled.id
  nextStamp := registry.nextStamp + 1
  distinct := List.nodup_cons.2
    ⟨not_mem_others registry.entries compiled.id, nodup_others registry.distinct compiled.id⟩
  fresh := by
    intro entry member
    rcases List.mem_cons.1 member with rfl | kept
    · exact Nat.lt_succ_self _
    · exact Nat.lt_succ_of_lt (registry.fresh entry (List.mem_filter.1 kept).1)

def remove (registry : Registry) (id : String) : Registry where
  supply := registry.supply
  entries := others registry.entries id
  nextStamp := registry.nextStamp
  distinct := nodup_others registry.distinct id
  fresh := fun entry member => registry.fresh entry (List.mem_filter.1 member).1

theorem find?_others (entries : List Entry) (removed id : String) :
    (others entries removed).find? (fun entry => entry.id == id) =
      if removed = id then none else entries.find? fun entry => entry.id == id := by
  induction entries with
  | nil => simp [others]
  | cons first rest ih =>
      by_cases isRemoved : first.id = removed
      · by_cases same : removed = id <;> simp_all [others]
      · by_cases isSought : first.id = id
        · have apart : removed ≠ id := fun same => isRemoved (isSought.trans same.symm)
          simp_all [others]
        · simp_all [others]

/-- A policy is found under its own ID; other IDs are unaffected. -/
theorem find?_insert (registry : Registry) (compiled : CompiledPolicy) (id : String) :
    (registry.insert compiled).find? id =
      if compiled.id = id then some ⟨registry.nextStamp, compiled⟩ else registry.find? id := by
  have rest := find?_others registry.entries compiled.id id
  by_cases same : compiled.id = id
  · simp [find?, insert, Entry.id, same]
  · simpa [find?, insert, Entry.id, List.find?_cons, same] using rest

/-- A removed policy is not found; other IDs are unaffected. -/
theorem find?_remove (registry : Registry) (removed id : String) :
    (registry.remove removed).find? id = if removed = id then none else registry.find? id :=
  find?_others registry.entries removed id

/-- Compile a policy and put it under its ID.  A policy that does not compile
changes nothing. -/
def upsert [SizeLimit] (registry : Registry) (policy : Policy) : Except CompileError Registry := do
  return registry.insert (← CompiledPolicy.compile registry.supply policy)

theorem upsert_of_ok [SizeLimit] {registry : Registry} {policy : Policy} {compiled : CompiledPolicy}
    (made : CompiledPolicy.compile registry.supply policy = .ok compiled) :
    registry.upsert policy = .ok (registry.insert compiled) := by
  unfold upsert
  rw [made]
  rfl

theorem upsert_of_error [SizeLimit] {registry : Registry} {policy : Policy} {error : CompileError}
    (refused : CompiledPolicy.compile registry.supply policy = .error error) :
    registry.upsert policy = .error error := by
  unfold upsert
  rw [refused]
  rfl

/-- Put a compiled policy in place of an entry, if that very entry is still
there. -/
def replace? (registry : Registry) (current : Entry) (compiled : CompiledPolicy) :
    Option Registry :=
  match registry.find? current.id with
  | some entry => if entry.stamp = current.stamp then some (registry.insert compiled) else none
  | none => none

end Registry

/-- Why a visit of one policy failed. -/
inductive VisitError where
  | notFound (id : String)
  | failed (failure : Failure)
  deriving DecidableEq, Repr

def VisitError.message : VisitError → String
  | notFound id => "policy with ID not found in set: " ++ id
  | failed failure => failure.messages.head?.getD ""

namespace Registry

variable {σ α : Type}

def visitOne (registry : Registry) (id : String) (visit : CompiledPolicy → Except Failure α) :
    Except VisitError α :=
  match registry.find? id with
  | none => .error (.notFound id)
  | some entry =>
      match visit entry.compiled with
      | .ok value => .ok value
      | .error failure => .error (.failed failure)

/-- Visit policies in order.  A failure does not stop the others. -/
def visitEach (visit : CompiledPolicy → σ → Except Failure Unit × σ) :
    List CompiledPolicy → σ → List Failure × σ
  | [], state => ([], state)
  | compiled :: rest, state =>
      let (result, next) := visit compiled state
      let (failures, last) := visitEach visit rest next
      match result with
      | .ok () => (failures, last)
      | .error failure => (failure.within ("policy '" ++ compiled.id ++ "'") :: failures, last)

/-- Visit every policy, each failure named after its policy. -/
def visitAll (registry : Registry) (visit : CompiledPolicy → σ → Except Failure Unit × σ)
    (state : σ) : FailureList × σ :=
  let (failures, last) := visitEach visit (registry.entries.map Entry.compiled) state
  (⟨"policy evaluation", failures⟩, last)

end Registry

end PolicyWatch
