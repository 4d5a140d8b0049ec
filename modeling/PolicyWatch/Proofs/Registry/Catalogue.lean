import Mathlib.Data.Finset.Dedup
import Mathlib.Data.Finset.Card
import PolicyWatch.Proofs.Registry.Isolation
import PolicyWatch.Proofs.Registry.NotifierRemoval
import PolicyWatch.Regex.Size

/-!
# The registry as a map

A registry is used like a plain map from IDs to policies.  Main statement: whatever
uses a registry has seen, what it holds and what it answers is told by the map that
a plain map comes to by the same uses.
-/

namespace PolicyWatch

/-! ## Plain maps -/

def Catalogue : Type := String → Option Policy

namespace Catalogue

def empty : Catalogue := fun _ => none

def put (catalogue : Catalogue) (policy : Policy) : Catalogue :=
  fun id => if policy.id = id then some policy else catalogue id

def erase (catalogue : Catalogue) (erased : String) : Catalogue :=
  fun id => if erased = id then none else catalogue id

def withoutNotifier (catalogue : Catalogue) (notifier : String) : Catalogue :=
  fun id => (catalogue id).map fun policy => policy.withoutNotifier notifier

def compiled? [SizeLimit] (catalogue : Catalogue) (supply : LabelSupply) (id : String) :
    Option CompiledPolicy :=
  (catalogue id).bind fun policy => (CompiledPolicy.compile supply policy).toOption

end Catalogue

theorem Policy.withoutNotifier_of_unnamed {policy : Policy} {notifier : String}
    (unnamed : policy.namesNotifier notifier = false) :
    policy.withoutNotifier notifier = policy := by
  have absent : notifier ∉ policy.notifiers := fun named => by
    rw [namesNotifier, List.contains_iff_mem.2 named] at unnamed
    cases unnamed
  have kept : policy.notifiers.filter (· != notifier) = policy.notifiers := by
    refine List.filter_eq_self.2 fun other member => bne_iff_ne.2 ?_
    rintro rfl
    exact absent member
  unfold withoutNotifier
  rw [kept]

theorem CompiledPolicy.id_ne_empty_of_compile [SizeLimit] {supply : LabelSupply} {policy : Policy}
    {compiled : CompiledPolicy} (made : compile supply policy = .ok compiled) :
    policy.id ≠ "" := by
  intro isEmpty
  obtain ⟨_, checked, _⟩ := Checks.bind_eq_ok_iff.1 made
  rw [checkHead, if_pos isEmpty] at checked
  cases checked

namespace Registry

def policy? (registry : Registry) (id : String) : Option Policy :=
  (registry.find? id).map fun entry => entry.compiled.policy

variable {registry changed : Registry}

theorem policy?_insert [SizeLimit] {policy : Policy} {compiled : CompiledPolicy}
    (made : CompiledPolicy.compile registry.supply policy = .ok compiled) (id : String) :
    (registry.insert compiled).policy? id =
      if policy.id = id then some policy else registry.policy? id := by
  have same : compiled.policy = policy := (CompiledPolicy.of_compile made).1
  have sameId : compiled.id = policy.id := congrArg Policy.id same
  unfold policy?
  rw [find?_insert, sameId]
  split
  · rw [Option.map_some, same]
  · rfl

theorem policy?_remove (registry : Registry) (removed id : String) :
    (registry.remove removed).policy? id = if removed = id then none else registry.policy? id := by
  unfold policy?
  rw [find?_remove]
  split <;> rfl

theorem policy?_eq_none_of_not_mem {id : String} (absent : id ∉ registry.ids) :
    registry.policy? id = none := by
  rw [policy?, Option.map_eq_none_iff]
  by_contra present
  exact absent (mem_ids_iff.2 (Option.ne_none_iff_exists'.1 present))

end Registry

/-! ## Quiet stores -/

/-- Whether a store always answers well and leaves the registry alone. -/
def PolicyStore.IsQuiet {σ : Type} (store : PolicyStore σ) : Prop :=
  ∀ policy registry state, ∃ next, store.update policy registry state = (.ok (), registry, next)

namespace Registry

variable {σ : Type} {store : PolicyStore σ}

theorem removeNotifierFrom_of_isQuiet [SizeLimit] (quiet : store.IsQuiet) {registry : Registry}
    (coherent : registry.Coherent) (notifier id : String) (attempts : Nat) (state : σ) :
    ∃ changed next,
      removeNotifierFrom store notifier id (attempts + 1) registry state =
          (.ok (), changed, next) ∧
        ChangedAt id registry changed ∧
        changed.policy? id = (registry.policy? id).map (·.withoutNotifier notifier) := by
  cases found : registry.find? id with
  | none =>
      refine ⟨registry, state, ?_, .refl id registry, ?_⟩
      · simp only [removeNotifierFrom, found]
      · simp only [policy?, found, Option.map_none]
  | some entry =>
      have installed : registry.policy? id = some entry.compiled.policy := by
        rw [policy?, found, Option.map_some]
      cases named : entry.compiled.policy.namesNotifier notifier with
      | false =>
          refine ⟨registry, state, ?_, .refl id registry, ?_⟩
          · simp [removeNotifierFrom, found, named]
          · rw [installed, Option.map_some, Policy.withoutNotifier_of_unnamed named]
      | true =>
          obtain ⟨next, written⟩ := quiet (entry.compiled.policy.withoutNotifier notifier)
            registry state
          have compiles := CompiledPolicy.compile_withoutNotifier
            (coherent entry (mem_of_find? found)) notifier
          have sameId : entry.compiled.policy.id = id := id_of_find? found
          have entryId : entry.id = id := sameId
          have frame := ChangedAt.insert compiles
          rw [Policy.withoutNotifier_id, sameId] at frame
          have published : registry.replace? entry (entry.compiled.withoutNotifier notifier) =
              some (registry.insert (entry.compiled.withoutNotifier notifier)) := by
            simp only [replace?, entryId, found, if_true]
          refine ⟨_, next, ?_, frame, ?_⟩
          · simp only [removeNotifierFrom, found, named, if_true, written, compiles, published]
          · rw [policy?_insert compiles, Policy.withoutNotifier_id, sameId, if_pos rfl, installed,
              Option.map_some]

theorem removeNotifierFromEach_of_isQuiet [SizeLimit] (quiet : store.IsQuiet) (notifier : String)
    {ids : List String} (distinct : ids.Nodup) {registry : Registry}
    (coherent : registry.Coherent) (state : σ) :
    ∃ changed next,
      removeNotifierFromEach store notifier ids registry state = ([], changed, next) ∧
        changed.supply = registry.supply ∧ changed.Coherent ∧
        (∀ id ∈ ids,
          changed.policy? id = (registry.policy? id).map (·.withoutNotifier notifier)) ∧
        ∀ id, id ∉ ids → changed.policy? id = registry.policy? id := by
  induction ids generalizing registry state with
  | nil => exact ⟨registry, state, rfl, rfl, coherent, by simp, fun _ _ => rfl⟩
  | cons first rest ih =>
      obtain ⟨fresh, restDistinct⟩ := List.nodup_cons.1 distinct
      obtain ⟨between, middle, ends, frame, dropped⟩ :=
        removeNotifierFrom_of_isQuiet quiet coherent notifier first 2 state
      obtain ⟨changed, next, endsLater, supplied, coherentAfter, droppedLater, untouched⟩ :=
        ih restDistinct (frame.coherent coherent) middle
      have sameBefore : ∀ id, id ≠ first → between.policy? id = registry.policy? id := by
        intro id apart
        rw [policy?, policy?, frame.others id apart]
      refine ⟨changed, next, ?_, supplied.trans frame.supply, coherentAfter, ?_, ?_⟩
      · simp only [removeNotifierFromEach, removalAttempts, ends, endsLater]
      · intro id member
        rcases List.mem_cons.1 member with rfl | later
        · rw [untouched id fresh, dropped]
        · have apart : id ≠ first := fun same => fresh (same ▸ later)
          rw [droppedLater id later, sameBefore id apart]
      · intro id absent
        obtain ⟨apart, notLater⟩ := not_or.1 fun member => absent (List.mem_cons.2 member)
        rw [untouched id notLater, sameBefore id apart]

/-- With a quiet store nothing is reported, and the notifier is dropped from every
policy. -/
theorem removeNotifier_of_isQuiet [SizeLimit] (quiet : store.IsQuiet) {registry : Registry}
    (coherent : registry.Coherent) (notifier : String) (state : σ) :
    ∃ changed next,
      registry.removeNotifier store notifier state =
          (⟨"notifier removal", []⟩, changed, next) ∧
        changed.supply = registry.supply ∧ changed.Coherent ∧
        ∀ id, changed.policy? id = (registry.policy? id).map (·.withoutNotifier notifier) := by
  obtain ⟨changed, next, ends, supplied, coherentAfter, dropped, untouched⟩ :=
    removeNotifierFromEach_of_isQuiet quiet notifier registry.distinct coherent state
  refine ⟨changed, next, ?_, supplied, coherentAfter, ?_⟩
  · rw [removeNotifier, ids, ends]
  · intro id
    by_cases member : id ∈ registry.ids
    · exact dropped id member
    · rw [untouched id member, policy?_eq_none_of_not_mem member, Option.map_none]

/-! ## Visits -/

/-- A visit that also notes which policies it has seen and what came of each. -/
def noting (visit : CompiledPolicy → σ → Except Failure Unit × σ) (compiled : CompiledPolicy)
    (state : List (CompiledPolicy × Except Failure Unit) × σ) :
    Except Failure Unit × List (CompiledPolicy × Except Failure Unit) × σ :=
  ((visit compiled state.2).1, state.1 ++ [(compiled, (visit compiled state.2).1)],
    (visit compiled state.2).2)

/-- The failure that a pass reports of a visit, named after its policy. -/
def visitFailure? (noted : CompiledPolicy × Except Failure Unit) : Option Failure :=
  match noted.2 with
  | .ok () => none
  | .error failure => some (failure.within (policyTag noted.1.id))

theorem visitEach_cons (visit : CompiledPolicy → σ → Except Failure Unit × σ)
    (compiled : CompiledPolicy) (rest : List CompiledPolicy) (state : σ) :
    visitEach visit (compiled :: rest) state =
      ((visitFailure? (compiled, (visit compiled state).1)).toList ++
          (visitEach visit rest (visit compiled state).2).1,
        (visitEach visit rest (visit compiled state).2).2) := by
  rw [visitEach]
  cases result : (visit compiled state).1 with
  | ok => simp only [result, visitFailure?, Option.toList_none, List.nil_append]
  | error => simp only [result, visitFailure?, Option.toList_some, policyTag, List.singleton_append]

/-- A pass visits each policy once, in order, whatever comes of the visits before,
and reports those that fail. -/
theorem visitEach_noting (visit : CompiledPolicy → σ → Except Failure Unit × σ)
    (policies : List CompiledPolicy) (earlier : List (CompiledPolicy × Except Failure Unit))
    (state : σ) :
    ∃ notes, notes.map Prod.fst = policies ∧
      (visitEach visit policies state).1 = notes.filterMap visitFailure? ∧
      visitEach (noting visit) policies (earlier, state) =
        (notes.filterMap visitFailure?, earlier ++ notes, (visitEach visit policies state).2) := by
  induction policies generalizing earlier state with
  | nil => exact ⟨[], rfl, rfl, by rw [List.append_nil]; rfl⟩
  | cons compiled rest ih =>
      let note := (compiled, (visit compiled state).1)
      obtain ⟨notes, seen, reported, noted⟩ := ih (earlier ++ [note]) (visit compiled state).2
      have failures : (note :: notes).filterMap visitFailure? =
          (visitFailure? note).toList ++ notes.filterMap visitFailure? := by
        rw [List.filterMap_cons]
        cases visitFailure? note <;> rfl
      refine ⟨note :: notes, by rw [List.map_cons, seen], ?_, ?_⟩
      · rw [visitEach_cons, reported, failures]
      · rw [visitEach_cons, visitEach_cons, failures]
        simp only [noting, noted, List.append_assoc, List.singleton_append, note]

/-! ## Uses -/

/-- The registries that come about by use, each with what a plain map comes to by the
same uses.  A policy that compiles is put under its ID and one that does not changes
nothing, a policy is removed, a notifier is removed with a quiet store, and entries
may change their order.  Reading gives no other registry. -/
inductive Use [SizeLimit] (supply : LabelSupply) : Registry → Catalogue → Prop where
  | empty : Use supply (Registry.empty supply) Catalogue.empty
  | upsert {registry changed : Registry} {catalogue : Catalogue} (policy : Policy)
      (used : Use supply registry catalogue) (installed : registry.upsert policy = .ok changed) :
      Use supply changed (catalogue.put policy)
  | refuse {registry : Registry} {catalogue : Catalogue} {error : CompileError} (policy : Policy)
      (used : Use supply registry catalogue) (refused : registry.upsert policy = .error error) :
      Use supply registry catalogue
  | remove {registry : Registry} {catalogue : Catalogue} (id : String)
      (used : Use supply registry catalogue) : Use supply (registry.remove id) (catalogue.erase id)
  | removeNotifier {registry : Registry} {catalogue : Catalogue} {σ : Type}
      {store : PolicyStore σ} (quiet : store.IsQuiet) (notifier : String) (state : σ)
      (used : Use supply registry catalogue) :
      Use supply (registry.removeNotifier store notifier state).2.1
        (catalogue.withoutNotifier notifier)
  | reorder {registry other : Registry} {catalogue : Catalogue}
      (used : Use supply registry catalogue) (sameSupply : other.supply = registry.supply)
      (sameEntries : other.entries.Perm registry.entries) : Use supply other catalogue

/-- What holds of a registry that stands for a map. -/
structure Represents [SizeLimit] (supply : LabelSupply) (registry : Registry)
    (catalogue : Catalogue) :
    Prop where
  supply : registry.supply = supply
  policy?_eq : registry.policy? = catalogue
  coherent : registry.Coherent

theorem mem_entries_iff_find? (registry : Registry) (entry : Entry) :
    entry ∈ registry.entries ↔ registry.find? entry.id = some entry := by
  refine ⟨fun member => ?_, mem_of_find?⟩
  obtain ⟨found, isFound⟩ := mem_ids_iff.1 (List.mem_map_of_mem member)
  have sameId : found.id = entry.id := id_of_find? isFound
  have same := List.inj_on_of_nodup_map registry.distinct (mem_of_find? isFound) member sameId
  rw [isFound, same]

theorem find?_of_perm {registry other : Registry}
    (sameEntries : other.entries.Perm registry.entries) (id : String) :
    other.find? id = registry.find? id := by
  refine Option.ext fun entry => ?_
  constructor
  · intro found
    have member := sameEntries.mem_iff.1 (mem_of_find? found)
    rw [← id_of_find? found]
    exact (registry.mem_entries_iff_find? entry).1 member
  · intro found
    have member := sameEntries.mem_iff.2 (mem_of_find? found)
    rw [← id_of_find? found]
    exact (other.mem_entries_iff_find? entry).1 member

/-- Every use keeps a registry in step with its map. -/
theorem Use.represents [SizeLimit] {supply : LabelSupply} {catalogue : Catalogue}
    (used : Use supply registry catalogue) : Represents supply registry catalogue := by
  induction used with
  | empty => exact ⟨rfl, rfl, fun _ member => by cases member⟩
  | upsert policy _ installed ih =>
      obtain ⟨compiled, made, rfl⟩ := of_upsert installed
      have frame := ChangedAt.insert made
      refine ⟨frame.supply.trans ih.supply, ?_, frame.coherent ih.coherent⟩
      funext id
      rw [policy?_insert made, ih.policy?_eq]
      rfl
  | refuse _ _ _ ih => exact ih
  | @remove registry _ id _ ih =>
      have frame := ChangedAt.remove registry id
      refine ⟨frame.supply.trans ih.supply, ?_, frame.coherent ih.coherent⟩
      funext other
      rw [policy?_remove, ih.policy?_eq]
      rfl
  | removeNotifier quiet notifier state _ ih =>
      obtain ⟨changed, next, ends, supplied, coherent, dropped⟩ :=
        removeNotifier_of_isQuiet quiet ih.coherent notifier state
      rw [ends]
      refine ⟨supplied.trans ih.supply, ?_, coherent⟩
      funext id
      rw [dropped, ih.policy?_eq]
      rfl
  | reorder _ sameSupply sameEntries ih =>
      refine ⟨sameSupply.trans ih.supply, ?_, ih.coherent.of_perm sameSupply sameEntries⟩
      funext id
      rw [policy?, find?_of_perm sameEntries, ← ih.policy?_eq, policy?]

namespace Represents

variable {supply : LabelSupply} {catalogue : Catalogue}

theorem catalogue_eq [SizeLimit] (represents : Represents supply registry catalogue) (id : String) :
    catalogue id = (registry.find? id).map fun entry => entry.compiled.policy := by
  rw [← represents.policy?_eq]
  rfl

theorem compiled?_eq [SizeLimit] (represents : Represents supply registry catalogue) (id : String) :
    catalogue.compiled? supply id = (registry.find? id).map Entry.compiled := by
  unfold Catalogue.compiled?
  rw [represents.catalogue_eq]
  cases found : registry.find? id with
  | none => rfl
  | some entry =>
      have made := represents.coherent entry (mem_of_find? found)
      rw [represents.supply] at made
      simp only [Option.map_some, Option.bind_some, made]
      rfl

theorem visitOne_eq [SizeLimit] {α : Type} (represents : Represents supply registry catalogue)
    (id : String) (visit : CompiledPolicy → Except Failure α) :
    registry.visitOne id visit =
      match catalogue.compiled? supply id with
      | none => .error (.notFound id)
      | some compiled => (visit compiled).mapError .failed := by
  rw [represents.compiled?_eq]
  unfold visitOne
  cases registry.find? id with
  | none => rfl
  | some entry =>
      simp only [Option.map_some]
      cases visit entry.compiled <;> rfl

theorem alerts_eq [SizeLimit] (represents : Represents supply registry catalogue)
    (answers : LabelAnswers) (now : Instant) (event : Event) (id : String) :
    (registry.matchAll answers now event).1.alerts.filter (fun alert => alert.policyId == id) =
      ((catalogue.compiled? supply id).bind
        (CompiledPolicy.alertAlone? answers now event)).toList := by
  rw [(registry.matchAll_reports answers now event).1, represents.compiled?_eq,
    Option.bind_map]
  refine filter_filterMap_eq registry.distinct _ _ id ?_
  intro compiled alert raised
  rw [policyId_of_alertAlone? raised, beq_iff_eq]

/-- A pass over all policies visits what the map compiles to, each policy once, and
reports each visit that fails. -/
theorem visitAll_eq [SizeLimit] (represents : Represents supply registry catalogue) {σ : Type}
    (visit : CompiledPolicy → σ → Except Failure Unit × σ) (state : σ) :
    ∃ notes : List (CompiledPolicy × Except Failure Unit),
      (notes.map fun note => note.1.id).Nodup ∧
      (∀ compiled, (∃ result, (compiled, result) ∈ notes) ↔
        catalogue.compiled? supply compiled.id = some compiled) ∧
      (registry.visitAll visit state).1 =
        ⟨"policy evaluation", notes.filterMap visitFailure?⟩ ∧
      registry.visitAll (noting visit) ([], state) =
        (⟨"policy evaluation", notes.filterMap visitFailure?⟩, notes,
          (registry.visitAll visit state).2) := by
  obtain ⟨notes, seen, reported, noted⟩ :=
    visitEach_noting visit (registry.entries.map Entry.compiled) [] state
  have ids : (notes.map fun note => note.1.id) = registry.entries.map Entry.id := by
    rw [show (fun note : CompiledPolicy × Except Failure Unit => note.1.id) =
      CompiledPolicy.id ∘ Prod.fst from rfl, ← List.map_map, seen, List.map_map]
    rfl
  refine ⟨notes, ids ▸ registry.distinct, ?_, ?_, ?_⟩
  · intro compiled
    have visited : (∃ result, (compiled, result) ∈ notes) ↔
        compiled ∈ registry.entries.map Entry.compiled := by
      rw [← seen, List.mem_map]
      exact ⟨fun ⟨result, member⟩ => ⟨_, member, rfl⟩, fun ⟨note, member, same⟩ =>
        ⟨note.2, same ▸ member⟩⟩
    rw [visited, represents.compiled?_eq, List.mem_map, Option.map_eq_some_iff]
    constructor
    · rintro ⟨entry, member, rfl⟩
      exact ⟨entry, (registry.mem_entries_iff_find? entry).1 member, rfl⟩
    · rintro ⟨entry, found, same⟩
      exact ⟨entry, mem_of_find? found, same⟩
  · unfold visitAll
    rw [← reported]
  · unfold visitAll
    rw [noted, List.nil_append]

theorem size_eq [SizeLimit] (represents : Represents supply registry catalogue) :
    ∃ domain : Finset String, (∀ id, id ∈ domain ↔ (catalogue id).isSome = true) ∧
      registry.size = domain.card := by
  refine ⟨registry.ids.toFinset, ?_, ?_⟩
  · intro id
    rw [List.mem_toFinset, mem_ids_iff, represents.catalogue_eq, Option.isSome_map,
      Option.isSome_iff_exists]
  · have distinct : registry.ids.Nodup := registry.distinct
    rw [List.toFinset_card_of_nodup distinct, ids, List.length_map]
    rfl

end Represents

/-- What a registry holds and answers, in terms of a map. -/
structure AnswersAs [SizeLimit] (supply : LabelSupply) (registry : Registry)
    (catalogue : Catalogue) :
    Prop where
  policies : ∀ id, registry.policy? id = catalogue id
  keys : ∀ id policy, catalogue id = some policy → policy.id = id ∧ id ≠ ""
  compiled : ∀ entry ∈ registry.entries,
    registry.find? entry.id = some entry ∧
      CompiledPolicy.compile supply entry.compiled.policy = .ok entry.compiled
  size : ∃ domain : Finset String, (∀ id, id ∈ domain ↔ (catalogue id).isSome = true) ∧
    registry.size = domain.card
  contains : ∀ id, registry.contains id = (catalogue id).isSome
  visitOne : ∀ {α : Type} (id : String) (visit : CompiledPolicy → Except Failure α),
    registry.visitOne id visit =
      match catalogue.compiled? supply id with
      | none => .error (.notFound id)
      | some compiled => (visit compiled).mapError .failed
  /-- Every policy is visited once, whatever comes of the visits before, and each visit
  that fails is reported. -/
  visitAll : ∀ {σ : Type} (visit : CompiledPolicy → σ → Except Failure Unit × σ) (state : σ),
    ∃ notes : List (CompiledPolicy × Except Failure Unit),
      (notes.map fun note => note.1.id).Nodup ∧
      (∀ compiled, (∃ result, (compiled, result) ∈ notes) ↔
        catalogue.compiled? supply compiled.id = some compiled) ∧
      (registry.visitAll visit state).1 =
        ⟨"policy evaluation", notes.filterMap visitFailure?⟩ ∧
      registry.visitAll (noting visit) ([], state) =
        (⟨"policy evaluation", notes.filterMap visitFailure?⟩, notes,
          (registry.visitAll visit state).2)
  alerts : ∀ (answers : LabelAnswers) (now : Instant) (event : Event) (id : String),
    (registry.matchAll answers now event).1.alerts.filter (fun alert => alert.policyId == id) =
      ((catalogue.compiled? supply id).bind
        (CompiledPolicy.alertAlone? answers now event)).toList
  upsert : ∀ policy, registry.upsert policy =
    (CompiledPolicy.compile supply policy).map registry.insert
  removeNotifier : ∀ {σ : Type} {store : PolicyStore σ}, store.IsQuiet →
    ∀ (notifier : String) (state : σ),
      (registry.removeNotifier store notifier state).1 = ⟨"notifier removal", []⟩

/-- A registry is a map from IDs to policies, whatever uses it has seen: it holds what
a plain map comes to by the same uses, each policy under its own ID and as compiled
with the sources of labels at hand, and every answer that it gives is told by that
map.  Removing a notifier with a quiet store never fails. -/
theorem Use.answersAs [SizeLimit] {supply : LabelSupply} {registry : Registry}
    {catalogue : Catalogue}
    (used : Use supply registry catalogue) : AnswersAs supply registry catalogue := by
  have represents := used.represents
  have compiles : ∀ entry ∈ registry.entries,
      CompiledPolicy.compile supply entry.compiled.policy = .ok entry.compiled := by
    intro entry member
    rw [← represents.supply]
    exact represents.coherent entry member
  refine ⟨congrFun represents.policy?_eq, ?_, ?_, represents.size_eq, ?_, represents.visitOne_eq,
    represents.visitAll_eq, represents.alerts_eq, ?_, ?_⟩
  · intro id policy installed
    rw [represents.catalogue_eq, Option.map_eq_some_iff] at installed
    obtain ⟨entry, found, rfl⟩ := installed
    have sameId : entry.compiled.policy.id = id := id_of_find? found
    exact ⟨sameId, sameId ▸ CompiledPolicy.id_ne_empty_of_compile
      (compiles entry (mem_of_find? found))⟩
  · intro entry member
    exact ⟨(registry.mem_entries_iff_find? entry).1 member, compiles entry member⟩
  · intro id
    rw [represents.catalogue_eq, Option.isSome_map]
    rfl
  · intro policy
    rw [← represents.supply]
    cases made : CompiledPolicy.compile registry.supply policy with
    | ok compiled => rw [upsert_of_ok made]; rfl
    | error error => rw [upsert_of_error made]; rfl
  · intro σ store quiet notifier state
    obtain ⟨changed, next, ends, _⟩ :=
      removeNotifier_of_isQuiet quiet represents.coherent notifier state
    rw [ends]

end Registry

def PolicyStore.keeping : PolicyStore (List Policy) where
  update policy registry written := (.ok (), registry, written ++ [policy])

theorem PolicyStore.isQuiet_keeping : PolicyStore.keeping.IsQuiet := fun _ _ _ => ⟨_, rfl⟩

/-- A policy is installed, an attempt to replace it by one without a name fails, and a
notifier is dropped: the policy is found with the other notifier. -/
theorem privilegedContainers_mirrored :
    ∃ registry catalogue,
      Registry.Use .none registry catalogue ∧ Registry.AnswersAs .none registry catalogue ∧
        (∃ error, registry.upsert (privilegedContainers "" []) = .error error) ∧
        registry.policy? "privileged" =
          some (privilegedContainers "Privileged" ["email"]) ∧
        catalogue "privileged" = some (privilegedContainers "Privileged" ["email"]) := by
  obtain ⟨installed, isInstalled⟩ : ∃ registry, (Registry.empty .none).upsert
      (privilegedContainers "Privileged" ["slack", "email"]) = .ok registry := ⟨_, rfl⟩
  have used := Registry.Use.upsert _ .empty isInstalled
  cases isInstalled
  have refused := used.refuse (privilegedContainers "" []) rfl
  have dropped := refused.removeNotifier PolicyStore.isQuiet_keeping "slack" []
  exact ⟨_, _, dropped, dropped.answersAs, ⟨_, rfl⟩, rfl, rfl⟩

end PolicyWatch
