import PolicyWatch.CompileError
import PolicyWatch.Label.Cache

/-!
# Scopes

A list of scopes is checked once and then asked whether it covers the place of
an event.  No scope at all covers every place.
-/

namespace PolicyWatch

/-- A checked scope: either by name or by labels. -/
inductive ScopeRule where
  | direct (cluster namespaceName : Option String)
  | labels (cluster namespaceLabel : Option ScopeLabel)
  deriving DecidableEq

def ScopeLabel.isKeyed (label : ScopeLabel) : Bool :=
  label.key != ""

def ScopeLabel.isIn (label : ScopeLabel) (labels : Option LabelMap) : Bool :=
  match labels with
  | some labels => labels.get? label.key == some label.value
  | none => false

namespace ScopeRule

/-- Check a scope at an index of its list, given the sources of labels. -/
def compile (supply : LabelSupply) (index : Nat) (scope : Scope) : Except ScopeError ScopeRule :=
  let direct := scope.cluster.isSome || scope.namespaceName.isSome
  let labelled := scope.clusterLabel.isSome || scope.namespaceLabel.isSome
  if direct && labelled then .error (.invalid index .mixedFields)
  else if direct then
    if scope.cluster == some "" || scope.namespaceName == some "" then
      .error (.invalid index .emptyPlace)
    else .ok (.direct scope.cluster scope.namespaceName)
  else if labelled then
    if !scope.clusterLabel.all ScopeLabel.isKeyed || !scope.namespaceLabel.all ScopeLabel.isKeyed
    then .error (.invalid index .emptyLabelKey)
    else if scope.clusterLabel.isSome && !supply.clusterLabels then
      .error (.missingProvider index .clusterLabels)
    else if scope.namespaceLabel.isSome && !supply.namespaceLabels then
      .error (.missingProvider index .namespaceLabels)
    else .ok (.labels scope.clusterLabel scope.namespaceLabel)
  else .error (.invalid index .noFields)

/-- Check scopes, the first of which stands at an index. -/
def compileFrom (supply : LabelSupply) : Nat → List Scope → Except ScopeError (List ScopeRule)
  | _, [] => .ok []
  | index, scope :: rest => do
      let first ← compile supply index scope
      let others ← compileFrom supply (index + 1) rest
      return first :: others

end ScopeRule

/-- A computation that may look up labels and may fail to.  What was learned
is kept also when it fails. -/
abbrev LabelQuery (α : Type) := LabelCache → Except LookupFault α × LabelCache

namespace LabelQuery

variable {α β : Type}

def pure (value : α) : LabelQuery α := fun cache => (.ok value, cache)

def bind (query : LabelQuery α) (next : α → LabelQuery β) : LabelQuery β := fun cache =>
  match query cache with
  | (.ok value, learned) => next value learned
  | (.error fault, learned) => (.error fault, learned)

/-- Both answers, the second only if the first is true. -/
def and (first second : LabelQuery Bool) : LabelQuery Bool :=
  bind first fun holds => if holds then second else pure false

/-- Whether one of several queries is true, asked in order until one is. -/
def any (query : α → LabelQuery Bool) : List α → LabelQuery Bool
  | [] => pure false
  | first :: rest => bind (query first) fun holds => if holds then pure true else any query rest

end LabelQuery

/-- A checked list of scopes, with the sources of labels it was checked for. -/
structure ScopeResolver where
  rules : List ScopeRule
  supply : LabelSupply
  deriving DecidableEq

namespace ScopeResolver

/-- Check a list of scopes, given the sources of labels. -/
def compile (supply : LabelSupply) (scopes : List Scope) : Except ScopeError ScopeResolver := do
  return ⟨← ScopeRule.compileFrom supply 0 scopes, supply⟩

/-- Whether every place is covered. -/
def isWildcard (resolver : ScopeResolver) : Bool :=
  resolver.rules.isEmpty

/-- Whether the cluster or namespace with an ID has a label.  Without a source
or an ID it has none. -/
def hasLabel (resolver : ScopeResolver) (answers : LabelAnswers) (kind : LabelKind) (id : String)
    (label : ScopeLabel) : LabelQuery Bool :=
  if resolver.supply.covers kind && id != "" then
    LabelQuery.bind (LabelCache.labels answers kind id) fun labels =>
      LabelQuery.pure (label.isIn labels)
  else LabelQuery.pure false

def hasLabel? (resolver : ScopeResolver) (answers : LabelAnswers) (kind : LabelKind)
    (id : String) : Option ScopeLabel → LabelQuery Bool
  | some label => resolver.hasLabel answers kind id label
  | none => LabelQuery.pure true

def ruleCovers (resolver : ScopeResolver) (answers : LabelAnswers) (place : Place) :
    ScopeRule → LabelQuery Bool
  | .direct cluster namespaceName =>
      LabelQuery.pure (cluster.all (· == place.clusterId) &&
        (namespaceName.isNone || namespaceName == place.namespaceName))
  | .labels cluster namespaceLabel =>
      LabelQuery.and
        (resolver.hasLabel? answers .clusterLabels place.clusterId cluster)
        (resolver.hasLabel? answers .namespaceLabels (place.namespaceId.getD "") namespaceLabel)

/-- Whether a place is covered: by a scope, or because there is none. -/
def covers (resolver : ScopeResolver) (answers : LabelAnswers) (place : Place) :
    LabelQuery Bool :=
  if resolver.isWildcard then LabelQuery.pure true
  else LabelQuery.any (resolver.ruleCovers answers place) resolver.rules

end ScopeResolver

end PolicyWatch
