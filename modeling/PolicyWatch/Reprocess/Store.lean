import PolicyWatch.Event

/-!
# Stored deployments

The deployments that are known, at most one under an ID.
-/

namespace PolicyWatch.Reprocess

structure Store where
  deployments : List Deployment
  deriving DecidableEq

namespace Store

def empty : Store := ⟨[]⟩

def others (store : Store) (id : String) : List Deployment :=
  store.deployments.filter fun deployment => deployment.id != id

def get? (store : Store) (id : String) : Option Deployment :=
  store.deployments.find? fun deployment => deployment.id == id

/-- Put a deployment under its ID, in place of any deployment there. -/
def insert (store : Store) (deployment : Deployment) : Store :=
  ⟨deployment :: store.others deployment.id⟩

def remove (store : Store) (id : String) : Option Deployment × Store :=
  (store.get? id, ⟨store.others id⟩)

/-- The store of deployments in order, of which the last under an ID counts. -/
def ofList (deployments : List Deployment) : Store :=
  deployments.foldl insert empty

def size (store : Store) : Nat :=
  store.deployments.length

def sortIds (ids : List String) : List String :=
  ids.mergeSort fun left right => decide (left ≤ right)

/-- The IDs of all deployments, in ascending order. -/
def ids (store : Store) : List String :=
  sortIds (store.deployments.map Deployment.id)

/-- The IDs of the deployments of a cluster, in ascending order. -/
def inCluster (store : Store) (clusterId : String) : List String :=
  sortIds ((store.deployments.filter fun deployment => deployment.clusterId == clusterId).map
    Deployment.id)

end Store

end PolicyWatch.Reprocess
