import PolicyWatch.Label.Map

/-!
# Sources of labels

Labels of clusters and namespaces are kept elsewhere and looked up by ID.  What
a look-up answers may change from one to the next.
-/

namespace PolicyWatch

inductive LabelKind where
  | clusterLabels
  | namespaceLabels
  deriving DecidableEq, Repr

def LabelKind.name : LabelKind → String
  | clusterLabels => "cluster"
  | namespaceLabels => "namespace"

/-- What a look-up answers. -/
inductive LabelAnswer where
  | found (labels : LabelMap)
  | missing
  | failed (message : String)
  /-- The look-up broke off, with a report if it left one. -/
  | crashed (report : Option String)
  deriving DecidableEq

/-- What every look-up answers at one instant. -/
abbrev LabelAnswers := LabelKind → String → LabelAnswer

/-- Which kinds of labels there is a source for. -/
structure LabelSupply where
  clusterLabels : Bool
  namespaceLabels : Bool
  deriving DecidableEq, Repr

namespace LabelSupply

def none : LabelSupply := ⟨false, false⟩

/-- A source for every kind. -/
def full : LabelSupply := ⟨true, true⟩

def covers (supply : LabelSupply) : LabelKind → Bool
  | .clusterLabels => supply.clusterLabels
  | .namespaceLabels => supply.namespaceLabels

end LabelSupply

end PolicyWatch
