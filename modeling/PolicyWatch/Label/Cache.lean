import PolicyWatch.Label.Source

/-!
# Labels looked up

What is known of the labels of clusters and namespaces.  An answer, also that
there are no labels, is remembered until the next reset; a look-up that fails or
breaks off is not, and is made again when it is needed again.
-/

namespace PolicyWatch

/-- Why labels are not known. -/
inductive LookupFault where
  | failed (kind : LabelKind) (id : String) (message : String)
  | crashed (report : Option String)
  deriving DecidableEq

/-- The labels known, with every look-up made so far, newest first. -/
structure LabelCache where
  known : List ((LabelKind × String) × Option LabelMap)
  asked : List (LabelKind × String)

namespace LabelCache

def empty : LabelCache := ⟨[], []⟩

def reset (cache : LabelCache) : LabelCache :=
  { cache with known := [] }

def get? (cache : LabelCache) (kind : LabelKind) (id : String) : Option (Option LabelMap) :=
  cache.known.lookup (kind, id)

def ask (cache : LabelCache) (kind : LabelKind) (id : String) : LabelCache :=
  { cache with asked := (kind, id) :: cache.asked }

def remember (cache : LabelCache) (kind : LabelKind) (id : String) (labels : Option LabelMap) :
    LabelCache :=
  { cache with known := ((kind, id), labels) :: cache.known }

/-- The labels under an ID, looked up unless they are known. -/
def labels (answers : LabelAnswers) (kind : LabelKind) (id : String) (cache : LabelCache) :
    Except LookupFault (Option LabelMap) × LabelCache :=
  match cache.get? kind id with
  | some held => (.ok held, cache)
  | none =>
      let noted := cache.ask kind id
      match answers kind id with
      | .found labels => (.ok (some labels), noted.remember kind id (some labels))
      | .missing => (.ok none, noted.remember kind id none)
      | .failed message => (.error (.failed kind id message), noted)
      | .crashed report => (.error (.crashed report), noted)

end LabelCache

end PolicyWatch
