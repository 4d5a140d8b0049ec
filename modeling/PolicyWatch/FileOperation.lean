import PolicyWatch.Text.Basic

/-!
# File operations

The kinds of file activity, and their names.
-/

namespace PolicyWatch

/-- A kind of file activity. -/
inductive FileOperation where
  | openFile
  | create
  | unlink
  | rename
  | permissionChange
  | ownershipChange
  deriving DecidableEq, Repr

namespace FileOperation

def all : List FileOperation :=
  [openFile, create, unlink, rename, permissionChange, ownershipChange]

def name : FileOperation → String
  | openFile => "OPEN"
  | create => "CREATE"
  | unlink => "UNLINK"
  | rename => "RENAME"
  | permissionChange => "PERMISSION_CHANGE"
  | ownershipChange => "OWNERSHIP_CHANGE"

def named? (name : String) : Option FileOperation :=
  all.find? fun operation => operation.name = name

/-- Read an operation as policies name it: in either case of the basic letters
and between blanks. -/
def ofText? (text : String) : Option FileOperation :=
  all.find? fun operation => operation.name.toList = Text.upperBasic (Text.trim text.toList)

/-- What is said of a text that names no operation. -/
def unknownMessage (text : String) : String :=
  "unknown file operation '" ++ text ++ "'"

end FileOperation

end PolicyWatch
