import PolicyWatch.FileTree
import PolicyWatch.PolicyFile

/-!
# Directories of policy files

The policy files of a directory are read in ascending order of names, and no two
policies in it share an ID.
-/

namespace PolicyWatch

namespace PolicyFile

def loadAt (tree : FileTree) (path : String) : Except Failure (List Policy) :=
  match tree.entry? path with
  | some (.file text) =>
      (load text).mapError (Failure.within · ("failed to parse policy file: " ++ path))
  | some (.spoiled _) =>
      .error ((Failure.ofMessage FileEntry.spoiledFault).within
        ("failed to read policy file: " ++ path))
  | _ => .error (.ofMessage ("failed to read policy file: " ++ path))

end PolicyFile

namespace PolicyDirectory

/-- The part of a name after its last dot, unless the dot comes first. -/
def extension? (name : String) : Option String :=
  match name.toList.reverse.dropWhile (· != '.') with
  | _ :: _ :: _ => some (String.ofList (name.toList.reverse.takeWhile (· != '.')).reverse)
  | _ => none

def isPolicyFileName (name : String) : Bool :=
  extension? name == some "yaml" || extension? name == some "yml"

def isPolicyFile (tree : FileTree) (directory name : String) : Bool :=
  isPolicyFileName name && tree.isFile (FileTree.join directory name)

/-- The names of the policy files in a directory, in ascending order. -/
def fileNames (tree : FileTree) (directory : String) (names : List String) : List String :=
  (names.filter (isPolicyFile tree directory)).mergeSort fun left right => decide (left ≤ right)

def addFile (path : String) (loaded : List Policy) :
    List Policy → Except Failure (List Policy)
  | [] => .ok loaded
  | policy :: rest =>
      if (loaded.map Policy.id).contains policy.id then
        .error (.ofMessage ("duplicate policy id '" ++ policy.id ++ "' in " ++ path))
      else addFile path (loaded ++ [policy]) rest

def loadFiles (tree : FileTree) :
    List Policy → List String → Except Failure (List Policy)
  | loaded, [] => .ok loaded
  | loaded, path :: rest => do
      let policies ← PolicyFile.loadAt tree path
      let grown ← addFile path loaded policies
      loadFiles tree grown rest

def load (tree : FileTree) (directory : String) : Except Failure (List Policy) :=
  match tree.entry? directory with
  | some (.directory names) =>
      loadFiles tree []
        ((fileNames tree directory names).map fun name => FileTree.join directory name)
  | _ => .error (.ofMessage ("failed to read policy directory: " ++ directory))

end PolicyDirectory

/-- Load the policies at a path: those of a file, or of a directory. -/
def loadPolicies (tree : FileTree) (path : String) : Except Failure (List Policy) :=
  if tree.isDirectory path then PolicyDirectory.load tree path else PolicyFile.loadAt tree path

end PolicyWatch
