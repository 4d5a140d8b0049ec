/-!
# Files

The files that can be read, by path.
-/

namespace PolicyWatch

/-- What stands at a path. -/
inductive FileEntry where
  | file (text : String)
  /-- A file that is no text, with the lines before the first that is none. -/
  | spoiled (front : String)
  /-- The names in a directory. -/
  | directory (names : List String)
  deriving DecidableEq, Repr

namespace FileEntry

/-- What is said of a file that is no text. -/
def spoiledFault : String := "stream did not contain valid UTF-8"

/-- The text of the lines before the first that is no text; the line that is being
read has begun with some bytes, in reverse. -/
def readableFront : List UInt8 → List UInt8 → String
  | _, [] => ""
  | begun, byte :: rest =>
      if byte = 10 then
        match String.fromUTF8? ⟨(byte :: begun).reverse.toArray⟩ with
        | some line => line ++ readableFront [] rest
        | none => ""
      else readableFront (byte :: begun) rest

def ofBytes (bytes : ByteArray) : FileEntry :=
  match String.fromUTF8? bytes with
  | some text => .file text
  | none => .spoiled (readableFront [] bytes.toList)

def isFile : FileEntry → Bool
  | file _ => true
  | spoiled _ => true
  | directory _ => false

end FileEntry

/-- The files that can be read: what stands at a path, if anything does. -/
structure FileTree where
  entry? : String → Option FileEntry

namespace FileTree

def text? (tree : FileTree) (path : String) : Option String :=
  match tree.entry? path with
  | some (.file text) => some text
  | _ => none

theorem text?_eq_some_iff {tree : FileTree} {path text : String} :
    tree.text? path = some text ↔ tree.entry? path = some (.file text) := by
  unfold text?
  split
  · rename_i found
    rw [found, Option.some.injEq, Option.some.injEq, FileEntry.file.injEq]
  · rename_i notFile
    constructor
    · intro impossible
      cases impossible
    · intro isFile
      exact absurd isFile (notFile text)

def isFile (tree : FileTree) (path : String) : Bool :=
  (tree.entry? path).any FileEntry.isFile

def isDirectory (tree : FileTree) (path : String) : Bool :=
  match tree.entry? path with
  | some (.directory _) => true
  | _ => false

def join (directory name : String) : String :=
  if directory.endsWith "/" || directory = "" then directory ++ name else directory ++ "/" ++ name

end FileTree

/-- Entries by the names that lead to them, from one directory down. -/
abbrev FileEntries := List (List String × FileEntry)

namespace FileEntries

def addName (name : String) : FileEntry → FileEntry
  | .directory names => .directory (if names.contains name then names else names ++ [name])
  | entry => entry

/-- Put a directory at the end of some names, unless something stands there, and
all directories above it. -/
def addDirectory (entries : FileEntries) (names : List String) : FileEntries :=
  names.foldl
    (fun (entries, above) name =>
      let here := above ++ [name]
      let named := entries.map fun entry =>
        if entry.1 = above then (entry.1, addName name entry.2) else entry
      if (named.lookup here).isSome then (named, here)
      else (named ++ [(here, .directory [])], here))
    (entries, ([] : List String)) |>.1

def add (entries : FileEntries) (path : String) (text? : Option String) : FileEntries :=
  let names := (path.splitOn "/").filter fun name => name != "" && name != "."
  let grown := addDirectory entries names
  match text? with
  | some text => grown.map fun entry => if entry.1 = names then (names, .file text) else entry
  | none => grown

def ofList (files : List (String × Option String)) : FileEntries :=
  files.foldl (fun entries file => entries.add file.1 file.2) [([], .directory [])]

/-- Follow the parts of a path from a directory.  An empty part and a single dot
stay there and two dots go up, but never out of the entries. -/
def follow (entries : FileEntries) : List String → List String → Option FileEntry
  | here, [] => entries.lookup here
  | here, part :: rest =>
      match entries.lookup here with
      | some (.directory _) =>
          if part = "" || part = "." then follow entries here rest
          else if part = ".." then
            if here = [] then none else follow entries here.dropLast rest
          else follow entries (here ++ [part]) rest
      | _ => none

def toTree (entries : FileEntries) : FileTree where
  entry? path :=
    if path = "" || path.startsWith "/" then none
    else entries.follow [] (path.splitOn "/")

end FileEntries

end PolicyWatch
