import PolicyWatch.Detector.Command
import PolicyWatch.Detector.Output
import PolicyWatch.Instant.Basic
import Std.Time.DateTime

/-!
# The program

Reads the files that a run needs, the input and the clock, runs the detector and
prints what it reports.
-/

namespace PolicyWatch.Program

def readEntry? (path : String) : IO (Option FileEntry) := do
  try
    let place ← IO.FS.realPath path
    if ← place.isDir then
      return some (.directory ((← place.readDir).toList.map (·.fileName)))
    return some (.ofBytes (← IO.FS.readBinFile place))
  catch _ => return none

def readEntries (paths : List String) : IO (List (String × FileEntry)) := do
  let entries ← paths.mapM fun path => do
    return (← readEntry? path).map fun entry => (path, entry)
  return entries.filterMap id

def readBelow (path : String) : IO (List (String × FileEntry)) := do
  let found ← readEntries [path]
  match found with
  | [(_, .directory names)] => return found ++ (← readEntries (names.map (FileTree.join path)))
  | _ => return found

def treeOf (entries : List (String × FileEntry)) : FileTree :=
  ⟨fun path => entries.lookup path⟩

def pathsOf : CommandLine.Command → List String
  | .evaluate (some events) => [events]
  | .reprocess deployments _ _ _ _ => [deployments]
  | _ => []

def readFiles (words : List String) : IO FileTree := do
  match CommandLine.parse words with
  | .error _ => return treeOf []
  | .ok request =>
      let settingsFile ← readEntries [request.config]
      let policies ← match Detector.settle (treeOf settingsFile) request with
        | .error _ => pure []
        | .ok settings => readBelow settings.policies
      return treeOf (settingsFile ++ policies ++ (← readEntries (pathsOf request.command)))

def readInput (words : List String) : IO String := do
  match CommandLine.parse words with
  | .ok ⟨_, _, _, .evaluate none⟩ => (← IO.getStdin).readToEnd
  | _ => return ""

def readClock : IO Instant := do
  let elapsed := (← Std.Time.Timestamp.now).toNanosecondsSinceUnixEpoch.val.toNat
  return Instant.ofEpoch (elapsed / 1000000000) (elapsed % 1000000000)

end PolicyWatch.Program

open PolicyWatch in
def main (words : List String) : IO UInt32 := do
  let now ← Program.readClock
  let report := Detector.run (← Program.readFiles words) (← Program.readInput words) now words
  let bytes ← IO.getRandomBytes (Detector.entropyNeeded report.lines).toUSize
  for line in Detector.writeLines now bytes.toList report.lines do
    IO.println line
  for record in report.records do
    IO.eprintln (Detector.writeRecord now Detector.logTarget record)
  for text in Detector.writeEnd? report.ending do
    IO.eprintln text
  return report.ending.status.toUInt32
