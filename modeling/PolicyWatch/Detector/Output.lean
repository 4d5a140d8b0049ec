import PolicyWatch.Detector.Basic
import PolicyWatch.Instant.Text
import PolicyWatch.Json.Writer

/-!
# Output

The text of what a run puts out.  Every alert gets an ID of its own and the time
of the run.
-/

namespace PolicyWatch.Detector

/-- The random bytes of an ID. -/
abbrev Entropy := List UInt8

def idLength : Nat := 16

/-- A byte in two hexadecimal digits. -/
def writeByte (byte : UInt8) : List Char :=
  [Json.hexDigit (byte.toNat / 16), Json.hexDigit (byte.toNat % 16)]

/-- The ID of random bytes, marked as random. -/
def idOf (bytes : Entropy) : String :=
  let marked := bytes.zipIdx.map fun (byte, place) =>
    if place = 6 then byte % 16 + 64 else if place = 8 then byte % 64 + 128 else byte
  let dashed := marked.zipIdx.flatMap fun (byte, place) =>
    if [4, 6, 8, 10].contains place then '-' :: writeByte byte else writeByte byte
  String.ofList dashed

def stamp (time : Instant) (id : Entropy) (alert : Alert) : Json :=
  .object (("id", .string (idOf id)) :: alert.membersWith [("time", .string time.toText)])

def stampAll (time : Instant) : Entropy → List Alert → List Json × Entropy
  | bytes, [] => ([], bytes)
  | bytes, alert :: rest =>
      let (stamped, left) := stampAll time (bytes.drop idLength) rest
      (stamp time (bytes.take idLength) alert :: stamped, left)

def alertsOf : OutputLine → List Alert
  | .alert alert => [alert]
  | .reprocessed _ alerts => alerts

def deploymentJson (deployment : Deployment) (stamped : List Json) : Json :=
  .object [("deployment_id", .string deployment.id),
    ("deployment_name", .string deployment.name),
    ("cluster_id", .string deployment.clusterId),
    ("alerts", .array stamped)]

/-- A line in JSON, given its stamped alerts: an alert alone has its members as they are
declared, and a deployment with its alerts has all members in order of names. -/
def lineJson (stamped : List Json) : OutputLine → Json
  | .alert _ => stamped.headD .null
  | .reprocessed deployment _ => (deploymentJson deployment stamped).sorted

/-- The texts of lines, given random bytes for their IDs. -/
def writeLines (time : Instant) : Entropy → List OutputLine → List String
  | _, [] => []
  | bytes, line :: rest =>
      let (stamped, left) := stampAll time bytes (alertsOf line)
      (lineJson stamped line).write :: writeLines time left rest

/-- The number of random bytes that lines need. -/
def entropyNeeded (lines : List OutputLine) : Nat :=
  idLength * (lines.flatMap alertsOf).length

def writeRecord (time : Instant) (target : String) (record : LogRecord) : String :=
  (Json.object [("timestamp", .string time.toText), ("level", .string record.level.name),
    ("fields", .object (("message", .string record.message) :: record.fields)),
    ("target", .string target)]).write

/-- The causes of a failure, below its first message. -/
def writeCauses (causes : List String) : String :=
  match causes with
  | [] => ""
  | [cause] => "\n\nCaused by:\n    " ++ cause
  | _ => "\n\nCaused by:" ++ String.join (causes.zipIdx.map fun (cause, place) =>
      "\n    " ++ toString place ++ ": " ++ cause)

def writeEnd? : RunEnd → Option String
  | .success => none
  | .crash => none
  | .failure failure =>
      some ("Error: " ++ failure.messages.headD "" ++ writeCauses failure.messages.tail)
  | .usage error => some ("error: " ++ error.message)

end PolicyWatch.Detector
