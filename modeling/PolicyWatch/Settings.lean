import PolicyWatch.CommandLine.Basic
import PolicyWatch.Failure
import PolicyWatch.Label.Source
import PolicyWatch.Yaml.Decoder

/-!
# Settings

What a settings file says, with a default for everything that it leaves out.
-/

namespace PolicyWatch

variable {m : Type → Type} [DecodeMonad m] {Value : Type}

/-- Labels by the ID of their cluster or namespace, in ascending order of IDs. -/
abbrev LabelTable := List (String × LabelMap)

namespace LabelTable

def put (id : String) (labels : LabelMap) : LabelTable → LabelTable
  | [] => [(id, labels)]
  | (other, held) :: rest =>
      if id < other then (id, labels) :: (other, held) :: rest
      else if id = other then (id, labels) :: rest
      else (other, held) :: put id labels rest

/-- The table of entries in order, of which the last under an ID counts. -/
def ofList (entries : List (String × LabelMap)) : LabelTable :=
  entries.foldl (fun grown entry => put entry.1 entry.2 grown) []

def decode (format : Format m Value) (value : Value) : m LabelTable := do
  let entries ← format.entries value
  return ofList (← Format.eachEntry format.labels entries)

end LabelTable

structure LabelSettings where
  clusters : LabelTable
  namespaces : LabelTable
  deriving DecidableEq

/-- The settings of reprocessing.  A wait of no seconds has no end. -/
structure ReprocessingSettings where
  maxConcurrency : Nat
  waitSeconds : Nat
  workers : Nat
  deriving DecidableEq, Repr

structure Settings where
  level : String
  policies : String
  labels : LabelSettings
  reprocessing : ReprocessingSettings
  deriving DecidableEq

namespace LabelSettings

def default : LabelSettings := ⟨[], []⟩

def decode (format : Format m Value) (value : Value) : m LabelSettings := do
  match ← format.fields ["clusters", "namespaces"] value with
  | [clusters, namespaces] =>
      return ⟨← Format.withDefault [] (LabelTable.decode format) clusters,
        ← Format.withDefault [] (LabelTable.decode format) namespaces⟩
  | _ => failure

/-- What the labels answer to look-ups. -/
def answers (labels : LabelSettings) : LabelAnswers := fun kind id =>
  let table := match kind with
    | .clusterLabels => labels.clusters
    | .namespaceLabels => labels.namespaces
  match table.lookup id with
  | some found => .found found
  | none => .missing

end LabelSettings

namespace ReprocessingSettings

def default : ReprocessingSettings := ⟨16, 30, 17⟩

/-- A number of sixty-four bits, with a default. -/
def decodeNatural (format : Format m Value) (fallback : Nat) : Option Value → m Nat :=
  Format.withDefault fallback fun value => do
    return (← format.integer Text.Bounds.unsigned64 value).toNat

def decode (format : Format m Value) (value : Value) : m ReprocessingSettings := do
  match ← format.fields ["max_concurrency", "semaphore_wait_secs", "workers"] value with
  | [maxConcurrency, waitSeconds, workers] =>
      return {
        maxConcurrency := ← decodeNatural format default.maxConcurrency maxConcurrency
        waitSeconds := ← decodeNatural format default.waitSeconds waitSeconds
        workers := ← decodeNatural format default.workers workers }
  | _ => failure

/-- Refuse settings with which reprocessing would never go on. -/
def validate (settings : ReprocessingSettings) : Except Failure Unit :=
  if settings.maxConcurrency = 0 then
    .error (.ofMessage "reprocessing.max_concurrency must be at least 1")
  else if settings.workers = 0 then
    .error (.ofMessage "reprocessing.workers must be at least 1")
  else .ok ()

/-- The time that a request waits at most, in milliseconds; none waits for ever. -/
def waitMilliseconds (settings : ReprocessingSettings) : Nat :=
  settings.waitSeconds * 1000

end ReprocessingSettings

namespace Settings

def default : Settings :=
  ⟨"info", "policies", LabelSettings.default, ReprocessingSettings.default⟩

def decodeText (format : Format m Value) (name fallback : String) : Option Value → m String :=
  Format.withDefault fallback fun value => do
    match ← format.fields [name] value with
    | [text] => Format.withDefault fallback format.text text
    | _ => failure

def decode (format : Format m Value) (value : Value) : m Settings := do
  match ← format.fields ["logging", "policies", "labels", "reprocessing"] value with
  | [logging, policies, labels, reprocessing] =>
      return {
        level := ← decodeText format "level" default.level logging
        policies := ← decodeText format "dir" default.policies policies
        labels := ← Format.withDefault LabelSettings.default (LabelSettings.decode format) labels
        reprocessing := ← Format.withDefault ReprocessingSettings.default
          (ReprocessingSettings.decode format) reprocessing }
  | _ => failure

def ofText? (text : String) : Option Settings := do
  let document ← Yaml.Document.ofText? text.toList
  document.decode? decode

def override (settings : Settings) (request : CommandLine.Request) : Settings :=
  let reprocessing := match request.command with
    | .reprocess _ _ maxConcurrency waitSeconds workers =>
        ⟨maxConcurrency.getD settings.reprocessing.maxConcurrency,
          waitSeconds.getD settings.reprocessing.waitSeconds,
          workers.getD settings.reprocessing.workers⟩
    | _ => settings.reprocessing
  { settings with
    policies := request.policies.getD settings.policies
    level := request.logLevel.getD settings.level
    reprocessing }

end Settings

end PolicyWatch
