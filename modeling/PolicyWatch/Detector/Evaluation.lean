import PolicyWatch.Detector.Basic
import PolicyWatch.FileTree
import PolicyWatch.Json.Decoder
import PolicyWatch.Text.Basic

/-!
# Evaluating events

Every line of the input is an event of its own.  A line that is none is skipped.
-/

namespace PolicyWatch.Detector

/-- What comes of a line of events. -/
inductive LineOutcome where
  | blank
  | malformed
  | matched (outcome : MatchOutcome)

namespace LineOutcome

def alerts : LineOutcome → List Alert
  | matched outcome => outcome.alerts
  | _ => []

def isEvent : LineOutcome → Bool
  | matched _ => true
  | _ => false

def records (number : Nat) : LineOutcome → List LogRecord
  | blank => []
  | malformed => [.warn "skipping malformed event" [("line", Json.ofNat number)]]
  | matched outcome =>
      if outcome.errors.isEmpty then []
      else [.warn "some policies failed to evaluate" [("line", Json.ofNat number)]]

end LineOutcome

def isBlankLine (line : List Char) : Bool :=
  (Text.trim line).isEmpty

def evaluateLine (detector : Detector) (line : List Char) : LineOutcome :=
  if isBlankLine line then .blank
  else
    match Json.readEvent? line with
    | none => .malformed
    | some event => .matched (detector.matchAll event)

def notes (outcomes : List LineOutcome) : List LogRecord :=
  (outcomes.zipIdx 1).flatMap fun entry => entry.1.records entry.2

def evaluateLines (detector : Detector) (lines : List (List Char)) : RunReport :=
  let outcomes := lines.map detector.evaluateLine
  let alerts := outcomes.flatMap LineOutcome.alerts
  ⟨alerts.map OutputLine.alert,
    notes outcomes ++ [.info "event evaluation finished"
      [("events", Json.ofNat (outcomes.countP LineOutcome.isEvent)),
        ("alerts", Json.ofNat alerts.length)]],
    .success⟩

def evaluateFront (detector : Detector) (lines : List (List Char)) : RunReport :=
  let outcomes := lines.map detector.evaluateLine
  ⟨(outcomes.flatMap LineOutcome.alerts).map OutputLine.alert, notes outcomes,
    .failure ((Failure.ofMessage FileEntry.spoiledFault).within "failed to read events")⟩

/-- Evaluate the events of a file, or of the input where no file is named. -/
def evaluate (detector : Detector) (files : FileTree) (input : String) (path? : Option String) :
    RunReport :=
  match path? with
  | none => detector.evaluateLines (Text.lines input.toList)
  | some path =>
      match files.entry? path with
      | none => .failed (.ofMessage ("failed to open events file: " ++ path))
      | some (.directory _) => .failed (.ofMessage "failed to read events")
      | some (.spoiled front) => detector.evaluateFront (Text.lines front.toList)
      | some (.file text) => detector.evaluateLines (Text.lines text.toList)

end PolicyWatch.Detector
