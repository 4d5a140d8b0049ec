import PolicyWatch.CommandLine.Options

/-!
# The command line

What the command line asks for: where settings and policies are, and one command.
-/

namespace PolicyWatch.CommandLine

inductive Command where
  | check
  | evaluate (events : Option String)
  | reprocess (deployments : String) (cluster : Option String)
      (maxConcurrency waitSeconds workers : Option Nat)
  deriving DecidableEq, Repr

/-- What the command line asks for. -/
structure Request where
  config : String
  policies : Option String
  logLevel : Option String
  command : Command
  deriving DecidableEq, Repr

/-- The name of the settings file unless another is given. -/
def defaultConfig : String := "config.yaml"

/-- The options before a command, and the commands. -/
def mainGrammar : Grammar where
  options := [⟨"config", some 'c', .path⟩, ⟨"policies", some 'p', .path⟩,
    ⟨"log-level", none, .text⟩]
  commands := ["check", "evaluate", "reprocess", "help"]
  hasVersion := true

def evaluateGrammar : Grammar where
  options := [⟨"events", some 'e', .path⟩]
  commands := []
  hasVersion := false

def reprocessGrammar : Grammar where
  options := [⟨"deployments", some 'd', .path⟩, ⟨"cluster", none, .text⟩,
    ⟨"max-concurrency", none, .natural⟩, ⟨"wait-secs", none, .natural⟩,
    ⟨"workers", none, .natural⟩]
  commands := []
  hasVersion := false

/-- The options of a command without any. -/
def bareGrammar : Grammar := ⟨[], [], false⟩

def readOptions (grammar : Grammar) (words : List String) : Except UsageError Given := do
  let (given, _) ← grammar.read false Given.none words
  given.resolve

def naturalAt (given : Given) (long : String) : Option Nat :=
  match (given.get? long).map fun value =>
    Text.readNumeral Text.Bounds.unsigned64 value.toList with
  | some (.ok value) => some value.toNat
  | _ => none

/-- Answer a request for help on commands: only the commands themselves have
help. -/
def readHelp (words : List String) : UsageError :=
  match words with
  | [] => .helpAsked
  | [name] => if mainGrammar.commands.contains name then .helpAsked else .unknownCommand
  | _ => .unknownCommand

def readCommand (words : Grammar.CommandWords) : Except UsageError Command :=
  match words.name with
  | "check" => do
      let _ ← readOptions bareGrammar words.rest
      return .check
  | "evaluate" => do
      let given ← readOptions evaluateGrammar words.rest
      return .evaluate (given.get? "events")
  | "reprocess" => do
      let given ← readOptions reprocessGrammar words.rest
      match given.get? "deployments" with
      | some deployments =>
          return .reprocess deployments (given.get? "cluster") (naturalAt given "max-concurrency")
            (naturalAt given "wait-secs") (naturalAt given "workers")
      | none => throw .missingRequired
  | _ => .error (readHelp words.rest)

/-- Read a command line, without the name of the program.  The command is read
before the last option in front of it is settled. -/
def parse (words : List String) : Except UsageError Request := do
  let (given, command?) ← mainGrammar.read false Given.none words
  match command? with
  | some commandWords =>
      let command ← readCommand commandWords
      let settled ← given.resolve
      return ⟨(settled.get? "config").getD defaultConfig, settled.get? "policies",
        settled.get? "log-level", command⟩
  | none =>
      let settled ← given.resolve
      throw (if settled.values.isEmpty then .nothingGiven else .missingCommand)

end PolicyWatch.CommandLine
