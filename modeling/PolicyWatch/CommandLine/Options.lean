import PolicyWatch.Text.Numeral

/-!
# Options on a command line

Options are read from the left.  An option that takes a value takes it from its
own word or, if that holds none, from the next word unless that starts with a
dash.  A value is checked when the next option, or the end, shows that it is
complete.
-/

namespace PolicyWatch.CommandLine

/-- Why a command line cannot be followed; a request for help counts as one. -/
inductive UsageError where
  | unknownArgument
  | unknownCommand
  | missingCommand
  | missingRequired
  | repeatedOption
  | missingValue
  | malformedValue
  | needlessValue
  | helpAsked
  | versionAsked
  | nothingGiven
  deriving DecidableEq, Repr

def UsageError.message : UsageError → String
  | unknownArgument => "unexpected argument"
  | unknownCommand => "unrecognized subcommand"
  | missingCommand => "a subcommand is required"
  | missingRequired => "a required argument was not provided"
  | repeatedOption => "an argument cannot be used multiple times"
  | missingValue => "a value is required for an argument"
  | malformedValue => "invalid value for an argument"
  | needlessValue => "unexpected value for an argument"
  | helpAsked | versionAsked | nothingGiven =>
      "usage: detector [--config FILE] [--policies PATH] [--log-level LEVEL] COMMAND"

/-- The values that an option admits. -/
inductive ValueForm where
  | path
  | text
  | natural
  deriving DecidableEq, Repr

/-- An option that takes a value. -/
structure OptionForm where
  long : String
  short : Option Char
  form : ValueForm
  deriving DecidableEq

/-- What may stand on a command line: options, and the names of commands. -/
structure Grammar where
  options : List OptionForm
  commands : List String
  hasVersion : Bool

/-- The options given, and the last of them as long as its value may be missing. -/
structure Given where
  values : List (String × String)
  pending : Option (OptionForm × Option String)
  deriving DecidableEq

namespace Given

def none : Given := ⟨[], Option.none⟩

def get? (given : Given) (long : String) : Option String :=
  given.values.lookup long

def check (form : ValueForm) (value : String) : Except UsageError Unit :=
  match form with
  | .path => if value = "" then .error .missingValue else .ok ()
  | .text => .ok ()
  | .natural =>
      match Text.readNumeral Text.Bounds.unsigned64 value.toList with
      | .ok _ => .ok ()
      | .error _ => .error .malformedValue

/-- Settle an option; none is given twice. -/
def settle (given : Given) (option : OptionForm) (value : String) : Except UsageError Given := do
  if (given.get? option.long).isSome then throw .repeatedOption
  check option.form value
  return { given with values := given.values ++ [(option.long, value)] }

/-- Settle the option whose value may be missing. -/
def resolve (given : Given) : Except UsageError Given :=
  match given.pending with
  | Option.none => .ok given
  | some (_, Option.none) => .error .missingValue
  | some (option, some value) => { given with pending := Option.none }.settle option value

def start (given : Given) (option : OptionForm) (attached : Option String) :
    Except UsageError Given := do
  let resolved ← given.resolve
  match attached with
  | some value => resolved.settle option value
  | Option.none => return { resolved with pending := some (option, Option.none) }

/-- Whether the next word may be the value of an option. -/
def awaitsValue (given : Given) : Bool :=
  match given.pending with
  | some (_, Option.none) => true
  | _ => false

/-- Take a word as the value of the option that awaits one. -/
def supply (given : Given) (value : String) : Given :=
  { given with pending := given.pending.map fun (option, _) => (option, some value) }

end Given

def splitAtEquals (text : List Char) : List Char × Option (List Char) :=
  match text.dropWhile (· != '=') with
  | [] => (text, none)
  | _ :: value => (text.takeWhile (· != '='), some value)

namespace Grammar

/-- Ask for help or for the version. -/
def interrupt (given : Given) (error : UsageError) : Except UsageError Given := do
  let _ ← given.resolve
  throw error

/-- Read a word after its two dashes. -/
def readLong (grammar : Grammar) (given : Given) (word : List Char) : Except UsageError Given :=
  let (name, attached) := splitAtEquals word
  match grammar.options.find? fun option => option.long.toList = name with
  | some option => given.start option (attached.map String.ofList)
  | none =>
      let asked? : Option UsageError :=
        if name = "help".toList then some .helpAsked
        else if grammar.hasVersion ∧ name = "version".toList then some .versionAsked
        else none
      match asked?, attached with
      | some error, none => interrupt given error
      | some _, some _ => .error .needlessValue
      | none, _ => .error .unknownArgument

/-- Read a word after its one dash.  What follows the letter of an option is its
value, without an equals sign in front. -/
def readShort (grammar : Grammar) (given : Given) (word : List Char) : Except UsageError Given :=
  match word with
  | [] => .ok given
  | letter :: rest =>
      match grammar.options.find? fun option => option.short = some letter with
      | some option =>
          match rest with
          | [] => given.start option none
          | '=' :: value => given.start option (some (String.ofList value))
          | value => given.start option (some (String.ofList value))
      | none =>
          if letter = 'h' then interrupt given .helpAsked
          else if grammar.hasVersion ∧ letter = 'V' then interrupt given .versionAsked
          else .error .unknownArgument

/-- What is wrong with a word that is no option and no value. -/
def strayWord (grammar : Grammar) (isEscaped : Bool) (word : String) : UsageError :=
  if grammar.commands.isEmpty || (isEscaped && grammar.commands.contains word) then
    .unknownArgument
  else .unknownCommand

structure CommandWords where
  name : String
  rest : List String

/-- Read options up to a command or the end.  After two dashes alone no word is an
option or a command. -/
def read (grammar : Grammar) :
    Bool → Given → List String → Except UsageError (Given × Option CommandWords)
  | _, given, [] => .ok (given, none)
  | true, _, word :: _ => .error (strayWord grammar true word)
  | false, given, word :: rest =>
      if !given.awaitsValue && grammar.commands.contains word then
        .ok (given, some ⟨word, rest⟩)
      else
        match word.toList with
        | ['-', '-'] => read grammar true given rest
        | '-' :: '-' :: long => do
            let next ← grammar.readLong given long
            read grammar false next rest
        | '-' :: letter :: letters => do
            let next ← grammar.readShort given (letter :: letters)
            read grammar false next rest
        | _ =>
            if given.awaitsValue then read grammar false (given.supply word) rest
            else .error (strayWord grammar false word)

end Grammar

end PolicyWatch.CommandLine
