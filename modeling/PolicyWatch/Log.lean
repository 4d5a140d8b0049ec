import PolicyWatch.Json.Basic
import PolicyWatch.Text.Basic
import PolicyWatch.Text.Numeral
import PolicyWatch.Unicode.Property

/-!
# Logs

Records of what happened, and filters that let some of them through.  A filter is
written as directives between commas: a level, or a target with or without a
level.  The directive that says most about a record decides.
-/

namespace PolicyWatch

/-- How grave a record is, gravest first. -/
inductive LogLevel where
  | error
  | warn
  | info
  | debug
  | trace
  deriving DecidableEq, Repr

namespace LogLevel

def name : LogLevel → String
  | error => "ERROR"
  | warn => "WARN"
  | info => "INFO"
  | debug => "DEBUG"
  | trace => "TRACE"

/-- The least limit that lets a level through. -/
def rank : LogLevel → Nat
  | error => 1
  | warn => 2
  | info => 3
  | debug => 4
  | trace => 5

end LogLevel

structure LogRecord where
  level : LogLevel
  message : String
  fields : List (String × Json)

namespace LogRecord

def fieldNames (record : LogRecord) : List String :=
  "message" :: record.fields.map Prod.fst

end LogRecord

/-- A directive: records of a target, or of all, up to a limit between none and
five.  Some directives are only for records with a field, some only for records
inside of a span. -/
structure LogDirective where
  target : Option String
  field : Option String
  isForSpans : Bool
  limit : Nat
  deriving DecidableEq, Repr

namespace LogDirective

/-- The limit that lets everything through. -/
def greatestLimit : Nat := 5

/-- The limit that a level stands for: a number, or a name in any case. -/
def limitOf? (text : List Char) : Option Nat :=
  match Text.readNumeral Text.Bounds.unsigned64 text with
  | .ok value => if value ≤ greatestLimit then some value.toNat else none
  | .error _ =>
      [("off", 0), ("error", 1), ("warn", 2), ("info", 3), ("debug", 4),
        ("trace", 5)].lookup (String.ofList (Text.lowerBasic text))

/-- The limit after an equals sign.  Nothing there lets everything through. -/
def limitAfter? (text : List Char) : Option Nat :=
  if text.isEmpty then some greatestLimit else limitOf? text

def canStart (character : Char) : Bool :=
  character == '-' || character == ':' || character == '_' ||
    Unicode.alphabeticSet.contains character || Unicode.numericSet.contains character

/-- Read the end of a directive, after its target and its brackets. -/
def readEnd? (directive : LogDirective) : List Char → Option LogDirective
  | [] => some directive
  | '=' :: level => (limitAfter? level).map fun limit => { directive with limit }
  | _ => none

/-- Read a field in braces, and the bracket after it.  A field that is to have a
value is looked for only inside of spans. -/
def readField? (directive : LogDirective) (text : List Char) : Option LogDirective :=
  let (field, rest) := text.span (· != '}')
  match field, rest with
  | [], _ => none
  | _, '}' :: ']' :: afterwards =>
      let name := field.takeWhile (· != '=')
      readEnd? { directive with
        field := some (String.ofList name)
        isForSpans := directive.isForSpans || name != field } afterwards
  | _, _ => none

/-- Read what stands in brackets: the name of a span, a field, or both. -/
def readBrackets? (directive : LogDirective) (text : List Char) : Option LogDirective :=
  let (span, rest) := text.span fun character => character != ']' && character != '\x7b'
  match rest with
  | ']' :: afterwards => readEnd? { directive with isForSpans := true } afterwards
  | '\x7b' :: inner => readField? { directive with isForSpans := !span.isEmpty } inner
  | _ => none

/-- Read a directive.  A single word is a level or else a target. -/
def read? (text : List Char) : Option LogDirective :=
  let everything : LogDirective := ⟨none, none, false, greatestLimit⟩
  match Text.trim text with
  | [] => none
  | '[' :: inner => readBrackets? everything inner
  | first :: _ =>
      if canStart first then
        let (word, rest) := text.span fun character => character != '=' && character != '['
        let targeted := { everything with target := some (String.ofList word) }
        match rest with
        | '=' :: level => (limitAfter? level).map fun limit => { targeted with limit }
        | '[' :: inner => readBrackets? targeted inner
        | _ =>
            match limitOf? word with
            | some limit => some { everything with limit }
            | none => some targeted
      else none

def applies (directive : LogDirective) (target : String) (fieldNames : List String) : Bool :=
  !directive.isForSpans && (directive.target.getD "").isPrefixOf target &&
    directive.field.all fieldNames.contains

/-- How much a directive says. -/
def weight (directive : LogDirective) : Nat :=
  2 * (directive.target.map fun target => target.length + 1).getD 0 + directive.field.toList.length

/-- Whether a directive does not give way to one that comes after it. -/
def outweighs (earlier later : LogDirective) : Bool :=
  if earlier.weight = later.weight then decide (later.field.getD "" < earlier.field.getD "")
  else decide (later.weight < earlier.weight)

end LogDirective

structure LogFilter where
  directives : List LogDirective
  deriving DecidableEq, Repr

namespace LogFilter

/-- The filter of a text.  Directives that cannot be read are ignored; if there
is none at all, only errors get through. -/
def ofText (text : String) : LogFilter :=
  let directives := ((text.splitOn ",").filter (· != "")).filterMap fun part =>
    LogDirective.read? part.toList
  ⟨if directives.isEmpty then [⟨none, none, false, LogLevel.error.rank⟩] else directives⟩

def deciding? (filter : LogFilter) (target : String) (fieldNames : List String) :
    Option LogDirective :=
  (filter.directives.filter (·.applies target fieldNames)).foldl
    (fun best next =>
      match best with
      | none => some next
      | some held => if held.outweighs next then some held else some next)
    none

def passes (filter : LogFilter) (target : String) (record : LogRecord) : Bool :=
  match filter.deciding? target record.fieldNames with
  | some directive => decide (record.level.rank ≤ directive.limit)
  | none => false

end LogFilter

end PolicyWatch
