import Mathlib.Data.List.Forall2
import PolicyWatch.Detector.Command
import PolicyWatch.Detector.Output
import PolicyWatch.Proofs.Json.Reading
import PolicyWatch.Proofs.Registry.Isolation
import PolicyWatch.Proofs.Text.Lines

/-!
# Every line is evaluated on its own

What a run that evaluates events puts out.  Main statement: a run ends well and puts out the alerts
of each line that is an event, whatever stands before and after that line, and policies that do not
compile have no part in it.
-/

namespace PolicyWatch

open PolicyWatch.Text

/-! ## Blank lines -/

namespace Json

/-- Neither a value nor the sign or a digit of a number begins with a blank. -/
theorem readValue_of_isBlank (fuel : Nat) {first : Char} (rest : List Char)
    (blank : isBlank first = true) : readValue (fuel + 1) (first :: rest) = none := by
  have unmarked : first ∉ ['n', 't', 'f', '"', '[', '\x7b'] := by
    intro member
    simp only [List.mem_cons, List.not_mem_nil, or_false] at member
    rcases member with rfl | rfl | rfl | rfl | rfl | rfl <;> exact absurd blank (by decide)
  have notDigit : first.isDigit = false := by
    rw [Bool.eq_false_iff]
    intro isDigit
    have range := toNat_of_isDigit isDigit
    simp only [isBlank, Bool.or_eq_true, Bool.and_eq_true, decide_eq_true_eq, beq_iff_eq] at blank
    omega
  rw [readValue_of_unmarked fuel rest unmarked, readNumber]
  · simp [readMagnitude, spanDigits, notDigit]
  · rintro tail ⟨⟩
    exact absurd blank (by decide)

theorem ofText?_of_isBlank {text : List Char}
    (blank : ∀ character ∈ text, isBlank character = true) : ofText? text = none := by
  have nothing : readValue (2 * text.length + 1) (skipGap text) = none := by
    cases left : skipGap text with
    | nil => rfl
    | cons first rest =>
        have isLeft : first ∈ skipGap text := by
          rw [left]
          exact List.mem_cons_self
        exact readValue_of_isBlank _ rest (blank first ((List.dropWhile_sublist _).mem isLeft))
  rw [ofText?, nothing]

end Json

/-! ## Records -/

namespace RunReport

variable (records : List LogRecord) (record : LogRecord) (report : RunReport)

@[simp] theorem lines_after : (report.after records).lines = report.lines := rfl

@[simp] theorem ending_after : (report.after records).ending = report.ending := rfl

@[simp] theorem lines_closingWith : (report.closingWith record).lines = report.lines := by
  unfold closingWith
  split <;> rfl

@[simp] theorem ending_closingWith : (report.closingWith record).ending = report.ending := by
  unfold closingWith
  split <;> rfl

end RunReport

namespace Detector

/-! ## One line after the other -/

theorem readEvent?_of_isBlankLine {line : List Char} (blank : isBlankLine line = true) :
    Json.readEvent? line = none := by
  have allBlank := trim_eq_nil_iff.1 (List.isEmpty_iff.1 blank)
  rw [Json.readEvent?, Json.ofText?_of_isBlank allBlank]
  rfl

def eventsOf (text : List Char) : List Event :=
  (lines text).filterMap Json.readEvent?

/-- The events of a text that ends with the end of a line and of another text are those of both. -/
theorem eventsOf_append {front : List Char} (ended : EndsLine front) (back : List Char) :
    eventsOf (front ++ back) = eventsOf front ++ eventsOf back := by
  unfold eventsOf
  rw [lines_append ended, List.filterMap_append]

def isIdle (line : List Char) : Bool :=
  isBlankLine line || (Json.readEvent? line).isNone

theorem filterMap_readEvent?_of_not_isIdle (lines : List (List Char)) :
    (lines.filter (!isIdle ·)).filterMap Json.readEvent? = lines.filterMap Json.readEvent? := by
  induction lines with
  | nil => rfl
  | cons first others ih =>
      by_cases idle : isIdle first = true
      · have noEvent : Json.readEvent? first = none := by
          rcases Bool.or_eq_true_iff.1 idle with blank | noEvent
          · exact readEvent?_of_isBlankLine blank
          · exact Option.isNone_iff_eq_none.1 noEvent
        rw [List.filter_cons_of_neg (by simp [idle]), ih, List.filterMap_cons_none noEvent]
      · rw [List.filter_cons_of_pos (by simp [idle]), List.filterMap_cons, List.filterMap_cons, ih]

variable (detector : Detector)

def alertsOn (events : List Event) : List Alert :=
  events.flatMap fun event => (detector.matchAll event).alerts

theorem alertsOn_append (first second : List Event) :
    detector.alertsOn (first ++ second) = detector.alertsOn first ++ detector.alertsOn second :=
  List.flatMap_append

theorem alerts_evaluateLine (line : List Char) :
    (detector.evaluateLine line).alerts = detector.alertsOn (Json.readEvent? line).toList := by
  unfold evaluateLine
  split
  · rename_i blank
    rw [readEvent?_of_isBlankLine blank]
    rfl
  · cases Json.readEvent? line with
    | none => rfl
    | some event => exact (List.flatMap_singleton ..).symm

theorem evaluateLines_lines (lines : List (List Char)) :
    (detector.evaluateLines lines).lines =
      (detector.alertsOn (lines.filterMap Json.readEvent?)).map .alert := by
  have alerts : (lines.map detector.evaluateLine).flatMap LineOutcome.alerts =
      detector.alertsOn (lines.filterMap Json.readEvent?) := by
    induction lines with
    | nil => rfl
    | cons first others ih =>
        rw [List.map_cons, List.flatMap_cons, alerts_evaluateLine, ih, ← alertsOn_append]
        cases read : Json.readEvent? first with
        | none => rw [List.filterMap_cons_none read]; rfl
        | some event => rw [List.filterMap_cons_some read]; rfl
  exact congrArg (List.map OutputLine.alert) alerts

theorem writeLines_alerts (time : Instant) (bytes : Entropy) (alerts : List Alert) :
    List.Forall₂ (fun written alert => ∃ id, written = (stamp time id alert).write)
      (writeLines time bytes (alerts.map .alert)) alerts := by
  induction alerts generalizing bytes with
  | nil => exact .nil
  | cons first others ih => exact .cons ⟨bytes.take idLength, rfl⟩ (ih _)

/-! ## Policies that do not compile -/

def compiles [SizeLimit] (supply : LabelSupply) (policy : Policy) : Bool :=
  (CompiledPolicy.compile supply policy).isOk

theorem register_filter_compiles [SizeLimit] (policies : List Policy) (registry : Registry) :
    (register (policies.filter (compiles registry.supply)) registry).1 =
      (register policies registry).1 := by
  induction policies generalizing registry with
  | nil => rfl
  | cons first others ih =>
      cases made : CompiledPolicy.compile registry.supply first with
      | ok compiled =>
          have isKept : compiles registry.supply first = true := by
            rw [compiles, made]
            rfl
          have installed : registry.upsert first = .ok (registry.insert compiled) :=
            Registry.upsert_of_ok made
          rw [List.filter_cons_of_pos isKept]
          simp only [register, installed]
          exact ih (registry.insert compiled)
      | error fault =>
          have isDropped : ¬ compiles registry.supply first = true := by
            rw [compiles, made]
            exact Bool.false_ne_true
          have refused : registry.upsert first = .error fault := Registry.upsert_of_error made
          rw [List.filter_cons_of_neg isDropped]
          simp only [register, refused]
          exact ih registry

theorem ofPolicies_filter_compiles [SizeLimit] (labels : LabelSettings) (now : Instant)
    (policies : List Policy) :
    (ofPolicies labels now (policies.filter (compiles .full))).1 =
      (ofPolicies labels now policies).1 := by
  have registered := register_filter_compiles policies (.empty .full)
  exact congrArg (Detector.mk · labels.answers now) registered

/-! ## Whole runs -/

/-- How the program is started: with what files, what input and what words. -/
structure Invocation where
  files : FileTree
  input : String
  words : List String

namespace Invocation

def report [SizeLimit] (invocation : Invocation) (now : Instant) : RunReport :=
  run invocation.files invocation.input now invocation.words

/-- The text of the file of events, or the input where no file is named. -/
def eventText? (invocation : Invocation) : Option String → Option String
  | none => some invocation.input
  | some path => invocation.files.text? path

/-- Whether a run is asked to evaluate the events of a text, against policies that were read and
labels of the settings. -/
def Evaluates (invocation : Invocation) (labels : LabelSettings) (policies : List Policy)
    (text : String) : Prop :=
  ∃ request settings path?, CommandLine.parse invocation.words = .ok request ∧
    settle invocation.files request = .ok settings ∧ settings.labels = labels ∧
    loadPolicies invocation.files settings.policies = .ok policies ∧
    request.command = .evaluate path? ∧ invocation.eventText? path? = some text

end Invocation

theorem evaluate_eq (detector : Detector) {invocation : Invocation} {path? : Option String}
    {text : String} (found : invocation.eventText? path? = some text) :
    detector.evaluate invocation.files invocation.input path? =
      detector.evaluateLines (lines text.toList) := by
  cases path? with
  | none =>
      cases found
      rfl
  | some path =>
      have isFile := FileTree.text?_eq_some_iff.1 found
      simp only [evaluate, isFile]

theorem Invocation.report_of_loaded [SizeLimit] {invocation : Invocation}
    {request : CommandLine.Request} {settings : Settings} {policies : List Policy}
    (parsed : CommandLine.parse invocation.words = .ok request)
    (settled : settle invocation.files request = .ok settings)
    (loaded : loadPolicies invocation.files settings.policies = .ok policies) (now : Instant) :
    let report := (ofPolicies settings.labels now policies).1.carryOut invocation.files
      invocation.input (ofPolicies settings.labels now policies).2 settings request.command
    (invocation.report now).ending = report.ending ∧
    (invocation.report now).lines = report.lines := by
  intro report
  unfold Invocation.report run
  rw [parsed]
  dsimp only
  rw [settled]
  dsimp only
  unfold runWith
  rw [loaded]
  dsimp only
  simp only [RunReport.ending_after, RunReport.ending_closingWith, RunReport.lines_after,
    RunReport.lines_closingWith]
  exact ⟨rfl, rfl⟩

theorem Invocation.Evaluates.report_eq [SizeLimit] {invocation : Invocation}
    {labels : LabelSettings}
    {policies : List Policy} {text : String} (evaluates : invocation.Evaluates labels policies text)
    (now : Instant) :
    (invocation.report now).ending = .success ∧
      (invocation.report now).lines =
        ((ofPolicies labels now policies).1.alertsOn (eventsOf text.toList)).map .alert := by
  obtain ⟨request, settings, path?, parsed, settled, rfl, loaded, command, found⟩ := evaluates
  have carriedOut := evaluate_eq (ofPolicies settings.labels now policies).1 found
  obtain ⟨ending, lines⟩ := report_of_loaded parsed settled loaded now
  rw [command] at ending lines
  dsimp only [carryOut] at ending lines
  rw [ending, lines, carriedOut, evaluateLines_lines]
  exact ⟨rfl, rfl⟩

/-- What it means that every line is evaluated on its own, against policies with labels. -/
structure EvaluatesEachLine [SizeLimit] (labels : LabelSettings) (policies : List Policy)
    (now : Instant) : Prop where
  /-- Whatever the lines are, a run ends well, and what it puts out are the alerts of matching each
  line that is an event, in the order of the lines. -/
  raised : ∀ invocation text, Invocation.Evaluates invocation labels policies text →
    (invocation.report now).ending = .success ∧
      (invocation.report now).lines =
        ((ofPolicies labels now policies).1.alertsOn (eventsOf text.toList)).map .alert
  /-- Each alert is printed on a line, with an ID and the time. -/
  printed : ∀ invocation text bytes, Invocation.Evaluates invocation labels policies text →
    List.Forall₂ (fun written alert => ∃ id, written = (stamp now id alert).write)
      (writeLines now bytes (invocation.report now).lines)
      ((ofPolicies labels now policies).1.alertsOn (eventsOf text.toList))
  /-- Of lines followed by other lines a run puts out what it does of the first and then what it
  does of the others. -/
  together : ∀ first second both front back, EndsLine front.toList →
    Invocation.Evaluates first labels policies front →
    Invocation.Evaluates second labels policies back →
    Invocation.Evaluates both labels policies (front ++ back) →
      (both.report now).lines = (first.report now).lines ++ (second.report now).lines
  /-- Of texts with the same lines, but for those that are blank or no events, it puts out the
  same. -/
  skipped : ∀ one other text otherText,
    (lines text.toList).filter (!isIdle ·) = (lines otherText.toList).filter (!isIdle ·) →
    Invocation.Evaluates one labels policies text →
    Invocation.Evaluates other labels policies otherText →
      (one.report now).lines = (other.report now).lines
  /-- Against other policies of which the same compile, it puts out the same. -/
  compiled : ∀ one other text others,
    others.filter (compiles .full) = policies.filter (compiles .full) →
    Invocation.Evaluates one labels policies text →
    Invocation.Evaluates other labels others text →
      (one.report now).lines = (other.report now).lines
  /-- The compiled policies may stand in any order: that of the alerts on one event is all that
  depends on it. -/
  anyOrder : ∀ registry : Registry,
    registry.entries.Perm (ofPolicies labels now policies).1.registry.entries → ∀ event,
      (matchAll ⟨registry, labels.answers, now⟩ event).alerts.Perm
        ((ofPolicies labels now policies).1.matchAll event).alerts

/-- Entries in another order raise the same alerts on an event, in another order. -/
theorem alerts_perm {registry other : Registry} (reordered : other.entries.Perm registry.entries)
    (answers : LabelAnswers) (now : Instant) (event : Event) :
    (matchAll ⟨other, answers, now⟩ event).alerts.Perm
      (matchAll ⟨registry, answers, now⟩ event).alerts := by
  unfold matchAll
  rw [(other.matchAll_reports answers now event).1, (registry.matchAll_reports answers now event).1]
  exact (reordered.map Entry.compiled).filterMap _

/-- Every line is evaluated on its own, whatever the policies and the labels are. -/
theorem evaluates_each_line [SizeLimit] (labels : LabelSettings) (policies : List Policy)
    (now : Instant) :
    EvaluatesEachLine labels policies now := by
  constructor
  case raised =>
    intro invocation text evaluates
    exact evaluates.report_eq now
  case printed =>
    intro invocation text bytes evaluates
    rw [(evaluates.report_eq now).2]
    exact writeLines_alerts now bytes _
  case together =>
    intro first second both front back ended onFront onBack onBoth
    rw [(onFront.report_eq now).2, (onBack.report_eq now).2, (onBoth.report_eq now).2,
      String.toList_append, eventsOf_append ended, alertsOn_append, List.map_append]
  case skipped =>
    intro one other text otherText same onText onOther
    have sameEvents : eventsOf text.toList = eventsOf otherText.toList := by
      unfold eventsOf
      rw [← filterMap_readEvent?_of_not_isIdle, same, filterMap_readEvent?_of_not_isIdle]
    rw [(onText.report_eq now).2, (onOther.report_eq now).2, sameEvents]
  case compiled =>
    intro one other text others same onThese onOthers
    have sameDetector : (ofPolicies labels now policies).1 = (ofPolicies labels now others).1 := by
      rw [← ofPolicies_filter_compiles, ← same, ofPolicies_filter_compiles]
    rw [(onThese.report_eq now).2, (onOthers.report_eq now).2, sameDetector]
  case anyOrder =>
    intro registry reordered event
    exact alerts_perm reordered labels.answers now event

/-- A policy against deployments without replicas. -/
def noReplicas : Policy :=
  ⟨"p1", "Idle", none, .low, false, [.deploy], .notApplicable, [],
    [⟨none, [⟨"Replicas", ["0"], false, none⟩]⟩], [], [], []⟩

/-- A policy that does not compile: it says nothing. -/
def noSections : Policy :=
  ⟨"p2", "Void", none, .low, false, [], .notApplicable, [], [], [], [], []⟩

def twoPolicies : String :=
  "\n".intercalate ["version: '1.0'", "policies:", "- id: p1", "  name: Idle", "  severity: LOW",
    "  lifecycle_stages: [DEPLOY]", "  policy_sections:", "  - policy_groups:",
    "    - field_name: Replicas", "      values: ['0']",
    "- id: p2", "  name: Void", "  severity: LOW"]

/-- A run that evaluates its input against these policies. -/
def evaluating (input : String) : Invocation :=
  ⟨⟨fun path => if path = "policies.yaml" then some (.file twoPolicies) else none⟩, input,
    ["--policies", "policies.yaml", "evaluate"]⟩

/-- Between lines that are no events an event raises its alert. -/
theorem evaluates_each_line_around_event :
    let event : Event := .deployment ⟨"web", "web", "east", "", "", 0, .empty, []⟩
    let input := "\n".intercalate ["no event", " ", event.toJson.write, "\x7b"]
    let policies := [noReplicas, noSections]
    let now : Instant := ⟨2024, 2, 29, 12, 0, 0, 0⟩
    let detector := (ofPolicies .default now policies).1
    (evaluating input).Evaluates .default policies input ∧
      EvaluatesEachLine .default policies now ∧
      ((evaluating input).report now).lines = (detector.matchAll event).alerts.map .alert ∧
      (detector.matchAll event).alerts.length = 1 := by
  intro event input policies now detector
  have asked : (evaluating input).Evaluates .default policies input := by
    have loaded : loadPolicies (evaluating input).files "policies.yaml" = .ok policies := by
      decide +kernel
    exact ⟨_, _, none, rfl, rfl, rfl, loaded, rfl, rfl⟩
  have eachLine := evaluates_each_line .default policies now
  refine ⟨asked, eachLine, ?_, by decide +kernel⟩
  rw [(eachLine.raised _ _ asked).2]
  decide +kernel

end Detector

end PolicyWatch
