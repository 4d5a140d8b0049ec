import PolicyWatch.Event
import PolicyWatch.Instant.Text
import PolicyWatch.Text.Numeral

/-!
# Decoding written data

Policies, events and settings are written in two formats.  A format says how
its values stand for text, numbers, lists and records; the records themselves
are described once.
-/

namespace PolicyWatch

/-- What reading data does besides giving them, failures among it. -/
class DecodeMonad (m : Type → Type) extends Monad m, Alternative m

instance : DecodeMonad Option where

instance {σ : Type} : DecodeMonad (StateT σ Option) where

/-- How the values of a format stand for data, and what else reading them does.  Each reading
fails on a value of another shape. -/
structure Format (m : Type → Type) (Value : Type) where
  text : Value → m String
  flag : Value → m Bool
  integer : Text.Bounds → Value → m Int
  elements : Value → m (List Value)
  /-- The entries of a map from keys to values, in written order. -/
  entries : Value → m (List (String × Value))
  /-- The values of named fields, in the order of the names; a field may be
  missing, and may not be given twice. -/
  fields : List String → Value → m (List (Option Value))
  /-- The inner `none` is a value that says that nothing is set. -/
  settable : Value → m (Option Value)
  /-- The name that a value chooses. -/
  choice : Value → m String

namespace Format

variable {m : Type → Type} {Value α : Type} [DecodeMonad m]

/-- What a reading that may fail gives. -/
def given : Option α → m α
  | some data => pure data
  | none => failure

@[simp] theorem given_option (data? : Option α) : given data? = data? := by
  cases data? <;> rfl

/-- A field that must be given. -/
def required (decode : Value → m α) : Option Value → m α
  | some value => decode value
  | none => failure

/-- A field that may be missing, but not unset. -/
def withDefault (fallback : α) (decode : Value → m α) : Option Value → m α
  | none => pure fallback
  | some value => decode value

def optional (format : Format m Value) (decode : Value → m α) (value : Value) :
    m (Option α) := do
  match ← format.settable value with
  | some inner => return some (← decode inner)
  | none => return none

def optionalField (format : Format m Value) (decode : Value → m α) :
    Option Value → m (Option α) :=
  withDefault none (format.optional decode)

def each (decode : Value → m α) : List Value → m (List α)
  | [] => pure []
  | value :: rest => do
      let first ← decode value
      let others ← each decode rest
      return first :: others

def list (format : Format m Value) (decode : Value → m α) (value : Value) : m (List α) := do
  each decode (← format.elements value)

def listField (format : Format m Value) (decode : Value → m α) :
    Option Value → m (List α) :=
  withDefault [] (format.list decode)

/-- A chosen name among those that stand for something. -/
def named (format : Format m Value) (named? : String → Option α) (value : Value) : m α := do
  given (named? (← format.choice value))

def eachEntry (decode : Value → m α) : List (String × Value) → m (List (String × α))
  | [] => pure []
  | (key, value) :: rest => do
      let first ← decode value
      let others ← eachEntry decode rest
      return (key, first) :: others

/-- A map of labels; the last of several values under a key counts. -/
def labels (format : Format m Value) (value : Value) : m LabelMap := do
  let entries ← format.entries value
  return LabelMap.ofList (← eachEntry format.text entries)

def textField (format : Format m Value) : Option Value → m String :=
  withDefault "" format.text

end Format

variable {m : Type → Type} {Value : Type} [DecodeMonad m]

def ScopeLabel.decode (format : Format m Value) (value : Value) : m ScopeLabel := do
  match ← format.fields ["key", "value"] value with
  | [key, text] => return ⟨← Format.required format.text key, ← Format.required format.text text⟩
  | _ => failure

def Scope.decode (format : Format m Value) (value : Value) : m Scope := do
  match ← format.fields ["cluster", "namespace", "cluster_label", "namespace_label"] value with
  | [cluster, namespaceName, clusterLabel, namespaceLabel] =>
      return {
        cluster := ← format.optionalField format.text cluster
        namespaceName := ← format.optionalField format.text namespaceName
        clusterLabel := ← format.optionalField (ScopeLabel.decode format) clusterLabel
        namespaceLabel := ← format.optionalField (ScopeLabel.decode format) namespaceLabel }
  | _ => failure

def ExcludedDeployment.decode (format : Format m Value) (value : Value) :
    m ExcludedDeployment := do
  match ← format.fields ["name", "scope"] value with
  | [name, scope] =>
      return {
        name := ← format.optionalField format.text name
        scope := ← format.optionalField (Scope.decode format) scope }
  | _ => failure

def Instant.decode (format : Format m Value) (value : Value) : m Instant := do
  Format.given (Instant.ofText? (← format.text value).toList)

def Exclusion.decode (format : Format m Value) (value : Value) : m Exclusion := do
  match ← format.fields ["name", "deployment", "expiration"] value with
  | [name, deployment, expiration] =>
      return {
        name := ← format.textField name
        deployment := ← format.optionalField (ExcludedDeployment.decode format) deployment
        expiration := ← format.optionalField (Instant.decode format) expiration }
  | _ => failure

def PolicyGroup.decode (format : Format m Value) (value : Value) : m PolicyGroup := do
  match ← format.fields ["field_name", "values", "negate", "operations"] value with
  | [fieldName, values, negate, operations] =>
      return {
        fieldName := ← Format.required format.text fieldName
        values := ← format.listField format.text values
        negate := ← Format.withDefault false format.flag negate
        operations := ← format.optionalField
          (format.list (format.named FileOperation.named?)) operations }
  | _ => failure

def PolicySection.decode (format : Format m Value) (value : Value) : m PolicySection := do
  match ← format.fields ["section_name", "policy_groups"] value with
  | [sectionName, groups] =>
      return {
        sectionName := ← format.optionalField format.text sectionName
        groups := ← format.listField (PolicyGroup.decode format) groups }
  | _ => failure

def Policy.fieldNames : List String :=
  ["id", "name", "description", "severity", "disabled", "lifecycle_stages", "event_source",
    "categories", "policy_sections", "scope", "exclusions", "notifiers"]

def Policy.decode (format : Format m Value) (value : Value) : m Policy := do
  match ← format.fields Policy.fieldNames value with
  | [id, name, description, severity, disabled, stages, eventSource, categories, sections,
      scopes, exclusions, notifiers] =>
      return {
        id := ← Format.required format.text id
        name := ← Format.required format.text name
        description := ← format.optionalField format.text description
        severity := ← Format.required (format.named Severity.named?) severity
        disabled := ← Format.withDefault false format.flag disabled
        stages := ← format.listField (format.named LifecycleStage.named?) stages
        eventSource := ← Format.withDefault .notApplicable (format.named EventSource.named?)
          eventSource
        categories := ← format.listField format.text categories
        sections := ← format.listField (PolicySection.decode format) sections
        scopes := ← format.listField (Scope.decode format) scopes
        exclusions := ← format.listField (Exclusion.decode format) exclusions
        notifiers := ← format.listField format.text notifiers }
  | _ => failure

def ImageName.decode (format : Format m Value) (value : Value) : m ImageName := do
  match ← format.fields ["registry", "remote", "tag"] value with
  | [registry, remote, tag] =>
      return ⟨← format.textField registry, ← format.textField remote, ← format.textField tag⟩
  | _ => failure

def Container.decode (format : Format m Value) (value : Value) : m Container := do
  match ← format.fields ["name", "image", "privileged"] value with
  | [name, image, privileged] =>
      return {
        name := ← Format.required format.text name
        image := ← Format.withDefault ⟨"", "", ""⟩ (ImageName.decode format) image
        privileged := ← Format.withDefault false format.flag privileged }
  | _ => failure

def Deployment.decode (format : Format m Value) (value : Value) : m Deployment := do
  match ← format.fields
    ["id", "name", "cluster_id", "namespace", "namespace_id", "replicas", "labels", "containers"]
    value with
  | [id, name, clusterId, namespaceName, namespaceId, replicas, labels, containers] =>
      return {
        id := ← Format.required format.text id
        name := ← Format.required format.text name
        clusterId := ← Format.required format.text clusterId
        namespaceName := ← format.textField namespaceName
        namespaceId := ← format.textField namespaceId
        replicas := ← Format.withDefault 0 (format.integer Text.Bounds.signed64) replicas
        labels := ← Format.withDefault LabelMap.empty format.labels labels
        containers := ← format.listField (Container.decode format) containers }
  | _ => failure

def ProcessSignal.decode (format : Format m Value) (value : Value) : m ProcessSignal := do
  match ← format.fields ["name", "args", "exec_file_path", "uid"] value with
  | [name, arguments, executablePath, userId] =>
      return {
        name := ← Format.required format.text name
        arguments := ← format.textField arguments
        executablePath := ← format.textField executablePath
        userId := (← Format.withDefault 0 (format.integer Text.Bounds.unsigned32) userId).toNat }
  | _ => failure

def ProcessIndicator.decode (format : Format m Value) (value : Value) :
    m ProcessIndicator := do
  match ← format.fields ["id", "deployment_id", "container_name", "signal"] value with
  | [id, deploymentId, containerName, signal] =>
      return {
        id := ← Format.required format.text id
        deploymentId := ← format.textField deploymentId
        containerName := ← format.textField containerName
        signal := ← Format.required (ProcessSignal.decode format) signal }
  | _ => failure

def Node.decode (format : Format m Value) (value : Value) : m Node := do
  match ← format.fields ["id", "name", "cluster_id"] value with
  | [id, name, clusterId] =>
      return ⟨← Format.required format.text id, ← Format.required format.text name,
        ← format.textField clusterId⟩
  | _ => failure

def FileInfo.decode (format : Format m Value) (value : Value) : m FileInfo := do
  match ← format.fields ["actual_path", "effective_path"] value with
  | [actualPath, effectivePath] =>
      return ⟨← format.textField actualPath, ← format.textField effectivePath⟩
  | _ => failure

def FileAccess.decode (format : Format m Value) (value : Value) : m FileAccess := do
  match ← format.fields ["file", "operation"] value with
  | [file, operation] =>
      return ⟨← Format.required (FileInfo.decode format) file,
        ← Format.required (format.named FileOperation.named?) operation⟩
  | _ => failure

/-- Decode an event whose kind is known by its name, from its other fields. -/
def Event.decodeKind (format : Format m Value) (kind : String) (value : Value) : m Event := do
  match kind with
  | "deployment" => return .deployment (← Deployment.decode format value)
  | "process" =>
      match ← format.fields ["deployment", "indicator"] value with
      | [subject, indicator] =>
          return .process (← Format.required (Deployment.decode format) subject)
            (← Format.required (ProcessIndicator.decode format) indicator)
      | _ => failure
  | "deployment_file_access" =>
      match ← format.fields ["deployment", "access"] value with
      | [subject, access] =>
          return .deploymentFileAccess (← Format.required (Deployment.decode format) subject)
            (← Format.required (FileAccess.decode format) access)
      | _ => failure
  | "node_file_access" =>
      match ← format.fields ["node", "access"] value with
      | [node, access] =>
          return .nodeFileAccess (← Format.required (Node.decode format) node)
            (← Format.required (FileAccess.decode format) access)
      | _ => failure
  | _ => failure

end PolicyWatch
