import PolicyWatch.Json.Basic
import PolicyWatch.Instant.Text
import PolicyWatch.Alert

/-!
# Data in JSON

Records are written as objects with every field, except that the operations of
a group, and the evidence of a violation, are left out when there are none.
-/

namespace PolicyWatch

namespace Json

def ofTexts (texts : List String) : Json :=
  .array (texts.map .string)

def ofOption {α : Type} (encode : α → Json) : Option α → Json
  | some value => encode value
  | none => .null

def memberOf {α : Type} (name : String) (encode : α → Json) : Option α → List (String × Json)
  | some value => [(name, encode value)]
  | none => []

def ofNat (value : Nat) : Json := .integer value

def ofLabels (labels : LabelMap) : Json :=
  .object (labels.entries.map fun entry => (entry.1, .string entry.2))

end Json

def ScopeLabel.toJson (label : ScopeLabel) : Json :=
  .object [("key", .string label.key), ("value", .string label.value)]

def Scope.toJson (scope : Scope) : Json :=
  .object [
    ("cluster", Json.ofOption .string scope.cluster),
    ("namespace", Json.ofOption .string scope.namespaceName),
    ("cluster_label", Json.ofOption ScopeLabel.toJson scope.clusterLabel),
    ("namespace_label", Json.ofOption ScopeLabel.toJson scope.namespaceLabel)]

def ExcludedDeployment.toJson (excluded : ExcludedDeployment) : Json :=
  .object [
    ("name", Json.ofOption .string excluded.name),
    ("scope", Json.ofOption Scope.toJson excluded.scope)]

def Instant.toJson (instant : Instant) : Json :=
  .string instant.toText

def Exclusion.toJson (exclusion : Exclusion) : Json :=
  .object [
    ("name", .string exclusion.name),
    ("deployment", Json.ofOption ExcludedDeployment.toJson exclusion.deployment),
    ("expiration", Json.ofOption Instant.toJson exclusion.expiration)]

def FileOperation.toJson (operation : FileOperation) : Json :=
  .string operation.name

def PolicyGroup.toJson (group : PolicyGroup) : Json :=
  .object ([
    ("field_name", .string group.fieldName),
    ("values", Json.ofTexts group.values),
    ("negate", .bool group.negate)] ++
      Json.memberOf "operations" (fun operations => .array (operations.map FileOperation.toJson))
        group.operations)

def PolicySection.toJson (clause : PolicySection) : Json :=
  .object [
    ("section_name", Json.ofOption .string clause.sectionName),
    ("policy_groups", .array (clause.groups.map PolicyGroup.toJson))]

def Policy.toJson (policy : Policy) : Json :=
  .object [
    ("id", .string policy.id),
    ("name", .string policy.name),
    ("description", Json.ofOption .string policy.description),
    ("severity", .string policy.severity.name),
    ("disabled", .bool policy.disabled),
    ("lifecycle_stages", Json.ofTexts (policy.stages.map LifecycleStage.name)),
    ("event_source", .string policy.eventSource.name),
    ("categories", Json.ofTexts policy.categories),
    ("policy_sections", .array (policy.sections.map PolicySection.toJson)),
    ("scope", .array (policy.scopes.map Scope.toJson)),
    ("exclusions", .array (policy.exclusions.map Exclusion.toJson)),
    ("notifiers", Json.ofTexts policy.notifiers)]

def ImageName.toJson (image : ImageName) : Json :=
  .object [("registry", .string image.registry), ("remote", .string image.remote),
    ("tag", .string image.tag)]

def Container.toJson (container : Container) : Json :=
  .object [("name", .string container.name), ("image", container.image.toJson),
    ("privileged", .bool container.privileged)]

def Deployment.members (deployment : Deployment) : List (String × Json) :=
  [("id", .string deployment.id),
    ("name", .string deployment.name),
    ("cluster_id", .string deployment.clusterId),
    ("namespace", .string deployment.namespaceName),
    ("namespace_id", .string deployment.namespaceId),
    ("replicas", .integer deployment.replicas),
    ("labels", Json.ofLabels deployment.labels),
    ("containers", .array (deployment.containers.map Container.toJson))]

def Deployment.toJson (deployment : Deployment) : Json :=
  .object deployment.members

def ProcessSignal.toJson (signal : ProcessSignal) : Json :=
  .object [("name", .string signal.name), ("args", .string signal.arguments),
    ("exec_file_path", .string signal.executablePath), ("uid", Json.ofNat signal.userId)]

def ProcessIndicator.toJson (indicator : ProcessIndicator) : Json :=
  .object [("id", .string indicator.id), ("deployment_id", .string indicator.deploymentId),
    ("container_name", .string indicator.containerName), ("signal", indicator.signal.toJson)]

def Node.toJson (node : Node) : Json :=
  .object [("id", .string node.id), ("name", .string node.name),
    ("cluster_id", .string node.clusterId)]

def FileInfo.toJson (file : FileInfo) : Json :=
  .object [("actual_path", .string file.actualPath),
    ("effective_path", .string file.effectivePath)]

def FileAccess.toJson (access : FileAccess) : Json :=
  .object [("file", access.file.toJson), ("operation", access.operation.toJson)]

/-- Encode an event, with its kind beside its fields. -/
def Event.toJson : Event → Json
  | .deployment subject => .object (("type", .string "deployment") :: subject.members)
  | .process subject indicator =>
      .object [("type", .string "process"), ("deployment", subject.toJson),
        ("indicator", indicator.toJson)]
  | .deploymentFileAccess subject access =>
      .object [("type", .string "deployment_file_access"), ("deployment", subject.toJson),
        ("access", access.toJson)]
  | .nodeFileAccess node access =>
      .object [("type", .string "node_file_access"), ("node", node.toJson),
        ("access", access.toJson)]

def Violation.toJson (violation : Violation) : Json :=
  .object ([
    ("type", .string violation.kind.name),
    ("message", .string violation.message)] ++
      Json.memberOf "file_access" FileAccess.toJson violation.fileAccess? ++
      Json.memberOf "process" ProcessIndicator.toJson violation.process?)

def AlertEntity.toJson : AlertEntity → Json
  | .deployment id name clusterId namespaceName =>
      .object [("kind", .string "deployment"), ("id", .string id), ("name", .string name),
        ("cluster_id", .string clusterId), ("namespace", .string namespaceName)]
  | .node id name clusterId =>
      .object [("kind", .string "node"), ("id", .string id), ("name", .string name),
        ("cluster_id", .string clusterId)]

def Alert.membersWith (others : List (String × Json)) (alert : Alert) : List (String × Json) :=
  [("policy_id", .string alert.policyId),
    ("policy_name", .string alert.policyName),
    ("severity", .string alert.severity.name),
    ("lifecycle_stage", .string alert.stage.name),
    ("entity", alert.entity.toJson)] ++
    others ++
    [("violations", .array (alert.violations.map Violation.toJson))]

def Alert.toJson (alert : Alert) : Json :=
  .object (alert.membersWith [])

end PolicyWatch
