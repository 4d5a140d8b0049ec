import PolicyWatch.Proofs.Policy.Survival

/-!
# Events survive their encoding

Main statement: an event whose numbers can be written is decoded as the same from what encodes it,
though the fields of a deployment share the object with the kind of the event.
-/

namespace PolicyWatch

open Json

variable (lenient : Bool)

/-! ## Parts of events -/

theorem ImageName.survives (image : ImageName) :
    Survives ImageName.toJson (ImageName.decode (format lenient)) image := by
  intro other same
  obtain ⟨values, found, related⟩ := fields_of_rearranged same (by simp)
  obtain _ | ⟨registrySame, _ | ⟨remoteSame, _ | ⟨tagSame, _ | _⟩⟩⟩ := related
  have registry := (survives_text image.registry _ registrySame).1
  have remote := (survives_text image.remote _ remoteSame).1
  have tag := (survives_text image.tag _ tagSame).1
  refine ⟨?_, ne_null_of_rearranged same⟩
  simp only [List.map_cons, List.map_nil] at found
  simp [ImageName.decode, found, registry, remote, tag]

theorem Container.survives (container : Container) :
    Survives Container.toJson (Container.decode (format lenient)) container := by
  intro other same
  obtain ⟨values, found, related⟩ := fields_of_rearranged same (by simp)
  obtain _ | ⟨nameSame, _ | ⟨imageSame, _ | ⟨privilegedSame, _ | _⟩⟩⟩ := related
  have name := (survives_text container.name _ nameSame).1
  have image := (ImageName.survives lenient container.image _ imageSame).1
  have privileged := (survives_flag container.privileged _ privilegedSame).1
  refine ⟨?_, ne_null_of_rearranged same⟩
  simp only [List.map_cons, List.map_nil] at found
  simp [Container.decode, found, name, image, privileged]

theorem Deployment.survives_members {deployment : Deployment}
    (representable : deployment.IsRepresentable) {other : Json}
    (same : Rearranged deployment.toJson other) :
    Deployment.decode (format lenient) other = some deployment := by
  obtain ⟨values, found, related⟩ := fields_of_rearranged same (by simp [Deployment.members])
  obtain _ | ⟨idSame, _ | ⟨nameSame, _ | ⟨clusterSame, _ | ⟨namespaceSame, _ | ⟨namespaceIdSame,
    _ | ⟨replicasSame, _ | ⟨labelsSame, _ | ⟨containersSame, _ | _⟩⟩⟩⟩⟩⟩⟩⟩ := related
  have id := (survives_text deployment.id _ idSame).1
  have name := (survives_text deployment.name _ nameSame).1
  have cluster := (survives_text deployment.clusterId _ clusterSame).1
  have namespaceName := (survives_text deployment.namespaceName _ namespaceSame).1
  have namespaceId := (survives_text deployment.namespaceId _ namespaceIdSame).1
  have replicas := (survives_integer representable _ replicasSame).1
  have labels := (LabelMap.survives lenient deployment.labels _ labelsSame).1
  have containers := (survives_list lenient
    (fun container _ => Container.survives lenient container) _ containersSame).1
  simp only [Deployment.members, List.map_cons, List.map_nil] at found
  simp [Deployment.decode, found, id, name, cluster, namespaceName, namespaceId, replicas, labels,
    containers]

theorem ProcessSignal.survives {signal : ProcessSignal} (representable : signal.IsRepresentable) :
    Survives ProcessSignal.toJson (ProcessSignal.decode (format lenient)) signal := by
  intro other same
  obtain ⟨values, found, related⟩ := fields_of_rearranged same (by simp)
  obtain _ | ⟨nameSame, _ | ⟨argumentsSame, _ | ⟨pathSame, _ | ⟨userSame, _ | _⟩⟩⟩⟩ := related
  have name := (survives_text signal.name _ nameSame).1
  have arguments := (survives_text signal.arguments _ argumentsSame).1
  have path := (survives_text signal.executablePath _ pathSame).1
  have user := (survives_integer representable _ userSame).1
  refine ⟨?_, ne_null_of_rearranged same⟩
  simp only [List.map_cons, List.map_nil] at found
  simp [ProcessSignal.decode, found, name, arguments, path, user]

theorem ProcessIndicator.survives {indicator : ProcessIndicator}
    (representable : indicator.signal.IsRepresentable) :
    Survives ProcessIndicator.toJson (ProcessIndicator.decode (format lenient)) indicator := by
  intro other same
  obtain ⟨values, found, related⟩ := fields_of_rearranged same (by simp)
  obtain _ | ⟨idSame, _ | ⟨deploymentSame, _ | ⟨containerSame, _ | ⟨signalSame, _ | _⟩⟩⟩⟩ := related
  have id := (survives_text indicator.id _ idSame).1
  have deployment := (survives_text indicator.deploymentId _ deploymentSame).1
  have container := (survives_text indicator.containerName _ containerSame).1
  have signal := (ProcessSignal.survives lenient representable _ signalSame).1
  refine ⟨?_, ne_null_of_rearranged same⟩
  simp only [List.map_cons, List.map_nil] at found
  simp [ProcessIndicator.decode, found, id, deployment, container, signal]

theorem Node.survives (node : Node) :
    Survives Node.toJson (Node.decode (format lenient)) node := by
  intro other same
  obtain ⟨values, found, related⟩ := fields_of_rearranged same (by simp)
  obtain _ | ⟨idSame, _ | ⟨nameSame, _ | ⟨clusterSame, _ | _⟩⟩⟩ := related
  have id := (survives_text node.id _ idSame).1
  have name := (survives_text node.name _ nameSame).1
  have cluster := (survives_text node.clusterId _ clusterSame).1
  refine ⟨?_, ne_null_of_rearranged same⟩
  simp only [List.map_cons, List.map_nil] at found
  simp [Node.decode, found, id, name, cluster]

theorem FileInfo.survives (file : FileInfo) :
    Survives FileInfo.toJson (FileInfo.decode (format lenient)) file := by
  intro other same
  obtain ⟨values, found, related⟩ := fields_of_rearranged same (by simp)
  obtain _ | ⟨actualSame, _ | ⟨effectiveSame, _ | _⟩⟩ := related
  have actual := (survives_text file.actualPath _ actualSame).1
  have effective := (survives_text file.effectivePath _ effectiveSame).1
  refine ⟨?_, ne_null_of_rearranged same⟩
  simp only [List.map_cons, List.map_nil] at found
  simp [FileInfo.decode, found, actual, effective]

theorem FileAccess.survives (access : FileAccess) :
    Survives FileAccess.toJson (FileAccess.decode (format lenient)) access := by
  intro other same
  obtain ⟨values, found, related⟩ := fields_of_rearranged same (by simp)
  obtain _ | ⟨fileSame, _ | ⟨operationSame, _ | _⟩⟩ := related
  have file := (FileInfo.survives lenient access.file _ fileSame).1
  have operation := (FileOperation.survives lenient access.operation _ operationSame).1
  refine ⟨?_, ne_null_of_rearranged same⟩
  simp only [List.map_cons, List.map_nil] at found
  simp [FileAccess.decode, found, file, operation]

/-! ## Events -/

theorem Json.event?_of_rearranged {kind : String} {members : List (String × Json)} {other : Json}
    (same : Rearranged (.object (("type", .string kind) :: members)) other)
    (distinct : ("type" :: members.map Prod.fst).Nodup) :
    ∃ fields, Rearranged (.object members) fields ∧
      event? other = Event.decodeKind (format true) kind fields := by
  rw [Rearranged] at same
  obtain ⟨kept, others, rfl, same, moved⟩ := same
  rw [MembersRearranged] at same
  obtain ⟨value, later, rfl, kindSame, laterSame⟩ := same
  cases kindSame
  have names := (membersRearranged_iff.1 laterSame).1
  rw [← names] at distinct
  have isKind : member? others "type" = some (some (.string kind)) :=
    member?_of_mem ((moved.map Prod.fst).nodup_iff.1 distinct)
      (moved.mem_iff.1 List.mem_cons_self)
  have areFields : later.filter (fun member => member.1 != "type") = later := by
    rw [List.filter_eq_self]
    intro member among
    rw [bne_iff_ne]
    intro isType
    exact (List.nodup_cons.1 distinct).1 (isType ▸ List.mem_map_of_mem among)
  have fieldsMoved := moved.filter fun member => member.1 != "type"
  rw [List.filter_cons_of_neg (by simp), areFields] at fieldsMoved
  refine ⟨.object (others.filter fun member => member.1 != "type"), ?_, ?_⟩
  · rw [Rearranged]
    exact ⟨later, _, rfl, laterSame, fieldsMoved⟩
  · rw [event?, isKind]
    rfl

theorem Event.survives {event : Event} (representable : event.IsRepresentable) {other : Json}
    (same : Rearranged event.toJson other) : event? other = some event := by
  cases event with
  | deployment subject =>
      obtain ⟨fields, fieldsSame, isEvent⟩ :=
        event?_of_rearranged same (by simp [Deployment.members])
      have read := Deployment.survives_members true representable fieldsSame
      rw [isEvent, Event.decodeKind]
      simp [read]
  | process subject indicator =>
      obtain ⟨fields, fieldsSame, isEvent⟩ := event?_of_rearranged same (by simp)
      obtain ⟨values, found, related⟩ := fields_of_rearranged fieldsSame (by simp)
      obtain _ | ⟨subjectSame, _ | ⟨indicatorSame, _ | _⟩⟩ := related
      have subject := Deployment.survives_members true representable.1 subjectSame
      have indicator := (ProcessIndicator.survives true representable.2 _ indicatorSame).1
      simp only [List.map_cons, List.map_nil] at found
      rw [isEvent, Event.decodeKind]
      simp [found, subject, indicator]
  | deploymentFileAccess subject access =>
      obtain ⟨fields, fieldsSame, isEvent⟩ := event?_of_rearranged same (by simp)
      obtain ⟨values, found, related⟩ := fields_of_rearranged fieldsSame (by simp)
      obtain _ | ⟨subjectSame, _ | ⟨accessSame, _ | _⟩⟩ := related
      have subject := Deployment.survives_members true representable subjectSame
      have access := (FileAccess.survives true access _ accessSame).1
      simp only [List.map_cons, List.map_nil] at found
      rw [isEvent, Event.decodeKind]
      simp [found, subject, access]
  | nodeFileAccess node access =>
      obtain ⟨fields, fieldsSame, isEvent⟩ := event?_of_rearranged same (by simp)
      obtain ⟨values, found, related⟩ := fields_of_rearranged fieldsSame (by simp)
      obtain _ | ⟨nodeSame, _ | ⟨accessSame, _ | _⟩⟩ := related
      have node := (Node.survives true node _ nodeSame).1
      have access := (FileAccess.survives true access _ accessSame).1
      simp only [List.map_cons, List.map_nil] at found
      rw [isEvent, Event.decodeKind]
      simp [found, node, access]

end PolicyWatch
