import PolicyWatch.Json.Decoder
import PolicyWatch.Json.Encoder
import PolicyWatch.Proofs.Instant.Text
import PolicyWatch.Proofs.Json.Rearrangement

/-!
# Data are encoded as values that can be written

Main statements: what is decoded can be represented, what encodes an event or a policy is plain,
and an event is far less deep than a reader accepts.
-/

namespace PolicyWatch

/-! ## What is decoded can be represented -/

namespace Format

variable {Value α : Type} {format : Format Option Value} {decode : Value → Option α}

theorem exists_of_each {values : List Value} {list : List α}
    (decoded : each decode values = some list)
    {data : α} (member : data ∈ list) : ∃ value, decode value = some data := by
  induction values generalizing list with
  | nil =>
      cases decoded
      cases member
  | cons value rest ih =>
      simp only [each, Option.bind_eq_bind, Option.bind_eq_some_iff] at decoded
      obtain ⟨first, firstDecoded, others, othersDecoded, ended⟩ := decoded
      cases ended
      rcases List.mem_cons.1 member with rfl | later
      · exact ⟨value, firstDecoded⟩
      · exact ih othersDecoded later

theorem exists_of_listField {field? : Option Value} {list : List α}
    (decoded : format.listField decode field? = some list) {data : α} (member : data ∈ list) :
    ∃ value, decode value = some data := by
  cases field? with
  | none =>
      cases decoded
      cases member
  | some value =>
      obtain ⟨values, _, each⟩ := Option.bind_eq_some_iff.1 decoded
      exact exists_of_each each member

theorem exists_of_optionalField {field? : Option Value} {data : α}
    (decoded : format.optionalField decode field? = some (some data)) :
    ∃ value, decode value = some data := by
  cases field? with
  | none => cases decoded
  | some value =>
      change format.optional decode value = some (some data) at decoded
      obtain ⟨inner?, _, decoded⟩ := Option.bind_eq_some_iff.1 decoded
      cases inner? with
      | none => cases decoded
      | some inner =>
          obtain ⟨_, found, same⟩ := Option.bind_eq_some_iff.1 decoded
          cases same
          exact ⟨inner, found⟩

theorem exists_of_required {field? : Option Value} {data : α}
    (decoded : required decode field? = some data) : ∃ value, decode value = some data := by
  cases field? with
  | none => cases decoded
  | some value => exact ⟨value, decoded⟩

end Format

variable {Value : Type} {format : Format Option Value} {value : Value}

/-- Whether an exclusion expires, if it does, at an instant that can be written. -/
def Exclusion.IsRepresentable (exclusion : Exclusion) : Prop :=
  ∀ expiration, exclusion.expiration = some expiration → expiration.isValid = true

/-- Whether every expiration in a policy is an instant that can be written. -/
def Policy.IsRepresentable (policy : Policy) : Prop :=
  ∀ exclusion ∈ policy.exclusions, exclusion.IsRepresentable

theorem Exclusion.isRepresentable_of_decode {exclusion : Exclusion}
    (decoded : decode format value = some exclusion) : exclusion.IsRepresentable := by
  unfold decode at decoded
  simp only [Option.bind_eq_bind, Option.bind_eq_some_iff] at decoded
  obtain ⟨fields, _, decoded⟩ := decoded
  split at decoded
  · simp only [Option.bind_eq_some_iff] at decoded
    obtain ⟨_, _, _, _, expiration?, read, ended⟩ := decoded
    cases ended
    rintro expiration rfl
    obtain ⟨written, isInstant⟩ := Format.exists_of_optionalField read
    obtain ⟨_, _, isInstant⟩ := Option.bind_eq_some_iff.1 isInstant
    rw [Format.given_option] at isInstant
    exact Instant.isValid_of_ofText? isInstant
  · cases decoded

theorem Policy.isRepresentable_of_decode {policy : Policy}
    (decoded : decode format value = some policy) : policy.IsRepresentable := by
  unfold decode at decoded
  simp only [Option.bind_eq_bind, Option.bind_eq_some_iff] at decoded
  obtain ⟨fields, _, decoded⟩ := decoded
  split at decoded
  · simp only [Option.bind_eq_some_iff] at decoded
    obtain ⟨_, _, _, _, _, _, _, _, _, _, _, _, _, _, _, _, _, _, _, _, exclusions, read, _, _,
      ended⟩ := decoded
    cases ended
    intro exclusion member
    obtain ⟨_, isExclusion⟩ := Format.exists_of_listField read member
    exact Exclusion.isRepresentable_of_decode isExclusion
  · cases decoded

def Deployment.IsRepresentable (deployment : Deployment) : Prop :=
  Text.Bounds.signed64.admits deployment.replicas = true

def ProcessSignal.IsRepresentable (signal : ProcessSignal) : Prop :=
  Text.Bounds.unsigned32.admits signal.userId = true

def Event.IsRepresentable : Event → Prop
  | .deployment subject => subject.IsRepresentable
  | .process subject indicator => subject.IsRepresentable ∧ indicator.signal.IsRepresentable
  | .deploymentFileAccess subject _ => subject.IsRepresentable
  | .nodeFileAccess _ _ => True

section Events

variable {lenient : Bool} {value : Json}

/-- An integer is read within bounds, and so is the one that stands for a missing field. -/
theorem Json.admits_of_withDefault {bounds : Text.Bounds} {fallback number : Int}
    (admitted : bounds.admits fallback = true) {field? : Option Json}
    (decoded : Format.withDefault fallback (integer? bounds) field? = some number) :
    bounds.admits number = true := by
  cases field? with
  | none =>
      cases decoded
      exact admitted
  | some value =>
      change integer? bounds value = some number at decoded
      unfold integer? at decoded
      split at decoded
      · split at decoded
        · rename_i within
          cases decoded
          exact within
        · cases decoded
      · cases decoded

theorem Deployment.isRepresentable_of_decode {deployment : Deployment}
    (decoded : decode (Json.format lenient) value = some deployment) :
    deployment.IsRepresentable := by
  unfold decode at decoded
  simp only [Option.bind_eq_bind, Option.bind_eq_some_iff] at decoded
  obtain ⟨fields, _, decoded⟩ := decoded
  split at decoded
  · simp only [Option.bind_eq_some_iff] at decoded
    obtain ⟨_, _, _, _, _, _, _, _, _, _, replicas, read, _, _, _, _, ended⟩ := decoded
    cases ended
    exact Json.admits_of_withDefault (by decide) read
  · cases decoded

theorem ProcessSignal.isRepresentable_of_decode {signal : ProcessSignal}
    (decoded : decode (Json.format lenient) value = some signal) : signal.IsRepresentable := by
  unfold decode at decoded
  simp only [Option.bind_eq_bind, Option.bind_eq_some_iff] at decoded
  obtain ⟨fields, _, decoded⟩ := decoded
  split at decoded
  · simp only [Option.bind_eq_some_iff] at decoded
    obtain ⟨_, _, _, _, _, _, user, read, ended⟩ := decoded
    cases ended
    have within := Json.admits_of_withDefault (by decide) read
    have positive : 0 ≤ user := of_decide_eq_true (Bool.and_eq_true_iff.1 within).1
    rw [ProcessSignal.IsRepresentable, Int.toNat_of_nonneg positive]
    exact within
  · cases decoded

theorem ProcessIndicator.isRepresentable_of_decode {indicator : ProcessIndicator}
    (decoded : decode (Json.format lenient) value = some indicator) :
    indicator.signal.IsRepresentable := by
  unfold decode at decoded
  simp only [Option.bind_eq_bind, Option.bind_eq_some_iff] at decoded
  obtain ⟨fields, _, decoded⟩ := decoded
  split at decoded
  · simp only [Option.bind_eq_some_iff] at decoded
    obtain ⟨_, _, _, _, _, _, signal, read, ended⟩ := decoded
    cases ended
    obtain ⟨_, isSignal⟩ := Format.exists_of_required read
    exact ProcessSignal.isRepresentable_of_decode isSignal
  · cases decoded

theorem Event.isRepresentable_of_decodeKind {kind : String} {event : Event}
    (decoded : decodeKind (Json.format lenient) kind value = some event) :
    event.IsRepresentable := by
  unfold decodeKind at decoded
  simp only [Option.bind_eq_bind] at decoded
  split at decoded
  · obtain ⟨subject, isSubject, ended⟩ := Option.bind_eq_some_iff.1 decoded
    cases ended
    exact Deployment.isRepresentable_of_decode isSubject
  · obtain ⟨fields, _, decoded⟩ := Option.bind_eq_some_iff.1 decoded
    split at decoded
    · simp only [Option.bind_eq_some_iff] at decoded
      obtain ⟨subject, subjectRead, indicator, indicatorRead, ended⟩ := decoded
      cases ended
      obtain ⟨_, isSubject⟩ := Format.exists_of_required subjectRead
      obtain ⟨_, isIndicator⟩ := Format.exists_of_required indicatorRead
      exact ⟨Deployment.isRepresentable_of_decode isSubject,
        ProcessIndicator.isRepresentable_of_decode isIndicator⟩
    · cases decoded
  · obtain ⟨fields, _, decoded⟩ := Option.bind_eq_some_iff.1 decoded
    split at decoded
    · simp only [Option.bind_eq_some_iff] at decoded
      obtain ⟨subject, subjectRead, _, _, ended⟩ := decoded
      cases ended
      obtain ⟨_, isSubject⟩ := Format.exists_of_required subjectRead
      exact Deployment.isRepresentable_of_decode isSubject
    · cases decoded
  · obtain ⟨fields, _, decoded⟩ := Option.bind_eq_some_iff.1 decoded
    split at decoded
    · simp only [Option.bind_eq_some_iff] at decoded
      obtain ⟨_, _, _, _, ended⟩ := decoded
      cases ended
      trivial
    · cases decoded
  · cases decoded

theorem Event.isRepresentable_of_event? {event : Event} (decoded : Json.event? value = some event) :
    event.IsRepresentable := by
  unfold Json.event? at decoded
  simp only [Option.bind_eq_bind] at decoded
  split at decoded
  · obtain ⟨_, _, decoded⟩ := Option.bind_eq_some_iff.1 decoded
    obtain ⟨_, _, decoded⟩ := Option.bind_eq_some_iff.1 decoded
    exact isRepresentable_of_decodeKind decoded
  · obtain ⟨_, _, decoded⟩ := Option.bind_eq_some_iff.1 decoded
    exact isRepresentable_of_decodeKind decoded
  · cases decoded

end Events

/-! ## What encodes data can be written -/

namespace Json

variable {α : Type} {encode : α → Json}

@[simp] theorem isPlain_string (text : String) : (string text).isPlain = true := rfl

theorem isPlain_integer {bounds : Text.Bounds} {value : Int} (within : bounds.admits value = true)
    (above : -9223372036854775808 ≤ bounds.least)
    (below : bounds.greatest ≤ 18446744073709551615) : (integer value).isPlain = true := by
  obtain ⟨least, greatest⟩ := Bool.and_eq_true_iff.1 within
  have leastHolds := of_decide_eq_true least
  have greatestHolds := of_decide_eq_true greatest
  exact Bool.and_eq_true_iff.2 ⟨decide_eq_true (by omega), decide_eq_true (by omega)⟩

theorem isPlain_object {members : List (String × Json)} :
    (object members).isPlain = true ↔ ∀ member ∈ members, member.2.isPlain = true :=
  membersPlain_iff

theorem isPlain_list {list : List α} (plain : ∀ data ∈ list, (encode data).isPlain = true) :
    (array (list.map encode)).isPlain = true := by
  refine allPlain_iff.2 fun element among => ?_
  obtain ⟨data, member, rfl⟩ := List.mem_map.1 among
  exact plain data member

theorem isPlain_ofOption (plain : ∀ data, (encode data).isPlain = true) (data? : Option α) :
    (ofOption encode data?).isPlain = true := by
  cases data? with
  | none => rfl
  | some data => exact plain data

@[simp] theorem isPlain_ofOption_string (text? : Option String) :
    (ofOption string text?).isPlain = true :=
  isPlain_ofOption isPlain_string text?

@[simp] theorem isPlain_ofTexts (texts : List String) : (ofTexts texts).isPlain = true :=
  isPlain_list fun text _ => isPlain_string text

@[simp] theorem isPlain_ofLabels (labels : LabelMap) : (ofLabels labels).isPlain = true := by
  refine isPlain_object.2 fun member among => ?_
  obtain ⟨entry, _, rfl⟩ := List.mem_map.1 among
  rfl

end Json

open Json

theorem ScopeLabel.isPlain_toJson (label : ScopeLabel) : label.toJson.isPlain = true := by
  simp [toJson, isPlain_object]

theorem Scope.isPlain_toJson (scope : Scope) : scope.toJson.isPlain = true := by
  simp [toJson, isPlain_object, isPlain_ofOption ScopeLabel.isPlain_toJson]

theorem ExcludedDeployment.isPlain_toJson (excluded : ExcludedDeployment) :
    excluded.toJson.isPlain = true := by
  simp [toJson, isPlain_object, isPlain_ofOption Scope.isPlain_toJson]

theorem Exclusion.isPlain_toJson (exclusion : Exclusion) : exclusion.toJson.isPlain = true := by
  have expiration : ∀ instant : Instant, instant.toJson.isPlain = true := fun _ => rfl
  simp [toJson, isPlain_object, isPlain_ofOption ExcludedDeployment.isPlain_toJson,
    isPlain_ofOption expiration]

theorem PolicyGroup.isPlain_toJson (group : PolicyGroup) : group.toJson.isPlain = true := by
  have operations : ∀ operations : List FileOperation,
      (array (operations.map FileOperation.toJson)).isPlain = true :=
    fun operations => isPlain_list fun _ _ => rfl
  have negate : (Json.bool group.negate).isPlain = true := rfl
  cases given : group.operations <;>
    simp [toJson, given, memberOf, isPlain_object, negate, operations]

theorem PolicySection.isPlain_toJson (clause : PolicySection) : clause.toJson.isPlain = true := by
  have groups : (array (clause.groups.map PolicyGroup.toJson)).isPlain = true :=
    isPlain_list fun group _ => group.isPlain_toJson
  simp [toJson, isPlain_object, groups]

theorem Policy.isPlain_toJson (policy : Policy) : policy.toJson.isPlain = true := by
  have sections : (array (policy.sections.map PolicySection.toJson)).isPlain = true :=
    isPlain_list fun clause _ => clause.isPlain_toJson
  have scopes : (array (policy.scopes.map Scope.toJson)).isPlain = true :=
    isPlain_list fun scope _ => scope.isPlain_toJson
  have exclusions : (array (policy.exclusions.map Exclusion.toJson)).isPlain = true :=
    isPlain_list fun exclusion _ => exclusion.isPlain_toJson
  have disabled : (Json.bool policy.disabled).isPlain = true := rfl
  simp [toJson, isPlain_object, disabled, sections, scopes, exclusions]

theorem Container.isPlain_toJson (container : Container) : container.toJson.isPlain = true := by
  have privileged : (Json.bool container.privileged).isPlain = true := rfl
  simp [toJson, ImageName.toJson, isPlain_object, privileged]

theorem Deployment.isPlain_of_mem_members {deployment : Deployment}
    (representable : deployment.IsRepresentable) :
    ∀ member ∈ deployment.members, member.2.isPlain = true := by
  have replicas : (integer deployment.replicas).isPlain = true :=
    isPlain_integer representable (by decide) (by decide)
  have containers : (array (deployment.containers.map Container.toJson)).isPlain = true :=
    isPlain_list fun container _ => container.isPlain_toJson
  simp [members, replicas, containers]

theorem Deployment.isPlain_toJson {deployment : Deployment}
    (representable : deployment.IsRepresentable) : deployment.toJson.isPlain = true :=
  isPlain_object.2 (isPlain_of_mem_members representable)

theorem ProcessIndicator.isPlain_toJson {indicator : ProcessIndicator}
    (representable : indicator.signal.IsRepresentable) : indicator.toJson.isPlain = true := by
  have user : (ofNat indicator.signal.userId).isPlain = true :=
    isPlain_integer representable (by decide) (by decide)
  simp [toJson, ProcessSignal.toJson, isPlain_object, user]

theorem FileAccess.isPlain_toJson (access : FileAccess) : access.toJson.isPlain = true := by
  simp [toJson, FileInfo.toJson, FileOperation.toJson, isPlain_object]

theorem Event.isPlain_toJson {event : Event} (representable : event.IsRepresentable) :
    event.toJson.isPlain = true := by
  cases event with
  | deployment subject =>
      have members := Deployment.isPlain_of_mem_members representable
      exact isPlain_object.2 (List.forall_mem_cons.2 ⟨rfl, members⟩)
  | process subject indicator =>
      simp [toJson, isPlain_object, Deployment.isPlain_toJson representable.1,
        ProcessIndicator.isPlain_toJson representable.2]
  | deploymentFileAccess subject access =>
      simp [toJson, isPlain_object, Deployment.isPlain_toJson representable, access.isPlain_toJson]
  | nodeFileAccess node access =>
      simp [toJson, Node.toJson, isPlain_object, access.isPlain_toJson]

/-! ## Events are not deep -/

theorem Json.depth_list_le {α : Type} {encode : α → Json} {most : Nat} {list : List α}
    (shallow : ∀ data ∈ list, (encode data).depth ≤ most) :
    (array (list.map encode)).depth ≤ most + 1 := by
  refine Nat.succ_le_succ ?_
  induction list with
  | nil => exact Nat.zero_le _
  | cons first rest ih =>
      exact Nat.max_le.2 ⟨shallow first List.mem_cons_self,
        ih fun data member => shallow data (List.mem_cons_of_mem _ member)⟩

theorem Json.depth_ofLabels_le (labels : LabelMap) : (ofLabels labels).depth ≤ 1 := by
  refine Nat.succ_le_succ (depthOfMembers_le_iff.2 fun member among => ?_)
  obtain ⟨entry, _, rfl⟩ := List.mem_map.1 among
  exact Nat.le_refl _

theorem Deployment.depthOfMembers_le (deployment : Deployment) :
    depthOfMembers deployment.members ≤ 3 := by
  have containers : (array (deployment.containers.map Container.toJson)).depth ≤ 3 :=
    depth_list_le fun container _ => Nat.le_refl _
  have labels := depth_ofLabels_le deployment.labels
  simp only [members, depthOfMembers, depth, Nat.max_le] at containers ⊢
  omega

/-- An event lies within the depth that readers accept. -/
theorem Event.depth_toJson_le (event : Event) : event.toJson.depth ≤ greatestDepth := by
  have deployments : ∀ subject : Deployment, subject.toJson.depth ≤ 4 :=
    fun subject => Nat.succ_le_succ subject.depthOfMembers_le
  cases event with
  | deployment subject =>
      have members := subject.depthOfMembers_le
      simp only [toJson, depth, depthOfMembers, greatestDepth]
      omega
  | process subject indicator =>
      have shallow := deployments subject
      have isIndicator : indicator.toJson.depth = 2 := rfl
      simp only [toJson, depth, depthOfMembers, greatestDepth]
      omega
  | deploymentFileAccess subject access =>
      have shallow := deployments subject
      have isAccess : access.toJson.depth = 2 := rfl
      simp only [toJson, depth, depthOfMembers, greatestDepth]
      omega
  | nodeFileAccess node access => exact (by decide : (3 : Nat) ≤ greatestDepth)

end PolicyWatch
