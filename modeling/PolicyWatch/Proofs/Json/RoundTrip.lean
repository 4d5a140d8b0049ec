import PolicyWatch.Json.Writer
import PolicyWatch.Proofs.Event.Survival

/-!
# Events and policies are read back as they were

Main statement: what is written of an event or a policy is read as the same event or policy, with
the members of each object in any order.
-/

namespace PolicyWatch.Json

mutual

theorem Rearranged.refl : ∀ value : Json, Rearranged value value
  | .array elements => by
      rw [Rearranged]
      exact ⟨elements, rfl, ElementsRearranged.refl elements⟩
  | .object members => by
      rw [Rearranged]
      exact ⟨members, members, rfl, MembersRearranged.refl members, .refl _⟩
  | .null => rfl
  | .bool _ => rfl
  | .integer _ => rfl
  | .decimal _ _ => rfl
  | .string _ => rfl
  | .unreadable => rfl

theorem ElementsRearranged.refl : ∀ elements : List Json, ElementsRearranged elements elements
  | [] => rfl
  | element :: rest => ⟨element, rest, rfl, .refl element, .refl rest⟩

theorem MembersRearranged.refl :
    ∀ members : List (String × Json), MembersRearranged members members
  | [] => rfl
  | (_, value) :: rest => ⟨value, rest, rfl, .refl value, .refl rest⟩

end

theorem readEvent?_write {event : Event} (representable : event.IsRepresentable) {written : Json}
    (same : Rearranged event.toJson written) : readEvent? written.write.toList = some event := by
  have kept := Rearranged.keeps _ same
  have plain := kept.2 (Event.isPlain_toJson representable)
  have shallow : written.depth ≤ greatestDepth := kept.1 ▸ event.depth_toJson_le
  rw [readEvent?, ofText?_write plain, Option.bind_eq_bind, Option.bind_some,
    decide_eq_true shallow, isReadable_of_isPlain written plain]
  exact Event.survives representable same

theorem readPolicy?_write {policy : Policy} (representable : policy.IsRepresentable)
    {written : Json} (same : Rearranged policy.toJson written) :
    readPolicy? written.write.toList = some policy := by
  have plain := (Rearranged.keeps _ same).2 policy.isPlain_toJson
  rw [readPolicy?, ofText?_write plain, Option.bind_some]
  exact (Policy.survives false representable _ same).1

theorem isRepresentable_of_readEvent? {text : List Char} {event : Event}
    (read : readEvent? text = some event) : event.IsRepresentable := by
  obtain ⟨value, _, decoded⟩ := Option.bind_eq_some_iff.1 read
  split at decoded
  · exact Event.isRepresentable_of_event? decoded
  · cases decoded

/-- Every event whose numbers are in range, every policy that is decoded from any format, and with
them every event and policy that is read, is read back as it is from what is written of it. -/
theorem read_written :
    (∀ event : Event, event.IsRepresentable → ∀ written, Rearranged event.toJson written →
      readEvent? written.write.toList = some event) ∧
    (∀ (Value : Type) (format : Format Option Value) (value : Value) (policy : Policy),
      Policy.decode format value = some policy → ∀ written, Rearranged policy.toJson written →
        readPolicy? written.write.toList = some policy) ∧
    (∀ text event, readEvent? text = some event → ∀ written, Rearranged event.toJson written →
      readEvent? written.write.toList = some event) ∧
    (∀ text policy, readPolicy? text = some policy → ∀ written, Rearranged policy.toJson written →
      readPolicy? written.write.toList = some policy) := by
  refine ⟨?_, ?_, ?_, ?_⟩
  · intro event representable written same
    exact readEvent?_write representable same
  · intro _ _ _ policy decoded written same
    exact readPolicy?_write (Policy.isRepresentable_of_decode decoded) same
  · intro text event read written same
    exact readEvent?_write (isRepresentable_of_readEvent? read) same
  · intro text policy read written same
    obtain ⟨_, _, decoded⟩ := Option.bind_eq_some_iff.1 read
    exact readPolicy?_write (Policy.isRepresentable_of_decode decoded) same

/-- A deployment with the fewest replicas that can be written. -/
def quotedDeployment : Deployment :=
  { id := "d-\"1\"", name := "\u0001\n\\", clusterId := "c", namespaceName := "", namespaceId := "",
    replicas := -9223372036854775808, labels := ⟨[("app", "web"), ("tier", "é")], by decide⟩,
    containers := [⟨"main", ⟨"", "", "latest"⟩, true⟩] }

/-- What encodes its labels, in descending order. -/
def quotedLabels : Json := .object [("tier", .string "é"), ("app", .string "web")]

/-- What encodes an event of it, with the labels in descending order. -/
def quotedEvent : Json :=
  .object [("type", .string "deployment"), ("id", .string "d-\"1\""),
    ("name", .string "\u0001\n\\"), ("cluster_id", .string "c"), ("namespace", .string ""),
    ("namespace_id", .string ""), ("replicas", .integer (-9223372036854775808)),
    ("labels", quotedLabels),
    ("containers", .array [.object [("name", .string "main"),
      ("image", .object [("registry", .string ""), ("remote", .string ""),
        ("tag", .string "latest")]), ("privileged", .bool true)]])]

/-- A policy with a group of no operations and an exclusion until a leap second with an offset. -/
def leapPolicyText : String :=
  "\x7b\"id\":\"p\",\"name\":\"n\",\"severity\":\"LOW\"," ++
    "\"policy_sections\":[\x7b\"policy_groups\":" ++
    "[\x7b\"field_name\":\"f\",\"operations\":[]\x7d]\x7d],\"exclusions\":[\x7b\"expiration\":" ++
    "\"2017-01-01T00:59:60.25+01:00\"\x7d]\x7d"

theorem quotedEvent_rearranged :
    Rearranged (Event.deployment quotedDeployment).toJson quotedEvent := by
  have labels : Rearranged (ofLabels quotedDeployment.labels) quotedLabels := by
    rw [ofLabels, Rearranged]
    exact ⟨_, _, rfl, .refl _, .swap ..⟩
  rw [Event.toJson, Rearranged]
  refine ⟨_, _, rfl, ?_, .refl _⟩
  refine membersRearranged_iff.2 ⟨rfl, ?_⟩
  have others : ∀ values : List Json, List.Forall₂ Rearranged values values :=
    fun values => elementsRearranged_iff.1 (.refl values)
  exact List.rel_append (others [_, _, _, _, _, _, _]) (.cons labels (others [_]))

theorem read_written_quoted :
    readEvent? quotedEvent.write.toList = some (.deployment quotedDeployment) ∧
    readEvent? (Event.deployment quotedDeployment).toJson.write.toList =
      some (.deployment quotedDeployment) ∧
    ∃ policy, readPolicy? leapPolicyText.toList = some policy ∧
      policy.exclusions.map Exclusion.expiration = [some ⟨2016, 12, 31, 23, 59, 60, 250000000⟩] ∧
      readPolicy? policy.toJson.write.toList = some policy := by
  have event := read_written.1 (.deployment quotedDeployment) rfl _ quotedEvent_rearranged
  have again := read_written.2.2.1 _ _ event _ (.refl _)
  have expirations : (readPolicy? leapPolicyText.toList).map
      (fun policy => policy.exclusions.map Exclusion.expiration) =
        some [some ⟨2016, 12, 31, 23, 59, 60, 250000000⟩] := by
    decide +kernel
  obtain ⟨policy, read, expires⟩ := Option.map_eq_some_iff.1 expirations
  exact ⟨event, again, policy, read, expires, read_written.2.2.2 _ _ read _ (.refl _)⟩

end PolicyWatch.Json
