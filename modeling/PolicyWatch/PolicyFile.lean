import PolicyWatch.Failure
import PolicyWatch.Yaml.Decoder

/-!
# Policy files

A policy file states the version of its form and lists policies.  The IDs of all
policies of a directory are distinct.
-/

namespace PolicyWatch

structure PolicyFile where
  version : String
  policies : List Policy
  deriving DecidableEq

namespace PolicyFile

def knownVersion : String := "1.0"

def decode {m : Type → Type} [DecodeMonad m] {Value : Type} (format : Format m Value)
    (value : Value) : m PolicyFile := do
  match ← format.fields ["version", "policies"] value with
  | [version, policies] =>
      return ⟨← Format.required format.text version,
        ← format.listField (Policy.decode format) policies⟩
  | _ => failure

/-- Check policies after those whose IDs are taken: each has an ID, a name, and
an ID of its own. -/
def checkPolicies (taken : List String) : List Policy → Except Failure Unit
  | [] => .ok ()
  | policy :: rest =>
      if policy.id = "" then .error (.ofMessage "policy id must not be empty")
      else if policy.name = "" then
        .error (.ofMessage ("policy '" ++ policy.id ++ "' has an empty name"))
      else if taken.contains policy.id then
        .error (.ofMessage ("duplicate policy id: '" ++ policy.id ++ "'"))
      else checkPolicies (policy.id :: taken) rest

/-- Check a policy file: the version first, then its policies. -/
def check (file : PolicyFile) : Except Failure Unit :=
  if file.version = knownVersion then checkPolicies [] file.policies
  else
    .error (.ofMessage ("unsupported policy version '" ++ file.version ++
      "'; only '1.0' is supported"))

def read? (text : List Char) : Option PolicyFile := do
  let document ← Yaml.Document.ofText? text
  document.decode? decode

def load (text : String) : Except Failure (List Policy) :=
  match read? text.toList with
  | none => .error (.ofMessage "YAML deserialization failed")
  | some file => do
      file.check
      return file.policies

end PolicyFile

end PolicyWatch
