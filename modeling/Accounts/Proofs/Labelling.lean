import Accounts.Client.Call
import Accounts.Proofs.Url.Dots
import Accounts.Transport.Peers

/-!
Labels of content. A call with a body labels it as JSON, behind the headers of the settings and
before those that a request gets alone. Since the first header of a name counts, the label stands
unless the settings have one of their own, and what a request gets alone never changes it. The
server goes by the same label.
-/

namespace Accounts

open Accounts.Text

/-! Looking headers up. -/
section Headers

theorem Http.header?_append (front back : List Http.Header) (name : String) :
    Http.header? (front ++ back) name = (Http.header? front name).or (Http.header? back name) := by
  rw [Http.header?, Http.header?, Http.header?, List.find?_append, Option.map_or]

theorem Http.header?_spelling (headers : List Http.Header) (name other : String)
    (same : sameIgnoringCase name other = true) :
    Http.header? headers name = Http.header? headers other := by
  have lowered : lowercase name = lowercase other := beq_iff_eq.mp same
  simp only [Http.header?, sameIgnoringCase, lowered]

theorem lowercaseByte_lowercase (text : String) :
    (bytes (lowercase text)).map Http.lowercaseByte = bytes (lowercase text) := by
  have ascii := forall_ascii (fun character => character.toLower.toNat < 0x80 ∧
    Http.lowercaseByte (UInt8.ofNat character.toLower.toNat) =
      UInt8.ofNat character.toLower.toNat) (by decide)
  have above := forall_byte (fun byte => 0x80 ≤ byte → Http.lowercaseByte byte = byte)
    (by decide +kernel)
  have kept : ∀ byte ∈ bytes (lowercase text), Http.lowercaseByte byte = byte := by
    intro byte member
    rw [bytes_eq_flatMap, lowercase, String.toList_ofList] at member
    obtain ⟨lowered, inside, among⟩ := List.mem_flatMap.mp member
    obtain ⟨character, _, rfl⟩ := List.mem_map.mp inside
    by_cases small : character.toNat < 0x80
    · obtain ⟨still, stays⟩ := ascii character small
      rw [encode_ascii _ still, List.mem_singleton] at among
      rwa [among]
    · -- Outside ASCII nothing is a letter of either case.
      have same : character.toLower = character := by
        rcases Url.toLower_cases character with same | ⟨_, high, _⟩
        · exact same
        · omega
      rw [same] at among
      exact above byte (encode_above character (Nat.not_lt.mp small) byte among)
  rw [List.map_congr_left kept, List.map_id']

end Headers

/-! The server's reading. -/
section Serving

theorem isNamed_lowercase (name known : String) (value : List UInt8) :
    Server.isNamed (bytes (lowercase known)) (bytes (lowercase name), value) =
      sameIgnoringCase name known := by
  rw [Server.isNamed, lowercaseByte_lowercase, sameIgnoringCase, Bool.eq_iff_iff, beq_iff_eq,
    beq_iff_eq]
  exact ⟨bytes_injective _ _, congrArg bytes⟩

/-- A message is labelled for the server as the request is for its client. -/
theorem isLabelledJson_message (address : Url.Address) (authority : Url.Authority)
    (authorization : Option (List UInt8)) (request : Http.Request) (value : String)
    (found : request.header? "content-type" = some value) :
    Server.isLabelledJson (Transport.requestOf
        (Transport.errandOf address authority authorization request).message) =
      Http.labelsJson (bytes value) := by
  obtain ⟨header, first, rfl⟩ := Option.map_eq_some_iff.mp found
  have lowered : lowercase "content-type" = "content-type" := by decide
  have named (other : Http.Header) : Server.isNamed (bytes "content-type")
      (bytes (lowercase other.name), bytes other.value) =
        sameIgnoringCase other.name "content-type" := by
    rw [← isNamed_lowercase, lowered]
  have given : (request.headers.map fun other =>
      (bytes (lowercase other.name), bytes other.value)).find?
        (Server.isNamed (bytes "content-type")) =
      some (bytes (lowercase header.name), bytes header.value) := by
    rw [List.find?_map, Function.comp_def]
    simp only [named, first, Option.map_some]
  -- Only an authorization can stand before the headers of the request.
  have foreign (value : List UInt8) : Server.isNamed (bytes "content-type")
      (bytes "authorization", value) = false :=
    (by decide : ((bytes "authorization").map Http.lowercaseByte == bytes "content-type") = false)
  have searched : (Transport.requestOf (Transport.errandOf address authority authorization
      request).message).headers.find? (Server.isNamed (bytes "content-type")) =
        some (bytes (lowercase header.name), bytes header.value) := by
    cases authorization <;>
      simp [Transport.requestOf, Transport.Errand.message, Transport.errandOf,
        Transport.givenHeaders, Transport.lowered, List.find?_append, Function.comp_def, foreign,
        given]
  rw [Server.isLabelledJson, searched]

end Serving

/-! Calls. -/
section Calls

open Accounts.Client

theorem contentHeaders_cases (call : Call) :
    (call.body ≠ none ∧ call.contentHeaders = [⟨"content-type", "application/json"⟩]) ∨
      (call.body = none ∧ call.contentHeaders = []) := by
  unfold Call.contentHeaders Http.presentHeaders
  cases call.body <;> simp

theorem draft_headers (settings : Settings) (call : Call) (extra : List Http.Header) :
    ((call.draft settings).addHeaders extra).request.headers =
      settings.headers ++ (call.contentHeaders ++ extra) := by
  rw [Draft.addHeaders_request, ← List.append_assoc]
  rfl

/-- What bodies are labelled as below some settings: what these say about content, or else JSON. -/
def Client.Settings.label (settings : Settings) : String :=
  (Http.header? settings.headers "content-type").getD "application/json"

theorem label_json (settings : Settings) : settings.label = "application/json" ↔
    ∀ value, Http.header? settings.headers "content-type" = some value →
      value = "application/json" := by
  unfold Settings.label
  cases Http.header? settings.headers "content-type" <;> simp

theorem header?_label (settings : Settings) (call : Call) (extra : List Http.Header)
    (given : call.body ≠ none) :
    ((call.draft settings).addHeaders extra).request.header? "content-type" =
      some settings.label := by
  rcases contentHeaders_cases call with ⟨_, content⟩ | ⟨absent, _⟩
  · have own : Http.header? (call.contentHeaders ++ extra) "content-type" =
        some "application/json" := by
      rw [content]
      rfl
    rw [Http.Request.header?, draft_headers, Http.header?_append, own, Settings.label]
    cases Http.header? settings.headers "content-type" <;> rfl
  · exact absurd absent given

/-- What the request of a call says about its content, whatever headers it gets alone. -/
structure Labels (settings : Settings) (call : Call) (extra : List Http.Header) : Prop where
  /-- To create and to update takes a body, and nothing else does. -/
  bodied : call.body ≠ none ↔ call.method = .post ∨ call.method = .put
  /-- The label of a body, in whatever letter case it is asked for, is what the settings say about
  content, and JSON if they say nothing. -/
  label : call.body ≠ none → ∀ name, sameIgnoringCase name "content-type" = true →
    ((call.draft settings).addHeaders extra).request.header? name = some settings.label
  /-- It is JSON unless the settings have a header of this name, and the first of them says
  otherwise. -/
  json : call.body ≠ none →
    (((call.draft settings).addHeaders extra).request.header? "content-type" =
        some "application/json" ↔
      ∀ value, Http.header? settings.headers "content-type" = some value →
        value = "application/json")
  /-- On its way to the server a body keeps its label. -/
  arrives : call.body ≠ none → ∀ address authority authorization,
    Server.isLabelledJson (Transport.requestOf (Transport.errandOf address authority authorization
        ((call.draft settings).addHeaders extra).request).message) =
      Http.labelsJson (bytes settings.label)
  /-- Without a body nothing is added to the headers of the settings and of the request. -/
  bare : call.body = none →
    ((call.draft settings).addHeaders extra).request.headers = settings.headers ++ extra

theorem content_labelled (settings : Settings) (call : Call) (extra : List Http.Header) :
    Labels settings call extra := by
  constructor
  case bodied => cases call <;> simp [Call.body, Call.method]
  case label =>
    intro given name spelled
    rw [← header?_label settings call extra given]
    exact Http.header?_spelling _ name "content-type" spelled
  case json =>
    intro given
    rw [header?_label settings call extra given, Option.some.injEq]
    exact label_json settings
  case arrives =>
    intro given address authority authorization
    exact isLabelledJson_message address authority authorization _ _
      (header?_label settings call extra given)
  case bare =>
    intro absent
    rcases contentHeaders_cases call with ⟨given, _⟩ | ⟨_, content⟩
    · exact absurd absent given
    · rw [draft_headers, content, List.nil_append]

def plainSettings : Settings :=
  (Settings.ofBasePath "http://h").addHeader ⟨"Content-Type", "text/plain"⟩

/-- The body of a call with these settings is not labelled as JSON, and the server does not take it
for JSON. -/
theorem label_overridden :
    (Call.createUser User.blank).body ≠ none ∧
      ((Call.createUser User.blank).draft plainSettings).request.header? "content-type" =
        some "text/plain" ∧
      Http.labelsJson (bytes plainSettings.label) = false := by
  decide +kernel

end Calls

end Accounts
