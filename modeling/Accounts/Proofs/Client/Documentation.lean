import Accounts.Proofs.Appending
import Accounts.Proofs.Client.Addresses
import Accounts.Proofs.PathTemplate
import Accounts.Proofs.User

/-!
Calls as they are documented: a method, the template of a path with the name for its place, the
parameters of a query, and what goes into the body. The request of every call is put together from
just that, below the base address without the slashes at its end and among the headers that were
asked for. No place of a template is left over, whatever the name.
-/

namespace Accounts.Client

open Accounts.Text Accounts.PathTemplate

/-! What is documented. -/
section Documents

inductive Content where
  | user (account : User)
  | users (accounts : List User)

def Content.text : Content → String
  | .user account => account.write
  | .users accounts => User.writeList accounts

def Content.IsRead (text : String) : Content → Prop
  | .user account => User.read (bytes text) = .ok account
  | .users accounts => User.readList (bytes text) = .ok accounts

theorem Content.text_isRead (content : Content) : content.IsRead content.text := by
  cases content with
  | user account => exact User.read_write account
  | users accounts => exact User.readList_writeList accounts

structure Documentation where
  method : String
  template : List Piece
  bindings : List Binding := []
  parameters : List Form.Pair := []
  content : Option Content := none

def usernamePlace : Braceless := ⟨"username", by decide⟩

def accountTemplate : List Piece := [.literal ⟨"/user/", by decide⟩, .place usernamePlace]

def Call.documentation : Call → Documentation
  | .createUser user =>
    { method := "POST", template := [.literal ⟨"/user", by decide⟩], content := some (.user user) }
  | .createUsersWithArray users =>
    { method := "POST", template := [.literal ⟨"/user/createWithArray", by decide⟩],
      content := some (.users users) }
  | .createUsersWithList users =>
    { method := "POST", template := [.literal ⟨"/user/createWithList", by decide⟩],
      content := some (.users users) }
  | .deleteUser name =>
    { method := "DELETE", template := accountTemplate, bindings := [⟨usernamePlace, name⟩] }
  | .getUser name =>
    { method := "GET", template := accountTemplate, bindings := [⟨usernamePlace, name⟩] }
  | .login username password =>
    { method := "GET", template := [.literal ⟨"/user/login", by decide⟩],
      parameters := [⟨"username", username⟩, ⟨"password", password⟩] }
  | .logout => { method := "GET", template := [.literal ⟨"/user/logout", by decide⟩] }
  | .updateUser name user =>
    { method := "PUT", template := accountTemplate, bindings := [⟨usernamePlace, name⟩],
      content := some (.user user) }

namespace Documentation

def path (documentation : Documentation) : String :=
  write (documentation.template.map (Piece.fillAll documentation.bindings))

def query (documentation : Documentation) (address : String) : String :=
  if documentation.parameters = [] then ""
  else (if '?' ∈ address.toList then "&" else "?") ++ Form.write documentation.parameters

def below (documentation : Documentation) (address : String) : String :=
  documentation.path ++ documentation.query address

end Documentation

end Documents

/-! Paths. -/
section Paths

theorem accountPath_filled (name : String) : Call.accountPath name =
    write (accountTemplate.map (Piece.fillAll [⟨usernamePlace, name⟩])) := by
  have template : "/user/\x7busername\x7d" = write accountTemplate := by decide
  rw [Call.accountPath, template]
  exact fill_write accountTemplate usernamePlace name

theorem path_documented (call : Call) : call.path = call.documentation.path := by
  cases call with
  | deleteUser name | getUser name | updateUser name => exact accountPath_filled name
  | _ =>
    simp [Call.path, Call.documentation, Documentation.path, fillAll_literal, write,
      Piece.written]

theorem path_named (call : Call) (name : String) (about : call.account? = some name) :
    call.documentation.path = "/user/" ++ Percent.encodeSegment name := by
  rw [← path_documented, ← accountPath_eq]
  cases call with
  | deleteUser | getUser | updateUser =>
    cases about
    rfl
  | _ => cases about

theorem template_covered (call : Call) :
    Covers call.documentation.bindings call.documentation.template := by
  intro name member
  cases call with
  | deleteUser | getUser | updateUser =>
    simp only [Call.documentation, accountTemplate, List.mem_cons, reduceCtorEq, false_or,
      List.not_mem_nil, or_false, Piece.place.injEq] at member
    exact ⟨_, List.mem_singleton.mpr rfl, by rw [member]⟩
  | _ => simp [Call.documentation] at member

theorem path_braceless (call : Call) :
    ∀ character ∈ call.documentation.path.toList, isBrace character = false :=
  fillAll_plain _ _ (template_covered call)

end Paths

/-! Requests. -/
section Requests

def configured (address : String) (headers : List Http.Header) (success : StatusRange) :
    Settings :=
  ((Settings.ofBasePath address).addHeaders headers).withSuccess success

theorem Settings.addHeaders_eq (settings : Settings) (headers : List Http.Header) :
    settings.addHeaders headers = { settings with headers := settings.headers ++ headers } := by
  induction headers generalizing settings with
  | nil => simp [addHeaders]
  | cons header rest ih =>
    have whole := ih (settings.addHeader header)
    simpa [addHeaders, addHeader] using whole

theorem configured_eq (address : String) (headers : List Http.Header) (success : StatusRange) :
    configured address headers success =
      { basePath := trimRight '/' address, headers := headers, success := success } := by
  rw [configured, Settings.addHeaders_eq]
  rfl

/-- Slashes at its end are no part of what makes an address have a query. -/
theorem cut_marked (address base : String) (cut : IsCut '/' address base) :
    '?' ∈ base.toList ↔ '?' ∈ address.toList := by
  obtain ⟨count, whole⟩ := cut.copies
  rw [whole, String.toList_append, String.toList_ofList, List.mem_append]
  simp [List.mem_replicate]

theorem url_documented (settings : Settings) (address : String)
    (cut : IsCut '/' address settings.basePath) (call : Call) :
    call.url settings = settings.basePath ++ call.documentation.below address := by
  have pairs : Form.present call.query = call.documentation.parameters := by
    cases call <;> rfl
  have mark : '?' ∈ (settings.basePath ++ call.documentation.path).toList ↔
      '?' ∈ address.toList := by
    rw [String.toList_append, List.mem_append, cut_marked address settings.basePath cut]
    rw [← path_documented]
    exact or_iff_left (path_unmarked call)
  rw [Call.url, path_documented, pairs, Documentation.below, Documentation.query,
    ← String.append_assoc]
  split
  · rename_i none
    rw [none, String.append_empty]
    rfl
  · rename_i given
    rw [Form.append_given _ _ given]
    simp only [mark]

theorem query_characters (documentation : Documentation) (address : String) :
    ∀ character ∈ (documentation.query address).toList,
      isBrace character = false ∧
        (character = '?' → documentation.parameters ≠ [] ∧ '?' ∉ address.toList) := by
  have plain := Form.forall_write (fun character => isBrace character = false ∧ character ≠ '?')
    (by decide +kernel) documentation.parameters
  intro character member
  unfold Documentation.query at member
  split at member
  · cases member
  · rename_i given
    rw [String.toList_append] at member
    rcases List.mem_append.mp member with mark | inside
    · split at mark
      · have same : character = '&' := List.mem_singleton.mp mark
        rw [same]
        exact ⟨by decide, fun other => absurd other (by decide)⟩
      · rename_i unmarked
        have same : character = '?' := List.mem_singleton.mp mark
        rw [same]
        exact ⟨by decide, fun _ => ⟨given, unmarked⟩⟩
    · obtain ⟨braceless, unmarked⟩ := plain character inside
      exact ⟨braceless, fun same => absurd same unmarked⟩

theorem parameters_login (call : Call) :
    call.documentation.parameters ≠ [] ↔ ∃ username password, call = .login username password := by
  cases call <;> simp [Call.documentation]

theorem below_marked (call : Call) (address : String) :
    '?' ∈ (call.documentation.below address).toList ↔
      (∃ username password, call = .login username password) ∧ '?' ∉ address.toList := by
  rw [← parameters_login, Documentation.below, ← path_documented, String.toList_append,
    List.mem_append]
  constructor
  · rintro (inPath | inQuery)
    · exact absurd inPath (path_unmarked call)
    · exact (query_characters _ address '?' inQuery).2 rfl
  · rintro ⟨given, unmarked⟩
    right
    rw [Documentation.query, if_neg given, if_neg unmarked, String.toList_append]
    exact List.mem_append_left _ (by simp)

theorem below_braceless (call : Call) (address : String) :
    ∀ character ∈ (call.documentation.below address).toList, isBrace character = false := by
  intro character member
  rw [Documentation.below, String.toList_append] at member
  rcases List.mem_append.mp member with inPath | inQuery
  · exact path_braceless call character inPath
  · exact (query_characters _ address character inQuery).1

end Requests

/-- The request of a call below an address, with headers of the settings and of its own. -/
def requestOf (address : String) (custom : List Http.Header) (success : StatusRange) (call : Call)
    (extra : List Http.Header) : Http.Request :=
  ((call.draft (configured address custom success)).addHeaders extra).request

/-- What the request of a call is put together from. -/
structure BuiltAsDocumented (address : String) (custom : List Http.Header) (success : StatusRange)
    (call : Call) (extra : List Http.Header) : Prop where
  method : (requestOf address custom success call extra).method.name = call.documentation.method
  /-- The address without the slashes at its end, and behind it the path and the query. -/
  url : ∃ base, IsCut '/' address base ∧ (requestOf address custom success call extra).url =
    base ++ call.documentation.below address
  /-- Where the call is about an account, the path ends in its name as one segment. -/
  named : ∀ name, call.account? = some name →
    call.documentation.path = "/user/" ++ Percent.encodeSegment name
  /-- Neither a place of the template nor a brace of a name is left behind the address. -/
  braceless : ∀ character ∈ (call.documentation.below address).toList, isBrace character = false
  /-- Only a login has a query, and it carries on the one of the address if there is one. -/
  marked : '?' ∈ (call.documentation.below address).toList ↔
    (∃ username password, call = .login username password) ∧ '?' ∉ address.toList
  /-- The body is what the call takes, if it takes anything, and reads as just that. -/
  body : (requestOf address custom success call extra).body =
    call.documentation.content.map Content.text
  readable : ∀ content, call.documentation.content = some content → content.IsRead content.text
  /-- The headers of the settings, then what is said about a body, then those of the request. -/
  headers : (requestOf address custom success call extra).headers =
    custom ++ ((if call.documentation.content.isSome then
      [⟨"content-type", "application/json"⟩] else []) ++ extra)
  unauthenticated : (requestOf address custom success call extra).requiresAuthentication = false
  /-- Slashes at the end of the address make no difference. -/
  slashes : ∀ count, requestOf (address ++ String.ofList (List.replicate count '/')) custom success
    call extra = requestOf address custom success call extra

theorem requestOf_eq (address : String) (custom : List Http.Header) (success : StatusRange)
    (call : Call) (extra : List Http.Header) : requestOf address custom success call extra =
      ⟨call.method, call.url (configured address custom success),
        custom ++ (call.contentHeaders ++ extra), call.body, false⟩ := by
  rw [requestOf, Draft.addHeaders_request, ← List.append_assoc, configured_eq]
  rfl

theorem trimRight_slashes (address : String) (count : Nat) :
    trimRight '/' (address ++ String.ofList (List.replicate count '/')) =
      trimRight '/' address := by
  obtain ⟨⟨before, whole⟩, ends⟩ := (isCut_iff '/' address _).mpr rfl
  rw [← isCut_iff]
  refine ⟨⟨before + count, ?_⟩, ends⟩
  rw [List.replicate_add, String.ofList_append, ← String.append_assoc, ← whole]

theorem built_as_documented (address : String) (custom : List Http.Header)
    (success : StatusRange) (call : Call) (extra : List Http.Header) :
    BuiltAsDocumented address custom success call extra := by
  have cut : IsCut '/' address (configured address custom success).basePath := by
    rw [isCut_iff, configured_eq]
  have content : call.body = call.documentation.content.map Content.text := by
    cases call <;> rfl
  have label : call.contentHeaders = if call.documentation.content.isSome then
      [⟨"content-type", "application/json"⟩] else [] := by
    cases call <;> rfl
  constructor
  case method =>
    rw [requestOf_eq]
    cases call <;> rfl
  case url =>
    rw [requestOf_eq]
    exact ⟨_, cut, url_documented _ address cut call⟩
  case named => exact path_named call
  case braceless => exact below_braceless call address
  case marked => exact below_marked call address
  case body => rw [requestOf_eq, content]
  case readable => exact fun content _ => content.text_isRead
  case headers => rw [requestOf_eq, label]
  case unauthenticated => rw [requestOf_eq]
  case slashes =>
    intro count
    rw [requestOf, requestOf, configured_eq, configured_eq, trimRight_slashes]

end Accounts.Client
