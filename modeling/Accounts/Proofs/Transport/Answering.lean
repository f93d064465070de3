import Accounts.Proofs.Server.Handling
import Accounts.Proofs.Transport.Following
import Accounts.Transport.Peers

/-!
Calls answered. The server finds in a request what the call was made of, does what it does about
such a call, and its answer comes in as it was given.
-/

namespace Accounts.Transport

open Accounts.Text Accounts.Url Accounts.Client

/-! At the server. -/
section Serving

/-- What the server answers to a call, before it states a length. -/
def answerTo (ticket : Server.Ticket) (call : Call) (store : Server.Store) :
    Server.Response × Server.Store :=
  match call with
  | .createUser user => Server.createUser (.ofUser user) store
  | .createUsersWithArray users | .createUsersWithList users =>
    Server.createUsers (users.map .ofUser) store
  | .deleteUser name => Server.deleteUser name store
  | .getUser name => (Server.getUser name store, store)
  | .login _ _ =>
    (Server.plainText 200 ("logged in user session:" ++ ticket.session)
      [⟨"x-rate-limit", Decimal.write Server.rateLimit⟩,
        ⟨"x-expires-after", Decimal.write ticket.expiresAfter⟩], store)
  | .logout => (Server.statusOnly 200, store)
  | .updateUser name user => Server.updateUser name (.ofUser user) store

def arrived (number : Nat) (settings : Settings) (call : Call) : Server.Request :=
  requestOf (errandOf (callAddress number call) (loopbackAuthority number) none
    (call.draft settings).request).message

variable (number : Nat) (settings : Settings) (plain : settings.headers = [])

theorem arrived_target (call : Call) :
    (arrived number settings call).target = bytes (String.ofList (callTarget call)) := by
  rw [← writeTarget_call number call]
  rfl

theorem arrived_body (call : Call) :
    (arrived number settings call).body = (call.body.map bytes).getD [] := rfl

include plain in
theorem arrived_label (call : Call) (body : String) (given : call.body = some body) :
    Server.isLabelledJson (arrived number settings call) = true := by
  have name : Text.lowercase "content-type" = "content-type" := by decide
  have named : Server.isNamed (bytes "content-type")
      (bytes "content-type", bytes "application/json") = true := by
    decide
  have label : Http.labelsJson (bytes "application/json") = true := by decide
  have headers : (call.draft settings).request.headers =
      [⟨"content-type", "application/json"⟩] := by
    simp [Call.draft, Draft.make, plain, Call.contentHeaders, Http.presentHeaders, given]
  simp [Server.isLabelledJson, arrived, requestOf, Errand.message, errandOf, givenHeaders, lowered,
    headers, name, named, label]

theorem callTarget_plain (call : Call) (unasked : call.written? = none) :
    String.ofList (callTarget call) = call.path := by
  apply String.toList_injective
  rw [String.toList_ofList, callTarget, ← path_segments, Call.tail, unasked]
  simp

theorem target_plain (call : Call) (unasked : call.written? = none) (path : String)
    (is : call.path = path) (rest : List UInt8) (starts : bytes path = 0x2F :: rest)
    (bare : ∀ byte ∈ rest, Server.isTargetByte byte = true) :
    Server.Target.ofBytes (arrived number settings call).target = ⟨bytes path, []⟩ := by
  rw [arrived_target, callTarget_plain call unasked, is, starts, Server.target_path rest bare]

theorem target_account (call : Call) (name : String) (about : call.account? = some name) :
    Server.Target.ofBytes (arrived number settings call).target =
      ⟨bytes "/user/" ++ Server.segmentOf name, []⟩ := by
  have path : call.path = "/user/" ++ Percent.encodeSegment name := by
    rw [← accountPath_eq]
    cases call <;> simp_all [Call.account?, Call.path]
  have unasked : call.written? = none := by
    cases call <;> simp_all [Call.account?, Call.written?, Call.query, Form.present]
  rw [arrived_target, callTarget_plain call unasked, path, bytes_append]
  exact Server.target_segment (Server.segmentOf name) fun byte member =>
    (Server.segmentOf_bytes name byte member).1

theorem callTarget_login (username password : String) :
    Server.Target.ofBytes (bytes (String.ofList (callTarget (.login username password)))) =
      ⟨bytes "/user/login",
        bytes (Form.write [⟨"username", username⟩, ⟨"password", password⟩])⟩ := by
  have pairs : Form.present (Call.login username password).query =
      [⟨"username", username⟩, ⟨"password", password⟩] := rfl
  generalize query : Form.write [⟨"username", username⟩, ⟨"password", password⟩] = written
  have characters := write_plain [⟨"username", username⟩, ⟨"password", password⟩]
  have ascii := Form.write_characters [⟨"username", username⟩, ⟨"password", password⟩]
  rw [query] at characters ascii
  have text : String.ofList (callTarget (.login username password)) =
      "/user/login" ++ "?" ++ written := by
    apply String.toList_injective
    rw [String.toList_ofList, callTarget, ← path_segments, Call.tail, Call.written?, pairs]
    simp [Call.path, query]
  have front : bytes "/user/login" = 0x2F :: bytes "user/login" ∧ bytes "?" = [0x3F] := by decide
  have fixed : ∀ byte ∈ bytes "user/login", Server.isTargetByte byte = true := by decide
  -- The query holds no number sign, so that nothing of it is taken for a fragment.
  have unmarked : ∀ byte ∈ bytes written, (byte != 0x23) = true := by
    intro byte member
    rw [← String.ofList_toList (s := written), bytes_ascii _ fun character inside =>
      (ascii character inside).1] at member
    obtain ⟨character, inside, rfl⟩ := List.mem_map.mp member
    simpa using byte_other character '#' (ascii character inside).1 (by decide)
      (characters character inside).2.1
  have whole := Server.target_query (bytes "user/login") (bytes written) fixed unmarked
  rw [text, bytes_append, bytes_append, front.1, front.2]
  simpa using whole

theorem target_login (username password : String) :
    Server.Target.ofBytes (arrived number settings (.login username password)).target =
      ⟨bytes "/user/login",
        bytes (Form.write [⟨"username", username⟩, ⟨"password", password⟩])⟩ := by
  rw [arrived_target, callTarget_login]

/-! What the server does with it. -/
section Answering

variable (ticket : Server.Ticket) (store : Server.Store)

theorem method_whole (call : Call) : call.method.name ≠ "HEAD" := by
  cases call <;> simp [Call.method, Http.Method.name]

theorem handle_call (call : Call) (path query : List UInt8) (route : Server.Route)
    (operation : Server.Operation)
    (target : Server.Target.ofBytes (arrived number settings call).target = ⟨path, query⟩)
    (known : Server.Route.ofPath? path = some route)
    (asks : route.operation? call.method.name = some operation)
    (performed : Server.perform ticket (arrived number settings call) query operation store =
      answerTo ticket call store) :
    Server.handle ticket (arrived number settings call) store =
      (Server.withLength (answerTo ticket call store).1, (answerTo ticket call store).2) := by
  rw [Server.handle_asked ticket _ store path query route operation target known asks
    (method_whole call), performed]

theorem handle_fixed (call : Call) (unasked : call.written? = none) (path : String)
    (is : call.path = path) (route : Server.Route) (operation : Server.Operation)
    (listed : bytes path ∈ [bytes "/user", bytes "/user/createWithArray",
      bytes "/user/createWithList", bytes "/user/logout"])
    (known : Server.Route.ofPath? (bytes path) = some route)
    (asks : route.operation? call.method.name = some operation)
    (performed : Server.perform ticket (arrived number settings call) [] operation store =
      answerTo ticket call store) :
    Server.handle ticket (arrived number settings call) store =
      (Server.withLength (answerTo ticket call store).1, (answerTo ticket call store).2) := by
  have bare : ∀ known ∈ [bytes "/user", bytes "/user/createWithArray",
      bytes "/user/createWithList", bytes "/user/logout"],
      known = 0x2F :: known.tail ∧ ∀ byte ∈ known.tail, Server.isTargetByte byte = true := by
    decide
  obtain ⟨starts, unmarked⟩ := bare _ listed
  exact handle_call number settings ticket store call (bytes path) [] route operation
    (target_plain number settings call unasked path is _ starts unmarked) known asks performed

theorem handle_account (call : Call) (name : String) (about : call.account? = some name)
    (addressable : Server.isAddressable name = true) (operation : Server.Operation)
    (asks : (Server.Route.account (Server.segmentOf name)).operation? call.method.name =
      some operation)
    (performed : Server.perform ticket (arrived number settings call) [] operation store =
      answerTo ticket call store) :
    Server.handle ticket (arrived number settings call) store =
      (Server.withLength (answerTo ticket call store).1, (answerTo ticket call store).2) :=
  handle_call number settings ticket store call _ [] _ operation
    (target_account number settings call name about) (Server.ofPath?_account name addressable) asks
    performed

include plain in
theorem readBody_arrived {Value : Type} (read : List UInt8 → Except Json.Fault Value) (call : Call)
    (body : String) (value : Value) (given : call.body = some body)
    (short : (bytes body).length ≤ Server.bodyLimit) (reads : read (bytes body) = .ok value) :
    Server.readBody read (arrived number settings call) = .ok value := by
  have written : (arrived number settings call).body = bytes body := by
    rw [arrived_body, given]
    rfl
  apply Server.readBody_written read _ (arrived_label number settings plain call body given)
  · rwa [written]
  · rwa [written]

include plain in
theorem handle_arrived (call : Call)
    (addressable : ∀ name, call.account? = some name → Server.isAddressable name = true)
    (short : ∀ body, call.body = some body → (bytes body).length ≤ Server.bodyLimit) :
    Server.handle ticket (arrived number settings call) store =
      (Server.withLength (answerTo ticket call store).1, (answerTo ticket call store).2) := by
  obtain ⟨single, array, list, login, logout⟩ := Server.ofPath?_fixed
  cases call with
  | createUser user =>
    apply handle_fixed number settings ticket store _ rfl "/user" rfl .users .createUser
      (by simp) single rfl
    have reads := readBody_arrived number settings plain Server.Account.read (.createUser user)
      user.write (.ofUser user) rfl (short _ rfl) (Server.Account.carries_ofUser user)
    rw [Server.perform, reads]
    rfl
  | createUsersWithArray users =>
    apply handle_fixed number settings ticket store _ rfl "/user/createWithArray" rfl .bulk
      .createUsers (by simp) array rfl
    have reads := readBody_arrived number settings plain Server.Account.readList
      (.createUsersWithArray users) (User.writeList users) (users.map .ofUser) rfl (short _ rfl)
      (Server.Account.carries_ofUsers users)
    rw [Server.perform, reads]
    rfl
  | createUsersWithList users =>
    apply handle_fixed number settings ticket store _ rfl "/user/createWithList" rfl .bulk
      .createUsers (by simp) list rfl
    have reads := readBody_arrived number settings plain Server.Account.readList
      (.createUsersWithList users) (User.writeList users) (users.map .ofUser) rfl (short _ rfl)
      (Server.Account.carries_ofUsers users)
    rw [Server.perform, reads]
    rfl
  | deleteUser name =>
    apply handle_account number settings ticket store _ name rfl (addressable name rfl)
      (.deleteUser (Server.segmentOf name)) rfl
    rw [Server.perform, Server.readName_segmentOf]
    rfl
  | getUser name =>
    apply handle_account number settings ticket store _ name rfl (addressable name rfl)
      (.getUser (Server.segmentOf name)) rfl
    rw [Server.perform, Server.readName_segmentOf]
    rfl
  | login username password =>
    apply handle_call number settings ticket store _ _ _ .login .login
      (target_login number settings username password) login rfl
    rw [Server.perform, Server.login_written]
    rfl
  | logout =>
    apply handle_fixed number settings ticket store _ rfl "/user/logout" rfl .logout .logout
      (by simp) logout rfl
    rfl
  | updateUser name user =>
    apply handle_account number settings ticket store _ name rfl (addressable name rfl)
      (.updateUser (Server.segmentOf name)) rfl
    have reads := readBody_arrived number settings plain Server.Account.read
      (.updateUser name user) user.write (.ofUser user) rfl (short _ rfl)
      (Server.Account.carries_ofUser user)
    rw [Server.perform, Server.readName_segmentOf, reads]
    rfl

end Answering

end Serving

/-! Coming in. -/
section Incoming

theorem receiveText_plain (text : String)
    (plain : ∀ byte, (bytes text).head? = some byte → byte < 0x80) :
    receiveText (bytes text) = text := by
  have lossy := decodeLossy_bytes text
  unfold receiveText
  split
  · rename_i written
    exact absurd (plain 0xEF (by rw [written]; rfl)) (by decide)
  · rename_i written
    exact absurd (plain 0xFF (by rw [written]; rfl)) (by decide)
  · rename_i written
    exact absurd (plain 0xFE (by rw [written]; rfl)) (by decide)
  · exact lossy

theorem receive_deliveryOf (response : Server.Response) (full : hasBody response.status = true)
    (plain : ∀ byte, (bytes response.body).head? = some byte → byte < 0x80) :
    receive (deliveryOf response) =
      .ok ⟨response.status, (deliveryOf response).headers.filterMap receiveHeader?,
        response.body⟩ := by
  have text := receiveText_plain response.body plain
  have whole : (bytes response.body).take (bytes response.body).length = bytes response.body :=
    List.take_length
  simp only [receive, deliveryOf, full, whole, text, Nat.lt_irrefl]
  rfl

theorem usual_status (status : Nat) (usual : status ∈ [200, 400, 404]) :
    hasBody status = true ∧ status ∉ redirects := by
  have table : ∀ status ∈ [200, 400, 404], hasBody status = true ∧ status ∉ redirects := by decide
  exact table status usual

theorem answerTo_usual (ticket : Server.Ticket) (call : Call) (store : Server.Store) :
    (answerTo ticket call store).1.status ∈ [200, 400, 404] ∧
      ∀ byte, (bytes (answerTo ticket call store).1.body).head? = some byte → byte < 0x80 := by
  have bare (status : Nat) (usual : status ∈ [200, 400, 404]) :
      (Server.statusOnly status).status ∈ [200, 400, 404] ∧
        ∀ byte, (bytes (Server.statusOnly status).body).head? = some byte → byte < 0x80 :=
    ⟨usual, by simp [Server.statusOnly, bytes]⟩
  have several (accounts : List Server.Account) :
      (Server.createUsers accounts store).1.status ∈ [200, 400, 404] ∧
        ∀ byte, (bytes (Server.createUsers accounts store).1.body).head? = some byte →
          byte < 0x80 := by
    unfold Server.createUsers
    split
    · exact bare 400 (by decide)
    · exact bare 200 (by decide)
  cases call with
  | createUser user =>
    simp only [answerTo, Server.createUser]
    split
    · exact bare 400 (by decide)
    · exact bare 200 (by decide)
  | createUsersWithArray users => exact several _
  | createUsersWithList users => exact several _
  | deleteUser name =>
    simp only [answerTo, Server.deleteUser]
    split
    · exact bare 404 (by decide)
    · exact bare 200 (by decide)
  | getUser name =>
    simp only [answerTo, Server.getUser]
    split
    · have front : bytes "\x7b" = [0x7B] := by decide
      refine ⟨by simp [Server.accountReply], ?_⟩
      intro byte first
      rw [Server.accountReply, Server.Account.write, bytes_append, bytes_append, front] at first
      cases first
      decide
    · exact bare 404 (by decide)
  | login username password =>
    have front : bytes "logged in user session:" = 0x6C :: bytes "ogged in user session:" := by
      decide
    refine ⟨by simp [answerTo, Server.plainText], ?_⟩
    intro byte first
    simp only [answerTo, Server.plainText] at first
    rw [bytes_append, front] at first
    cases first
    decide
  | logout => exact bare 200 (by decide)
  | updateUser name user =>
    simp only [answerTo, Server.updateUser]
    split
    · exact bare 404 (by decide)
    · exact bare 200 (by decide)

end Incoming

/-! There and back. -/
section Sending

/-- What must hold of a call for it to get through: its name leads to an account, and neither its
body nor its address is too long. -/
structure Passes (settings : Settings) (call : Call) : Prop where
  addressable : ∀ name, call.account? = some name → Server.isAddressable name = true
  body : ∀ body, call.body = some body → (bytes body).length ≤ Server.bodyLimit
  address : (call.url settings).utf8ByteSize ≤ addressLimit

theorem send_call (number : Nat) (small : number ≤ 65535) (settings : Settings) (call : Call)
    (configured : settings.basePath = (Base.loopback number small).text)
    (plain : settings.headers = []) (passes : Passes settings call) (ticket : Server.Ticket)
    (store : Server.Store) :
    ∃ headers, send (Peer.server ticket) (call.draft settings).request store =
      (.ok ⟨(answerTo ticket call store).1.status, headers, (answerTo ticket call store).1.body⟩,
        (answerTo ticket call store).2) := by
  have named : ∀ name, call.account? = some name → name ≠ "." ∧ name ≠ ".." := by
    intro name about
    have addressable := passes.addressable name about
    constructor <;> rintro rfl <;> exact absurd addressable (by decide)
  have prepared := prepare_call number small settings call configured plain named passes.address
  obtain ⟨usual, ascii⟩ := answerTo_usual ticket call store
  obtain ⟨full, settled⟩ := usual_status _ usual
  have handled := handle_arrived number settings plain ticket store call passes.addressable
    passes.body
  -- Stating the length adds a header and leaves the status and the body alone.
  have received := receive_deliveryOf (Server.withLength (answerTo ticket call store).1) full ascii
  rw [arrived] at handled
  refine ⟨(deliveryOf (Server.withLength (answerTo ticket call store).1)).headers.filterMap
    receiveHeader?, ?_⟩
  have answered : (Peer.server ticket).answer (errandOf (callAddress number call)
      (loopbackAuthority number) none (call.draft settings).request).message store =
        (some (deliveryOf (Server.withLength (answerTo ticket call store).1)),
          (answerTo ticket call store).2) := by
    simp only [Peer.server, handled]
  rw [send_final _ _ _ prepared store _ _ answered (Or.inl settled), received]
  rfl

end Sending

end Accounts.Transport
