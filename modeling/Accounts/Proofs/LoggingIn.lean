import Accounts.Proofs.Transport.Answering

/-!
Logging in. A user name and a password go into a query and the query into an address. Whoever takes
the address apart, and then the query, gets back the two as they were, whatever characters there are
in them, so that a login is always granted. No user is looked for, and none is stored.
-/

namespace Accounts

open Accounts.Text Accounts.Url Accounts.Client Accounts.Transport

/-! At the server. -/
section Serving

def granted (ticket : Server.Ticket) : Server.Response :=
  Server.withLength (Server.plainText 200 ("logged in user session:" ++ ticket.session)
    [⟨"x-rate-limit", Decimal.write Server.rateLimit⟩,
      ⟨"x-expires-after", Decimal.write ticket.expiresAfter⟩])

/-- Whether an answer grants a login: it says so, and names once the limit of the rate and once the
time when the session expires. -/
structure Grants (ticket : Server.Ticket) (status : Nat) (headers : List Http.Header) : Prop where
  status : status = 200
  limit : (headers.filter fun header => Text.sameIgnoringCase header.name "X-Rate-Limit").map
    (·.value) = ["5000"]
  expiry : (headers.filter fun header => Text.sameIgnoringCase header.name "X-Expires-After").map
    (·.value) = [Decimal.write ticket.expiresAfter]

theorem grants_granted (ticket : Server.Ticket) :
    Grants ticket (granted ticket).status (granted ticket).headers := by
  have limits : ["content-type", "x-rate-limit", "x-expires-after", "content-length"].map
      (sameIgnoringCase · "X-Rate-Limit") = [false, true, false, false] := by
    decide
  have expiries : ["content-type", "x-rate-limit", "x-expires-after", "content-length"].map
      (sameIgnoringCase · "X-Expires-After") = [false, false, true, false] := by
    decide
  have number : Decimal.write Server.rateLimit = "5000" := by decide
  simp only [List.map_cons, List.map_nil, List.cons.injEq, and_true] at limits expiries
  constructor
  case status => rfl
  case limit => simp [granted, Server.withLength, Server.plainText, limits, number]
  case expiry => simp [granted, Server.withLength, Server.plainText, expiries]

theorem handle_login (username password : String) (ticket : Server.Ticket)
    (request : Server.Request) (store : Server.Store) (method : request.method = "GET")
    (target : request.target = bytes (String.ofList (callTarget (.login username password)))) :
    Server.handle ticket request store = (granted ticket, store) := by
  have found := callTarget_login username password
  rw [← target] at found
  have asks : Server.Route.login.operation? request.method = some .login := by
    rw [method]
    rfl
  rw [Server.handle_asked ticket request store _ _ .login .login found Server.ofPath?_fixed.2.2.2.1
    asks (by simp [method])]
  simp only [Server.perform, Server.login_written]
  rfl

end Serving

/-! Coming in. -/
section Incoming

theorem receiveHeader?_visible (name value : String)
    (lower : (bytes name).map Http.lowercaseByte = bytes name)
    (visible : ∀ byte ∈ bytes value, Http.isVisible byte = true ∧ isBlankByte byte = false) :
    receiveHeader? (bytes name, bytes value) = some ⟨name, value⟩ := by
  have front := (span_append isBlankByte [] (bytes value) (by simp)
    fun byte first => (visible byte (List.mem_of_mem_head? first)).2).2
  have shown : (bytes value).all Http.isVisible = true :=
    List.all_eq_true.mpr fun byte member => (visible byte member).1
  have back := dropRight_none isBlankByte (bytes value) fun byte member => (visible byte member).2
  rw [List.nil_append] at front
  simp only [receiveHeader?, withoutBlanks, front, back, shown, lower, ofBytes?_bytes, if_true]

theorem receiveHeader?_number (name : String) (value : Nat)
    (lower : (bytes name).map Http.lowercaseByte = bytes name) :
    receiveHeader? (bytes name, bytes (Decimal.write value)) = some ⟨name, Decimal.write value⟩ := by
  have table := Decimal.forall_digit (fun character =>
    Http.isVisible (UInt8.ofNat character.toNat) = true ∧
      isBlankByte (UInt8.ofNat character.toNat) = false) (by decide)
  apply receiveHeader?_visible name _ lower
  intro byte member
  rw [Decimal.write, bytes_ascii _ fun character inside =>
    Decimal.digit_ascii character (Decimal.digits_digit value character inside)] at member
  obtain ⟨character, inside, rfl⟩ := List.mem_map.mp member
  exact table character (Decimal.digits_digit value character inside)

theorem receive_granted (ticket : Server.Ticket) :
    receive (deliveryOf (granted ticket)) =
      .ok ⟨200, (granted ticket).headers, (granted ticket).body⟩ := by
  obtain ⟨usual, ascii⟩ := answerTo_usual ticket (.login "" "") Server.Store.empty
  have label : receiveHeader? (bytes "content-type", bytes "text/plain; charset=utf-8") =
      some ⟨"content-type", "text/plain; charset=utf-8"⟩ := by
    decide +kernel
  have limit := receiveHeader?_number "x-rate-limit" Server.rateLimit (by decide)
  have expiry := receiveHeader?_number "x-expires-after" ticket.expiresAfter (by decide)
  have length := receiveHeader?_number "content-length"
    (bytes ("logged in user session:" ++ ticket.session)).length (by decide)
  have headers : (deliveryOf (granted ticket)).headers.filterMap receiveHeader? =
      (granted ticket).headers := by
    simp only [deliveryOf, granted, Server.withLength, Server.plainText, List.map_append,
      List.map_cons, List.map_nil, List.any_append, List.any_cons, beq_self_eq_true, Bool.true_or,
      Bool.or_true, if_true, List.filterMap_append, List.filterMap_cons, List.filterMap_nil, label,
      limit, expiry, length]
  rw [receive_deliveryOf (granted ticket) (usual_status _ usual).1 ascii, headers]
  rfl

end Incoming

/-- What becomes of the request for a login. -/
structure LogsIn (base : Base) (settings : Settings) (ticket : Server.Ticket)
    (username password : String) : Prop where
  /-- The query of its address gives back what went into it. -/
  read : ∃ address query,
    parse? ((Call.login username password).draft settings).request.url = some address ∧
      address.query = some query ∧
      Credentials.ofQuery (bytes (String.ofList query)) = .ok ⟨some username, some password⟩
  /-- Whoever asks the server for what the address names is granted the login by one and the same
  answer, whatever users there are, and leaves them alone. -/
  answered : ∀ address,
    parse? ((Call.login username password).draft settings).request.url = some address →
    ∃ response, Grants ticket response.status response.headers ∧
      ∀ request : Server.Request, request.method = "GET" →
        request.target = bytes (String.ofList address.writeTarget) →
        ∀ store, Server.handle ticket request store = (response, store)
  /-- On the own machine the request goes out if it is not too long, and the answer comes in. -/
  delivered : ∀ number small, base = Base.loopback number small → settings.headers = [] →
    ((Call.login username password).url settings).utf8ByteSize ≤ addressLimit →
    ∃ response, Grants ticket response.status response.headers ∧
      ∀ store, send (Peer.server ticket) ((Call.login username password).draft settings).request
        store = (.ok response, store)

theorem login_intact (base : Base) (root : base.segments = []) (settings : Settings)
    (configured : settings.basePath = base.text) (ticket : Server.Ticket)
    (username password : String) : LogsIn base settings ticket username password := by
  have query : (Call.login username password).written? =
      some (Form.write [⟨"username", username⟩, ⟨"password", password⟩]).toList := rfl
  have unnamed : ∀ name, (Call.login username password).account? = some name →
      name ≠ "." ∧ name ≠ ".." := by
    intro name about
    cases about
  obtain ⟨found, _, parsed⟩ :=
    parse?_root base root settings (.login username password) configured unnamed
  constructor
  case read =>
    refine ⟨_, _, parsed, query, ?_⟩
    rw [String.ofList_toList, Credentials.ofQuery_write]
  case answered =>
    intro address same
    rw [parsed] at same
    cases same
    refine ⟨granted ticket, grants_granted ticket, ?_⟩
    intro request method target store
    apply handle_login username password ticket request store method
    -- The host is no part of the target, so that it may be taken for any other.
    rw [target, ← writeTarget_call 0]
    rfl
  case delivered =>
    rintro number small rfl plain short
    have prepared :=
      prepare_call number small settings (.login username password) configured plain unnamed short
    refine ⟨⟨200, (granted ticket).headers, (granted ticket).body⟩, grants_granted ticket, ?_⟩
    intro store
    have target := writeTarget_call number (.login username password)
    have answered := handle_login username password ticket
      (arrived number settings (.login username password)) store rfl
      (arrived_target number settings _)
    have received := receive_granted ticket
    rw [arrived] at answered
    have final : (deliveryOf (granted ticket)).IsFinal :=
      Or.inl (usual_status 200 (by decide)).2
    rw [send_final (Peer.server ticket) _ _ prepared store store (deliveryOf (granted ticket))
      (by simp only [Peer.server, answered]) final, received]

/-- Credentials full of signs that mean something in a query or in an address. -/
theorem login_intact_signs :
    (Base.loopback 3000 (by decide)).segments = [] ∧
      (Settings.ofBasePath "http://127.0.0.1:3000").basePath =
        (Base.loopback 3000 (by decide)).text ∧
      ((Call.login "a&b=c d" "+%41#é\n").url
        (Settings.ofBasePath "http://127.0.0.1:3000")).utf8ByteSize ≤ addressLimit ∧
      LogsIn (Base.loopback 3000 (by decide)) (Settings.ofBasePath "http://127.0.0.1:3000") ⟨"", 0⟩
        "a&b=c d" "+%41#é\n" := by
  have configured : (Settings.ofBasePath "http://127.0.0.1:3000").basePath =
      (Base.loopback 3000 (by decide)).text := by
    rw [Base.loopback_text]
    decide
  exact ⟨rfl, configured, by decide +kernel, login_intact _ rfl _ configured _ _ _⟩

end Accounts
