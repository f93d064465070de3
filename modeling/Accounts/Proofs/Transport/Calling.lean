import Accounts.Proofs.Client.Addresses
import Accounts.Transport.Basic

/-!
Calls going out. A call to a service on the own machine is put on the wire with the parts it was
made of.
-/

namespace Accounts.Transport

open Accounts.Text Accounts.Url Accounts.Client

def callTarget (call : Call) : List Char :=
  (call.segments.map String.toList).flatMap ('/' :: ·) ++ call.tail

def callAddress (number : Nat) (call : Call) : Address :=
  ⟨"http".toList, some (loopbackAuthority number), .segments (call.segments.map String.toList),
    call.written?, none⟩

theorem withTail_call (address : Address) (call : Call) (web : address.scheme.kind = .common) :
    address.withTail call.tail =
      { address with query := call.written?, fragment := none } := by
  cases written : call.written? with
  | none => simp [Call.tail, written, Address.withTail, readQuery, readFragment]
  | some query =>
    have plain := written_plain call query written
    have whole := span_all (· != '#') ('?' :: query)
      (by
        intro character member
        rcases List.mem_cons.mp member with mark | inside
        · rw [mark]
          decide
        · simpa using (plain character inside).2.1)
    have common : (SchemeKind.common != SchemeKind.other) = true := by decide
    have kept := escapeAll_plain (escapesInQuery true) query
      fun character member => (plain character member).2.2
    simp only [Call.tail, written, Address.withTail, readQuery, readFragment, whole, web, common,
      kept]

theorem parse?_root (base : Base) (root : base.segments = []) (settings : Settings) (call : Call)
    (configured : settings.basePath = base.text)
    (named : ∀ name, call.account? = some name → name ≠ "." ∧ name ≠ "..") :
    ∃ found, wholeAuthority? "http".toList (withoutBreaks base.authority.toList) = some found ∧
      parse? (call.draft settings).request.url =
        some ⟨"http".toList, some found, .segments (call.segments.map String.toList),
          call.written?, none⟩ := by
  obtain ⟨found, read, parsed⟩ := parse?_call base settings call configured
  have resolved := resolve_call [] call named
  have web : Scheme.kind "http".toList = .common := by decide
  refine ⟨found, read, ?_⟩
  rw [parsed, withTail_call _ call web, root]
  simp only [List.map_nil, List.reverse_nil, resolved, List.nil_append]

theorem parse?_callAddress (number : Nat) (small : number ≤ 65535) (settings : Settings)
    (call : Call) (configured : settings.basePath = (Base.loopback number small).text)
    (named : ∀ name, call.account? = some name → name ≠ "." ∧ name ≠ "..") :
    parse? (call.draft settings).request.url = some (callAddress number call) := by
  obtain ⟨found, read, parsed⟩ :=
    parse?_root (Base.loopback number small) rfl settings call configured named
  have known := wholeAuthority?_loopback number small
  have same : found = loopbackAuthority number := Option.some.inj (read.symm.trans known)
  rw [parsed, same]
  rfl

theorem writeTarget_call (number : Nat) (call : Call) :
    (callAddress number call).writeTarget = callTarget call := by
  cases written : call.written? <;>
    simp [callAddress, Address.writeTarget, Path.write, callTarget, Call.tail, written]

def keptNumber (number : Nat) : List Char :=
  if number = 80 then [] else ':' :: Decimal.digits number

theorem writeHost_loopback (number : Nat) :
    (loopbackAuthority number).writeHost = loopbackHost ++ keptNumber number := by
  have host : Host.write (.v4 2130706433) = loopbackHost := by decide
  by_cases usual : number = 80 <;>
    simp [loopbackAuthority, Authority.writeHost, host, keptNumber?, keptNumber, usual]

theorem write_call (number : Nat) (call : Call) :
    (callAddress number call).write =
      String.ofList ("http://".toList ++ loopbackHost ++ keptNumber number ++ callTarget call) := by
  have user : (loopbackAuthority number).writeUser = [] := rfl
  have host := writeHost_loopback number
  have target := writeTarget_call number call
  have front : (callAddress number call).writeBeforePath =
      "//".toList ++ (loopbackHost ++ keptNumber number) := by
    rw [← host]
    rfl
  have unmarked : (callAddress number call).fragment = none := rfl
  have scheme : (callAddress number call).scheme = "http".toList := rfl
  have joined : "http".toList ++ ':' :: "//".toList = "http://".toList := by decide
  rw [Address.write, front, target, unmarked, scheme, ← joined]
  simp

theorem url_loopback (number : Nat) (small : number ≤ 65535) (settings : Settings) (call : Call)
    (configured : settings.basePath = (Base.loopback number small).text) :
    call.url settings = String.ofList ("http://".toList ++ loopbackHost ++
      ':' :: Decimal.digits number ++ callTarget call) := by
  have front : (Base.loopback number small).characters =
      "http://".toList ++ loopbackHost ++ ':' :: Decimal.digits number := by
    have authority : (Base.loopback number small).authority.toList =
        loopbackHost ++ ':' :: Decimal.digits number := String.toList_ofList
    have segments : (Base.loopback number small).segments = [] := rfl
    rw [Base.characters_eq, authority, segments, List.flatMap_nil, List.append_nil,
      List.append_assoc]
  rw [url_characters (Base.loopback number small) settings call configured, front, callTarget]

theorem size_bytes (text : String) : text.utf8ByteSize = (bytes text).length := by
  simp [bytes]

/-- An address is never longer than the text that it was found in. -/
theorem write_short (number : Nat) (small : number ≤ 65535) (settings : Settings) (call : Call)
    (configured : settings.basePath = (Base.loopback number small).text) :
    (callAddress number call).write.utf8ByteSize ≤ (call.url settings).utf8ByteSize := by
  have kept : ((keptNumber number).flatMap String.utf8EncodeChar).length ≤
      ((':' :: Decimal.digits number).flatMap String.utf8EncodeChar).length := by
    unfold keptNumber
    split
    · simp
    · exact Nat.le_refl _
  rw [write_call, url_loopback number small settings call configured, size_bytes, size_bytes,
    bytes_ofList, bytes_ofList]
  simp only [List.flatMap_append, List.length_append]
  omega

theorem authorization?_userless (authority : Authority) (username : authority.username = [])
    (password : authority.password = none) : authorization? authority = none := by
  have decoded : ofBytes? (Percent.decode (bytes (String.ofList []))) = some "" := by
    simpa [Percent.decode, bytes] using ofBytes?_bytes ""
  simp [authorization?, username, password, decoded]

theorem authorization?_loopback (number : Nat) :
    authorization? (loopbackAuthority number) = none :=
  authorization?_userless (loopbackAuthority number) rfl rfl

theorem isSendable_call (number : Nat) (call : Call)
    (short : (callAddress number call).write.utf8ByteSize ≤ addressLimit) :
    isSendable (callAddress number call) (loopbackAuthority number) = true := by
  have web : Scheme.isWeb "http".toList = true := by decide
  have host : ∀ character ∈ loopbackHost, isUnsendable character = false := by decide
  have digit := Decimal.forall_digit (fun character => isUnsendable character = false) (by decide)
  -- Of the three conditions only the host needs a look at its characters.
  have bare : (loopbackAuthority number).writeHost.any isUnsendable = false := by
    rw [writeHost_loopback, List.any_eq_false]
    intro character member
    rw [Bool.not_eq_true]
    rcases List.mem_append.mp member with inside | behind
    · exact host character inside
    · unfold keptNumber at behind
      split at behind
      · cases behind
      · rcases List.mem_cons.mp behind with colon | within
        · rw [colon]
          decide
        · exact digit character (Decimal.digits_digit number character within)
  have scheme : (callAddress number call).scheme.isWeb = true := web
  rw [isSendable, scheme, bare, decide_eq_true short]
  rfl

/-! Room for headers. -/
section Room

theorem eraseDups_length_le (names : List String) : names.eraseDups.length ≤ names.length := by
  induction size : names.length using Nat.strongRecOn generalizing names with
  | ind count ih =>
    cases names with
    | nil => simp [← size]
    | cons name rest =>
      have fewer := List.length_filter_le (fun other => !other == name) rest
      have kept := ih _ (by simp at size; omega) (rest.filter fun other => !other == name) rfl
      rw [List.eraseDups_cons, ← size, List.length_cons, List.length_cons]
      omega

theorem fits_few (names : List String) (few : names.length ≤ nameLimit) : fits names = true := by
  have distinct := eraseDups_length_le names.dropLast
  have positive : 0 < nameLimit := by decide
  rw [List.length_dropLast] at distinct
  rw [fits, decide_eq_true_iff]
  omega

theorem fits_before (front back : List String) (fit : fits (front ++ back) = true) :
    fits front = true := by
  cases back with
  | nil => simpa using fit
  | cons name rest =>
    rw [fits, decide_eq_true_iff] at fit ⊢
    have whole : (front ++ name :: rest).dropLast = front ++ (name :: rest).dropLast :=
      List.dropLast_append_of_ne_nil (by simp)
    obtain ⟨last, split⟩ : ∃ last, front = front.dropLast ++ last := by
      rcases List.eq_nil_or_concat front with rfl | ⟨before, last, rfl⟩
      · exact ⟨[], rfl⟩
      · exact ⟨[last], by simp⟩
    rw [whole, split, List.append_assoc, List.eraseDups_append, List.length_append] at fit
    omega

end Room

theorem contentHeaders_plain (call : Call) :
    call.contentHeaders.all isWellFormed = true ∧ call.contentHeaders.length ≤ 1 := by
  have label : isWellFormed ⟨"content-type", "application/json"⟩ = true := by decide
  rw [Call.contentHeaders, Http.presentHeaders]
  cases call.body <;> simp [label]

theorem unlessGiven_length (headers : List (String × List UInt8)) (name : String)
    (value : List UInt8) : (unlessGiven headers name value).length ≤ 1 := by
  unfold unlessGiven
  split <;> simp

theorem names_length (address : Address) (authority : Authority)
    (authorization : Option (List UInt8)) (request : Http.Request) :
    (errandOf address authority authorization request).names.length ≤
      (givenHeaders authorization request.headers).length + 3 := by
  have accept := unlessGiven_length (givenHeaders authorization request.headers) "accept"
    (bytes "*/*")
  simp only [Errand.names, errandOf, List.length_append, List.length_map, List.length_cons]
  cases request.body <;> simp <;> omega

theorem prepare_call (number : Nat) (small : number ≤ 65535) (settings : Settings) (call : Call)
    (configured : settings.basePath = (Base.loopback number small).text)
    (plain : settings.headers = [])
    (named : ∀ name, call.account? = some name → name ≠ "." ∧ name ≠ "..")
    (short : (call.url settings).utf8ByteSize ≤ addressLimit) :
    prepare (call.draft settings).request =
      .ok (errandOf (callAddress number call) (loopbackAuthority number) none
        (call.draft settings).request) := by
  have sendable := isSendable_call number call
    (Nat.le_trans (write_short number small settings call configured) short)
  have headers : (call.draft settings).request.headers = call.contentHeaders := by
    simp [Call.draft, Draft.make, plain]
  obtain ⟨sound, few⟩ := contentHeaders_plain call
  rw [← headers] at sound few
  have parsed := parse?_callAddress number small settings call configured named
  have kept : withoutUser none (loopbackAuthority number) = loopbackAuthority number := rfl
  have hosted : (loopbackAuthority number).host.isNone = false := rfl
  have own : (callAddress number call).authority = some (loopbackAuthority number) := rfl
  have same : { callAddress number call with authority := some (loopbackAuthority number) } =
      callAddress number call := rfl
  have room := names_length (callAddress number call) (loopbackAuthority number) none
    (call.draft settings).request
  have all := fits_few _ (Nat.le_trans room (by simp [givenHeaders, nameLimit]; omega))
  have before : fits ((givenHeaders none
      ((call.draft settings).request.headers.takeWhile isWellFormed)).map (·.1)) = true := by
    apply fits_few
    have fewer := (List.takeWhile_prefix (l := (call.draft settings).request.headers)
      isWellFormed).length_le
    simp [givenHeaders, nameLimit]
    omega
  have address : (errandOf (callAddress number call) (loopbackAuthority number) none
      (call.draft settings).request).address = callAddress number call := rfl
  rw [prepare, parsed]
  simp only [own, hosted, sound, authorization?_loopback, kept, same, before, all, address,
    sendable]
  rfl

end Accounts.Transport
