import Accounts.Proofs.Decimal
import Accounts.Proofs.Transport.Calling
import Accounts.Proofs.Url.Visible

/-!
Headers as lines. A header that is well-formed makes one line on the wire, with nothing in it that
ends the line early, and so do the headers that a message adds to those of its errand. The message
of a sound request's errand carries all of the request.
-/

namespace Accounts.Transport

open Accounts.Text Accounts.Url

/-! Headers that can be sent. -/
section Headers

/-- The bytes that end a line, and the other controls. A tab is none of them. -/
def isControl (byte : UInt8) : Bool := (byte < 0x20 && byte != 0x09) || byte == 0x7F

/-- Whether a name and a value, as they are put on the wire, make one line with nothing in it that
ends either of them early. -/
structure IsLine (header : String × List UInt8) : Prop where
  named : header.1 ≠ ""
  name : ∀ byte ∈ bytes header.1, isTokenByte byte = true
  value : ∀ byte ∈ header.2, isControl byte = false

structure IsSound (header : Http.Header) : Prop extends
    IsLine (header.name, bytes header.value) where
  short : (bytes header.name).length ≤ headerNameLimit

theorem bytes_empty (text : String) : bytes text = [] ↔ text = "" := by
  have empty : bytes "" = [] := rfl
  rw [← empty]
  exact ⟨bytes_injective text "", congrArg bytes⟩

theorem isHeaderName_iff (name : String) : isHeaderName name = true ↔
    name ≠ "" ∧ (∀ byte ∈ bytes name, isTokenByte byte = true) ∧
      (bytes name).length ≤ headerNameLimit := by
  rw [isHeaderName, Bool.and_eq_true, Bool.and_eq_true, Bool.not_eq_true', List.isEmpty_eq_false_iff,
    Ne, bytes_empty, List.all_eq_true, decide_eq_true_iff]
  exact ⟨fun ⟨⟨named, short⟩, token⟩ => ⟨named, token, short⟩,
    fun ⟨named, token, short⟩ => ⟨⟨named, short⟩, token⟩⟩

theorem isHeaderValue_iff (value : String) :
    isHeaderValue value = true ↔ ∀ byte ∈ bytes value, isControl byte = false := by
  have table := forall_byte (fun byte =>
    ((0x20 ≤ byte && byte != 0x7F) || byte == 0x09) = true ↔ isControl byte = false)
    (by decide +kernel)
  rw [isHeaderValue, List.all_eq_true]
  exact forall₂_congr fun byte _ => table byte

theorem isWellFormed_iff (header : Http.Header) : isWellFormed header = true ↔ IsSound header := by
  rw [isWellFormed, Bool.and_eq_true, isHeaderName_iff, isHeaderValue_iff]
  exact ⟨fun ⟨⟨named, name, short⟩, value⟩ => ⟨⟨named, name, value⟩, short⟩,
    fun sound => ⟨⟨sound.named, sound.name, sound.short⟩, sound.value⟩⟩

theorem lowercase_token (name : String) (token : ∀ byte ∈ bytes name, isTokenByte byte = true) :
    ∀ byte ∈ bytes (lowercase name), isTokenByte byte = true := by
  have above := forall_byte (fun byte => isTokenByte byte = true → byte < 0x80)
    (by decide +kernel)
  have table := forall_ascii (fun character => isTokenByte (UInt8.ofNat character.toNat) = true →
    character.toLower.toNat < 0x80 ∧
      isTokenByte (UInt8.ofNat character.toLower.toNat) = true) (by decide +kernel)
  rw [bytes_eq_flatMap] at token
  rw [lowercase, bytes_ofList]
  intro byte member
  obtain ⟨low, listed, inside⟩ := List.mem_flatMap.mp member
  obtain ⟨character, among, rfl⟩ := List.mem_map.mp listed
  have own (byte : UInt8) (within : byte ∈ String.utf8EncodeChar character) :
      isTokenByte byte = true := token byte (List.mem_flatMap.mpr ⟨character, among, within⟩)
  have small : character.toNat < 0x80 := by
    by_contra large
    obtain ⟨first, rest, shape⟩ := List.exists_cons_of_ne_nil
      (String.utf8EncodeChar_ne_nil (c := character))
    have within : first ∈ String.utf8EncodeChar character := by simp [shape]
    have high := encode_above character (Nat.not_lt.mp large) first within
    exact absurd (above first (own first within)) (UInt8.not_lt.mpr high)
  obtain ⟨still, kept⟩ := table character small
    (own _ (by rw [encode_ascii character small]; exact List.mem_singleton.mpr rfl))
  rw [encode_ascii _ still] at inside
  rwa [List.mem_singleton.mp inside]

theorem lowered_line (header : Http.Header) (sound : IsSound header) : IsLine (lowered header) := by
  refine ⟨?_, lowercase_token header.name sound.name, sound.value⟩
  intro empty
  have letters : header.name.toList.map Char.toLower = [] := String.ofList_eq_empty_iff.mp empty
  exact sound.named (String.toList_eq_nil_iff.mp (List.map_eq_nil_iff.mp letters))

end Headers

/-! Headers that are added. -/
section Added

theorem shown_bytes (characters : List Char)
    (shown : ∀ character ∈ characters, isShown character = true) :
    ∀ byte ∈ bytes (String.ofList characters), 0x20 < byte ∧ byte < 0x7F := by
  have table := forall_ascii (fun character => isShown character = true →
    0x20 < UInt8.ofNat character.toNat ∧ UInt8.ofNat character.toNat < 0x7F) (by decide)
  have ascii : ∀ character ∈ characters, character.toNat < 0x80 := by
    intro character member
    have range := (isShown_iff character).mp (shown character member)
    omega
  intro byte member
  rw [bytes_ascii characters ascii] at member
  obtain ⟨character, listed, rfl⟩ := List.mem_map.mp member
  exact table character (ascii character listed) (shown character listed)

theorem shown_value (characters : List Char)
    (shown : ∀ character ∈ characters, isShown character = true) :
    ∀ byte ∈ bytes (String.ofList characters), isControl byte = false := by
  have table := forall_byte (fun byte => 0x20 < byte ∧ byte < 0x7F → isControl byte = false)
    (by decide +kernel)
  exact fun byte member => table byte (shown_bytes characters shown byte member)

theorem digit64_value (value : Nat) : isControl (digit64 value) = false := by
  have table : ∀ value < 64, isControl (digit64 value) = false := by decide
  by_cases small : value < 64
  · exact table value small
  · -- A value past the last digit is written as the last digit.
    have last : digit64 value = 0x2F := by
      rw [digit64, if_neg (by omega), if_neg (by omega), if_neg (by omega), if_neg (by omega)]
      rfl
    rw [last]
    decide

theorem encode64_value (encoded : List UInt8) :
    ∀ byte ∈ encode64 encoded, isControl byte = false := by
  have equals : isControl 0x3D = false := by decide
  fun_induction encode64 encoded with
  | case1 => simp
  | case2 | case3 => simp [digit64_value, equals]
  | case4 first second third rest group ih =>
    simp only [List.forall_mem_cons]
    exact ⟨digit64_value _, digit64_value _, digit64_value _, digit64_value _, ih⟩

theorem authorization?_value (authority : Authority) (value : List UInt8)
    (made : authorization? authority = some value) : ∀ byte ∈ value, isControl byte = false := by
  have front : ∀ byte ∈ bytes "Basic ", isControl byte = false := by decide
  simp only [authorization?] at made
  split at made
  · cases made
  · rw [Option.ite_none_left_eq_some] at made
    cases made.2
    rw [List.forall_mem_append]
    exact ⟨front, encode64_value _⟩

theorem known_line (name : String) (value : List UInt8)
    (known : name ∈ ["authorization", "accept", "host", "content-length", "referer"])
    (clean : ∀ byte ∈ value, isControl byte = false) : IsLine (name, value) := by
  have table : ∀ name ∈ ["authorization", "accept", "host", "content-length", "referer"],
      name ≠ "" ∧ ∀ byte ∈ bytes name, isTokenByte byte = true := by
    decide
  exact ⟨(table name known).1, (table name known).2, clean⟩

theorem unlessGiven_lines (headers : List (String × List UInt8)) (name : String)
    (value : List UInt8) (line : IsLine (name, value)) :
    ∀ header ∈ unlessGiven headers name value, IsLine header := by
  unfold unlessGiven
  split
  · simp
  · simpa using line

theorem length_value (number : Nat) :
    ∀ byte ∈ bytes (Decimal.write number), isControl byte = false :=
  shown_value _ fun character member =>
    digit_shown character (Decimal.digits_digit number character member)

end Added

/-! Messages. Nothing in them ends a line early, if that is so of the errands that they are sent
on. -/
section Messages

structure Message.IsClean (message : Message) : Prop where
  lines : ∀ header ∈ message.headers, IsLine header
  visible : ∀ byte ∈ message.target, 0x20 < byte ∧ byte < 0x7F

structure Errand.IsClean (errand : Errand) : Prop where
  web : errand.address.scheme.isWeb = true
  lines : ∀ header ∈ errand.headers, IsLine header
  host : ∀ character ∈ errand.authority.writeHost, isShown character = true
  target : ∀ character ∈ errand.address.writeTarget, isShown character = true

theorem Errand.IsClean.message {errand : Errand} (clean : errand.IsClean) :
    errand.message.IsClean := by
  constructor
  case lines =>
    have host := unlessGiven_lines errand.headers "host" _
      (known_line "host" _ (by simp) (shown_value _ clean.host))
    rw [Errand.message, List.forall_mem_append, List.forall_mem_append]
    refine ⟨⟨clean.lines, host⟩, ?_⟩
    cases errand.body with
    | none => simp
    | some body =>
      exact unlessGiven_lines errand.headers "content-length" _
        (known_line "content-length" _ (by simp) (length_value body.length))
  case visible => exact shown_bytes _ clean.target

theorem errandOf_clean (request : Http.Request) (address : Address) (authority own : Authority)
    (web : address.scheme.isWeb = true)
    (host : ∀ character ∈ own.writeHost, isShown character = true)
    (target : ∀ character ∈ address.writeTarget, isShown character = true)
    (sound : ∀ header ∈ request.headers, IsSound header) :
    (errandOf address own (authorization? authority) request).IsClean := by
  have accept : ∀ byte ∈ bytes "*/*", isControl byte = false := by decide
  refine ⟨web, ?_, host, target⟩
  rw [errandOf, givenHeaders, List.forall_mem_append, List.forall_mem_append]
  refine ⟨⟨?_, ?_⟩, unlessGiven_lines _ _ _ (known_line "accept" _ (by simp) accept)⟩
  · intro header member
    obtain ⟨value, made, rfl⟩ := Option.map_eq_some_iff.mp (Option.mem_toList.mp member)
    exact known_line _ _ (by simp) (authorization?_value authority value made)
  · intro header member
    obtain ⟨given, listed, rfl⟩ := List.mem_map.mp member
    exact lowered_line given (sound given listed)

end Messages

/-! What a message is made of. -/
section Carrying

def added (authority : Authority) (body : Option String) : List (String × List UInt8) :=
  [("accept", bytes "*/*"), ("host", bytes (String.ofList authority.writeHost))] ++
    (body.map fun text => ("content-length", bytes (Decimal.write (bytes text).length))).toList

/-- What a message is made of when it carries a request to an address. -/
structure Carries (request : Http.Request) (address : Address) (authority : Authority)
    (message : Message) : Prop where
  method : message.method = request.method.name
  target : message.target = bytes (String.ofList address.writeTarget)
  body : message.body = request.body.map bytes
  /-- The headers are those of the request, each as often as it was given, one more if there is a
  user, and those that are added. In which order names come does not matter. -/
  headers : message.headers.Perm
    (((authorization? authority).map (Prod.mk "authorization")).toList ++
      (request.headers.map lowered ++ added authority request.body))
  userless : authority.username = [] → authority.password = none → authorization? authority = none

end Carrying

end Accounts.Transport
