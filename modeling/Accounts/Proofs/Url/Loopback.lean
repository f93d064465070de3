import Accounts.Proofs.Decimal
import Accounts.Proofs.Url.Segments

/-!
The address of the own machine: four fixed bytes and the number at which a service listens.
-/

namespace Accounts.Url

open Accounts.Text

/-! Reading numbers that were written in decimal. -/
section Numbers

theorem digitIn?_digit (character : Char) (digit : character.isDigit = true) :
    digitIn? 10 character = some (character.toNat - '0'.toNat) :=
  Decimal.forall_digit (fun character =>
    digitIn? 10 character = some (character.toNat - '0'.toNat)) (by decide) character digit

theorem valueIn?_digits (characters : List Char) (total : Nat)
    (digits : ∀ character ∈ characters, character.isDigit = true) :
    valueIn? 10 total characters = some (Nat.ofDigitChars 10 characters total) := by
  induction characters generalizing total with
  | nil => simp [valueIn?]
  | cons character rest ih =>
    have later := ih (total * 10 + (character.toNat - '0'.toNat))
      (fun other member => digits other (List.mem_cons_of_mem character member))
    rw [valueIn?, digitIn?_digit character (digits character (by simp))]
    simp only [later, Nat.ofDigitChars_cons, Nat.mul_comm]

def keptNumber? (number : Nat) : Option Nat := if number = 80 then none else some number

theorem readNumber?_digits (number : Nat) (small : number ≤ 65535) :
    readNumber? "http".toList (Decimal.digits number) = some (keptNumber? number, []) := by
  have digits := Decimal.digits_digit number
  have split := span_append Char.isDigit (Decimal.digits number) [] digits (by simp)
  have usual : Scheme.usualNumber? "http".toList = some 80 := by decide
  rw [List.append_nil] at split
  have value := valueIn?_digits (Decimal.digits number) 0 digits
  rw [Decimal.digits_value] at value
  have given : (Decimal.digits number).isEmpty = false := by
    simp [Decimal.digits_nonempty]
  simp only [readNumber?, split, value, usual, given]
  rw [if_neg (by omega)]
  by_cases common : number = 80
  · simp [keptNumber?, common]
  · simp [keptNumber?, common, Ne.symm common]

end Numbers

section Loopback

def loopbackHost : List Char := "127.0.0.1".toList

def loopback (number : Nat) : String :=
  String.ofList (loopbackHost ++ ':' :: Decimal.digits number)

def loopbackAuthority (number : Nat) : Authority :=
  ⟨[], none, some (.v4 2130706433), keptNumber? number⟩

theorem parse?_loopbackHost : Host.parse? loopbackHost = some (.v4 2130706433) := by
  have ascii : ∀ character ∈ loopbackHost, character.toNat < 0x80 ∧ character ≠ '%' := by decide
  have decoded : ofBytes? (Percent.decode (bytes (String.ofList loopbackHost))) =
      some (String.ofList loopbackHost) := by
    have plain := Percent.decode_plain loopbackHost ascii
    have written := bytes_ascii loopbackHost fun character member => (ascii character member).1
    rw [← written] at plain
    rw [plain, ofBytes?_bytes]
  have domain : Domain.toAscii? loopbackHost = some loopbackHost := by decide
  have allowed : loopbackHost.any isForbiddenInDomain = false := by decide
  have number : endsInNumber loopbackHost = true ∧ v4? loopbackHost = some 2130706433 := by decide
  -- The host is read as a domain first, and its last part then makes it an address.
  have bracketless : Host.parse? loopbackHost = readDomain? loopbackHost := rfl
  rw [bracketless, readDomain?, decoded]
  simp only [String.toList_ofList, domain, allowed, number]
  rfl

theorem splitUser_plain (characters : List Char)
    (plain : ∀ character ∈ characters, character ≠ '@') :
    splitUser characters = (none, characters) := by
  have whole := span_append (· != '@') characters.reverse []
    (fun character member => by simpa using plain character (List.mem_reverse.mp member)) (by simp)
  rw [List.append_nil] at whole
  simp [splitUser, whole]

theorem splitNumber_plain (host number : List Char)
    (plain : ∀ character ∈ host, character ≠ ':' ∧ character ≠ '[' ∧ character ≠ ']') :
    splitNumber false (host ++ ':' :: number) = (host, some number) := by
  induction host with
  | nil => simp [splitNumber]
  | cons character rest ih =>
    have here := plain character (by simp)
    have later := ih fun other member => plain other (List.mem_cons_of_mem character member)
    simp [splitNumber, here, later]

theorem loopback_character (number : Nat) (character : Char)
    (member : character ∈ (loopback number).toList) :
    character ∈ loopbackHost ∨ character = ':' ∨ character.isDigit = true := by
  rw [loopback, String.toList_ofList] at member
  rcases List.mem_append.mp member with host | behind
  · exact Or.inl host
  · rcases List.mem_cons.mp behind with colon | digit
    · exact Or.inr (Or.inl colon)
    · exact Or.inr (Or.inr (Decimal.digits_digit number character digit))

theorem digit_bare (character : Char) (digit : character.isDigit = true) :
    character ≠ '@' ∧ endsAuthority character = false ∧ 0x20 < character.toNat :=
  Decimal.forall_digit (fun character =>
    character ≠ '@' ∧ endsAuthority character = false ∧ 0x20 < character.toNat) (by decide)
    character digit

theorem loopback_bare (number : Nat) : ∀ character ∈ (loopback number).toList,
    character ≠ '@' ∧ endsAuthority character = false ∧ 0x20 < character.toNat := by
  have table : ∀ character ∈ loopbackHost,
      character ≠ '@' ∧ endsAuthority character = false ∧ 0x20 < character.toNat := by
    decide
  intro character member
  rcases loopback_character number character member with host | colon | digit
  · exact table character host
  · rw [colon]
    decide
  · exact digit_bare character digit

theorem readAuthority?_loopback (number : Nat) (small : number ≤ 65535) :
    readAuthority? "http".toList (loopback number).toList = some (loopbackAuthority number, []) := by
  have userless : ∀ character ∈ loopbackHost ++ ':' :: Decimal.digits number,
      character ≠ '@' := by
    intro character member
    exact (loopback_bare number character (by rwa [loopback, String.toList_ofList])).1
  have bare : ∀ character ∈ loopbackHost,
      character ≠ ':' ∧ character ≠ '[' ∧ character ≠ ']' := by
    decide
  have web : Scheme.kind "http".toList = .common := by decide
  have host : readHost? .common loopbackHost = some (some (.v4 2130706433)) := by
    simp [readHost?, parse?_loopbackHost]
  simp only [loopback, String.toList_ofList, readAuthority?, splitUser_plain _ userless,
    splitNumber_plain _ _ bare, web, host, Option.getD_some, readNumber?_digits number small]
  rfl

theorem wholeAuthority?_loopback (number : Nat) (small : number ≤ 65535) :
    wholeAuthority? "http".toList (withoutBreaks (loopback number).toList) =
      some (loopbackAuthority number) := by
  have shown : withoutBreaks (loopback number).toList = (loopback number).toList :=
    withoutBreaks_visible _ fun character member => (loopback_bare number character member).2.2
  rw [shown, wholeAuthority?, readAuthority?_loopback number small]

theorem isAuthority_loopback (number : Nat) (small : number ≤ 65535) :
    IsAuthority (loopback number) :=
  isAuthority_of_reads (loopback number) (loopbackAuthority number)
    (fun character member => (loopback_bare number character member).2.1)
    (wholeAuthority?_loopback number small)

end Loopback

end Accounts.Url
