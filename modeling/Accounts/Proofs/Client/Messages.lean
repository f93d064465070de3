import Accounts.Client.Failure
import Accounts.Proofs.Decimal
import Accounts.Proofs.Text.Split

/-!
Failures told by their messages. The message of each kind of failure opens with words of its own,
and no kind's words begin another's, so that no text from outside turns one kind into another. A
status ends where its digits end, whatever the body behind it begins with. Reading a message gives
back the failure that it is of, and nothing but messages is read.
-/

namespace Accounts.Client

/-! Kinds of failures. -/
section Kinds

inductive FailureKind where
  | notFound
  | http
  | serialization
  | deserialization
  | transport
  | cancelled
  | taskFailed
  | config
  deriving DecidableEq

namespace FailureKind

def all : List FailureKind :=
  [.notFound, .http, .serialization, .deserialization, .transport, .cancelled, .taskFailed,
    .config]

def opening : FailureKind → String
  | .notFound => "resource not found"
  | .http => "HTTP "
  | .serialization => "serialization failed: "
  | .deserialization => "deserialization failed: "
  | .transport => "transport failed: "
  | .cancelled => "request cancelled"
  | .taskFailed => "request task failed: "
  | .config => "invalid configuration: "

theorem mem_all (kind : FailureKind) : kind ∈ all := by
  cases kind <;> decide

theorem opening_apart (kind other : FailureKind)
    (begins : kind.opening.toList <+: other.opening.toList) : kind = other := by
  have table : ∀ first ∈ all, ∀ second ∈ all,
      first.opening.toList.isPrefixOf second.opening.toList = true → first = second := by
    decide
  exact table kind (mem_all kind) other (mem_all other) (List.isPrefixOf_iff_prefix.mpr begins)

theorem opening_unique (text : List Char) (kind other : FailureKind)
    (begins : kind.opening.toList <+: text) (also : other.opening.toList <+: text) :
    kind = other := by
  rcases List.prefix_or_prefix_of_prefix begins also with shorter | longer
  · exact opening_apart kind other shorter
  · exact (opening_apart other kind longer).symm

end FailureKind

namespace Failure

def kind : Failure → FailureKind
  | .notFound => .notFound
  | .http _ _ => .http
  | .serialization _ => .serialization
  | .deserialization _ => .deserialization
  | .transport _ => .transport
  | .cancelled => .cancelled
  | .taskFailed _ => .taskFailed
  | .config _ => .config

def particulars : Failure → String
  | .notFound | .cancelled => ""
  | .http status body => Decimal.write status ++ ": " ++ body
  | .serialization detail | .deserialization detail | .transport detail | .taskFailed detail
  | .config detail => detail

theorem message_parts (failure : Failure) :
    failure.message = failure.kind.opening ++ failure.particulars := by
  cases failure with
  | notFound | cancelled =>
    rw [particulars, String.append_empty]
    rfl
  | http status body =>
    change "HTTP " ++ Decimal.write status ++ ": " ++ body =
      "HTTP " ++ (Decimal.write status ++ ": " ++ body)
    rw [String.append_assoc, String.append_assoc, String.append_assoc]
  | serialization | deserialization | transport | taskFailed | config => rfl

theorem particulars_http (status : Nat) (body : String) :
    (Failure.http status body).particulars.toList =
      Decimal.digits status ++ ':' :: ' ' :: body.toList := by
  have sign : ": ".toList = [':', ' '] := rfl
  rw [particulars, String.toList_append, String.toList_append, Decimal.write,
    String.toList_ofList, sign, List.append_assoc]
  rfl

end Failure

end Kinds

/-! Reading messages. -/
section Reading

/-- A status, and the body behind the colon that ends it. The status must be written as statuses
are, without zeros before it. -/
def readStatus? (characters : List Char) : Option Failure :=
  match Nat.ofDigitChars 10 (characters.takeWhile Char.isDigit) 0,
    characters.dropWhile Char.isDigit with
  | status, ':' :: ' ' :: body =>
    if Decimal.digits status = characters.takeWhile Char.isDigit then
      some (.http status (String.ofList body))
    else none
  | _, _ => none

def FailureKind.read? (kind : FailureKind) (particulars : String) : Option Failure :=
  match kind with
  | .notFound => if particulars = "" then some .notFound else none
  | .http => readStatus? particulars.toList
  | .serialization => some (.serialization particulars)
  | .deserialization => some (.deserialization particulars)
  | .transport => some (.transport particulars)
  | .cancelled => if particulars = "" then some .cancelled else none
  | .taskFailed => some (.taskFailed particulars)
  | .config => some (.config particulars)

def FailureKind.ofMessage? (kind : FailureKind) (message : String) : Option Failure :=
  if kind.opening.toList <+: message.toList then
    kind.read? (String.ofList (message.toList.drop kind.opening.toList.length))
  else none

def Failure.ofMessage? (message : String) : Option Failure :=
  FailureKind.all.findSome? fun kind => kind.ofMessage? message

theorem readStatus?_iff (particulars : String) (failure : Failure) :
    readStatus? particulars.toList = some failure ↔
      failure.kind = .http ∧ failure.particulars = particulars := by
  constructor
  · intro read
    have whole := List.takeWhile_append_dropWhile (p := Char.isDigit) (l := particulars.toList)
    unfold readStatus? at read
    split at read
    · rename_i body behind
      rw [Option.ite_none_right_eq_some] at read
      obtain ⟨canonical, found⟩ := read
      cases found
      refine ⟨rfl, String.toList_injective ?_⟩
      rw [Failure.particulars_http, canonical, String.toList_ofList, ← behind, whole]
    · cases read
  · rintro ⟨kind, rfl⟩
    cases failure with
    | http status body =>
      obtain ⟨digits, behind⟩ := Text.span_append Char.isDigit (Decimal.digits status)
        (':' :: ' ' :: body.toList) (Decimal.digits_digit status) (by rintro _ ⟨rfl⟩; decide)
      rw [Failure.particulars_http, readStatus?, digits, behind, Decimal.digits_value]
      simp
    | _ => cases kind

theorem FailureKind.read?_iff (kind : FailureKind) (particulars : String) (failure : Failure) :
    kind.read? particulars = some failure ↔
      failure.kind = kind ∧ failure.particulars = particulars := by
  cases kind with
  | http => exact readStatus?_iff particulars failure
  | _ => cases failure <;> simp [FailureKind.read?, Failure.kind, Failure.particulars, eq_comm]

theorem FailureKind.ofMessage?_iff (kind : FailureKind) (message : String) (failure : Failure) :
    kind.ofMessage? message = some failure ↔
      failure.kind = kind ∧ failure.message = message := by
  rw [ofMessage?, Option.ite_none_right_eq_some, FailureKind.read?_iff]
  constructor
  · rintro ⟨begins, rfl, particulars⟩
    refine ⟨rfl, String.toList_injective ?_⟩
    rw [failure.message_parts, particulars, String.toList_append, String.toList_ofList]
    exact List.prefix_iff_eq_append.mp begins
  · rintro ⟨rfl, rfl⟩
    rw [failure.message_parts, String.toList_append, List.drop_left, String.ofList_toList]
    exact ⟨List.prefix_append _ _, rfl, rfl⟩

theorem Failure.ofMessage?_iff (message : String) (failure : Failure) :
    ofMessage? message = some failure ↔ failure.message = message := by
  constructor
  · intro read
    obtain ⟨kind, _, found⟩ := List.exists_of_findSome?_eq_some read
    exact ((kind.ofMessage?_iff message failure).mp found).2
  · intro written
    have own := (failure.kind.ofMessage?_iff message failure).mpr ⟨rfl, written⟩
    -- Some kind reads the text, and the failure that it reads has the same opening.
    obtain ⟨other, read⟩ := Option.isSome_iff_exists.mp
      (List.findSome?_isSome_iff.mpr ⟨failure.kind, failure.kind.mem_all, by rw [own]; rfl⟩ :
        (ofMessage? message).isSome)
    obtain ⟨kind, _, found⟩ := List.exists_of_findSome?_eq_some read
    obtain ⟨rfl, same⟩ := (kind.ofMessage?_iff message other).mp found
    have begins (failure : Failure) (written : failure.message = message) :
        failure.kind.opening.toList <+: message.toList := by
      rw [← written, failure.message_parts, String.toList_append]
      exact List.prefix_append _ _
    rw [FailureKind.opening_unique message.toList _ _ (begins other same) (begins failure written),
      own] at found
    exact read.trans found.symm

/-- A body that begins like a status and its colon. -/
example : Failure.ofMessage? "HTTP 404: 12: x" = some (.http 404 "12: x") := by
  rw [Failure.ofMessage?_iff]
  rfl

end Reading

/-- Failures with the same message are the same, and a message is read as the failure that it is
of. -/
theorem message_identifies :
    (∀ failure other : Failure, failure.message = other.message → failure = other) ∧
      ∀ message failure, Failure.ofMessage? message = some failure ↔ failure.message = message := by
  refine ⟨?_, Failure.ofMessage?_iff⟩
  intro failure other same
  have own := (Failure.ofMessage?_iff other.message failure).mpr same
  have read := (Failure.ofMessage?_iff other.message other).mpr rfl
  exact Option.some.inj (own.symm.trans read)

end Accounts.Client
