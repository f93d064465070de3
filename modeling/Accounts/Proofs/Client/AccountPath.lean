import Accounts.Proofs.Client.Addresses

/-!
Where the address of an account leads. A name in a path is one segment below the base address,
whatever characters it holds; only the two names that are made of dots are resolved away.
-/

namespace Accounts.Client

open Accounts.Text Accounts.Url

section Segments

/-- Whether an address has nothing but one more segment below those of the accounts, which stands
for the name. -/
structure LeadsTo (base : Base) (name : String) (address : Address) : Prop where
  noQuery : address.query = none
  noFragment : address.fragment = none
  path : ∃ segment,
    address.segments = base.segments.map String.toList ++ ["user".toList, segment] ∧
      Percent.decode (bytes (String.ofList segment)) = bytes name

theorem encodeSegment_single : (Percent.encodeSegment ".").toList = ['.'] := by decide

theorem encodeSegment_double : (Percent.encodeSegment "..").toList = ['.', '.'] := by decide

theorem resolve_single (before : List (List Char)) :
    resolve .common before ["user".toList, (Percent.encodeSegment ".").toList] =
      before.reverse ++ ["user".toList, []] := by
  have user : isDots "user".toList = false ∧ escapeAll escapesInPath "user".toList = "user".toList := by
    decide
  have dot : isDoubleDot ['.'] = false ∧ isSingleDot ['.'] = true := by decide
  simp only [isDots, Bool.or_eq_false_iff] at user
  rw [encodeSegment_single]
  generalize "user".toList = here at user
  simp [resolve, user, dot]

theorem resolve_double (before : List (List Char)) :
    resolve .common before ["user".toList, (Percent.encodeSegment "..").toList] =
      before.reverse ++ [[]] := by
  have user : isDots "user".toList = false ∧
      escapeAll escapesInPath "user".toList = "user".toList ∧
      startsWithDrive "user".toList = false := by
    decide
  have dots : isDoubleDot ['.', '.'] = true := by decide
  simp only [isDots, Bool.or_eq_false_iff] at user
  rw [encodeSegment_double]
  generalize "user".toList = here at user
  simp [resolve, leave, user, dots]

theorem decode_encodeSegment_list (name : String) :
    Percent.decode (bytes (String.ofList (Percent.encodeSegment name).toList)) = bytes name := by
  rw [String.ofList_toList, Percent.decode_encodeSegment]

theorem decode_empty : Percent.decode (bytes (String.ofList [])) = [] := by
  simp [bytes, Percent.decode]

theorem account_parts (call : Call) (name : String) (about : call.account? = some name) :
    call.segments = ["user", Percent.encodeSegment name] ∧ call.tail = [] := by
  cases call <;>
    simp_all [Call.account?, Call.segments, Call.tail, Call.written?, Call.query, Form.present]

theorem parse?_account (base : Base) (settings : Settings) (call : Call) (name : String)
    (configured : settings.basePath = base.text) (about : call.account? = some name) :
    ∃ found, parse? (call.draft settings).request.url =
      some ⟨"http".toList, some found,
        .segments (resolve .common (base.segments.map String.toList).reverse
          ["user".toList, (Percent.encodeSegment name).toList]), none, none⟩ := by
  obtain ⟨found, _, parsed⟩ := parse?_call base settings call configured
  obtain ⟨segments, tail⟩ := account_parts call name about
  rw [segments, tail] at parsed
  exact ⟨found, parsed⟩

section Leading

variable (base : Base) (settings : Settings) (call : Call) (name : String)
variable (configured : settings.basePath = base.text) (about : call.account? = some name)
include configured about

theorem leads_to_account (notSingle : name ≠ ".") (notDouble : name ≠ "..") :
    ∃ address, parse? (call.draft settings).request.url = some address ∧
      LeadsTo base name address := by
  obtain ⟨found, parsed⟩ := parse?_account base settings call name configured about
  have named : ∀ other, call.account? = some other → other ≠ "." ∧ other ≠ ".." := by
    intro other same
    rw [about] at same
    cases same
    exact ⟨notSingle, notDouble⟩
  have resolved := resolve_call (base.segments.map String.toList).reverse call named
  rw [(account_parts call name about).1, List.reverse_reverse] at resolved
  refine ⟨_, parsed, rfl, rfl, (Percent.encodeSegment name).toList, ?_,
    decode_encodeSegment_list name⟩
  exact resolved

theorem single_dot_astray (single : name = ".") :
    ¬ ∃ address, parse? (call.draft settings).request.url = some address ∧
      LeadsTo base name address := by
  subst single
  obtain ⟨found, parsed⟩ := parse?_account base settings call "." configured about
  rw [parsed]
  rintro ⟨address, same, _, _, segment, path, decodes⟩
  cases same
  rw [Address.segments, resolve_single, List.reverse_reverse] at path
  have empty : segment = [] := by simpa using path.symm
  rw [empty, decode_empty] at decodes
  exact absurd decodes (by decide)

theorem double_dot_astray (double : name = "..") :
    ¬ ∃ address, parse? (call.draft settings).request.url = some address ∧
      LeadsTo base name address := by
  subst double
  obtain ⟨found, parsed⟩ := parse?_account base settings call ".." configured about
  rw [parsed]
  rintro ⟨address, same, _, _, segment, path, _⟩
  cases same
  rw [Address.segments, resolve_double, List.reverse_reverse] at path
  -- The path has lost the segment of the accounts, so that already its length is wrong.
  have shorter := congrArg List.length path
  simp at shorter

end Leading

/-- The address of a call leads to the account that the call names, unless the name is made of
dots. -/
theorem account_address_iff (base : Base) (slashes : Nat) (settings : Settings) (call : Call)
    (name : String)
    (configured : settings.basePath = (Settings.ofBasePath
      (base.text ++ String.ofList (List.replicate slashes '/'))).basePath)
    (about : call.account? = some name) :
    (∃ address, parse? (call.draft settings).request.url = some address ∧
        LeadsTo base name address) ↔
      name ≠ "." ∧ name ≠ ".." := by
  rw [base.settings slashes] at configured
  constructor
  · intro leads
    constructor
    · intro single
      exact single_dot_astray base settings call name configured about single leads
    · intro double
      exact double_dot_astray base settings call name configured about double leads
  · rintro ⟨notSingle, notDouble⟩
    exact leads_to_account base settings call name configured about notSingle notDouble

def loopbackBase : Base := Base.loopback 1 (by decide)

theorem account_address_plain :
    ∃ address, parse? ((Call.deleteUser "a/b").draft
        (Settings.ofBasePath loopbackBase.text)).request.url = some address ∧
      LeadsTo loopbackBase "a/b" address :=
  (account_address_iff loopbackBase 0 (Settings.ofBasePath loopbackBase.text)
    (.deleteUser "a/b") "a/b" (by simp) rfl).mpr ⟨by decide, by decide⟩

/-- The call to delete an account named by two dots goes to the root. -/
theorem account_address_double_dot :
    ¬ ∃ address, parse? ((Call.deleteUser "..").draft
        (Settings.ofBasePath loopbackBase.text)).request.url = some address ∧
      LeadsTo loopbackBase ".." address := by
  have configured : (Settings.ofBasePath loopbackBase.text).basePath = loopbackBase.text := by
    simpa using loopbackBase.settings 0
  exact double_dot_astray loopbackBase _ (.deleteUser "..") ".." configured rfl rfl

end Segments

end Accounts.Client
