import Accounts.Proofs.Decimal
import Accounts.Proofs.Percent
import Accounts.Proofs.Text.Split
import Accounts.Url.Basic

/-!
Web addresses are written visibly. Whatever text an address was read from, its host and what is
asked for there are made of visible ASCII characters, so that neither holds a blank, a line break or
another control. A web address always has a host.
-/

namespace Accounts.Url

open Accounts.Text

def isShown (character : Char) : Bool :=
  decide (0x20 < character.toNat) && decide (character.toNat < 0x7F)

theorem isShown_iff (character : Char) :
    isShown character = true ↔ 0x20 < character.toNat ∧ character.toNat < 0x7F := by
  rw [isShown, Bool.and_eq_true, decide_eq_true_iff, decide_eq_true_iff]

/-! Hosts. -/
section Hosts

theorem digit_shown (character : Char) (digit : character.isDigit = true) :
    isShown character = true := by
  have range := Decimal.digit_range character digit
  rw [isShown_iff]
  omega

theorem digits16_shown (value : Nat) :
    ∀ character ∈ Nat.toDigits 16 value, isShown character = true := by
  have table : ∀ digit < 16, isShown (Nat.digitChar digit) = true := by decide
  induction value using Nat.strongRecOn with
  | ind value ih =>
    rw [Nat.toDigits_eq_if (by decide)]
    split
    · rename_i small
      simpa using table value small
    · intro character member
      rcases List.mem_append.mp member with before | last
      · exact ih (value / 16) (by omega) character before
      · rw [List.mem_singleton.mp last]
        exact table (value % 16) (Nat.mod_lt _ (by decide))

theorem forall_intercalate {Item : Type} (holds : Item → Prop) (separator : Item)
    (divides : holds separator) (pieces : List (List Item))
    (each : ∀ piece ∈ pieces, ∀ item ∈ piece, holds item) :
    ∀ item ∈ List.intercalate [separator] pieces, holds item := by
  cases pieces with
  | nil => simp
  | cons first later =>
    intro item member
    rw [intercalate_pieces] at member
    rcases List.mem_append.mp member with here | there
    · exact each first List.mem_cons_self item here
    · obtain ⟨piece, listed, inside⟩ := List.mem_flatMap.mp there
      rcases List.mem_cons.mp inside with same | within
      · rw [same]
        exact divides
      · exact each piece (List.mem_cons_of_mem first listed) item within

theorem writePieces_shown (pieces : List Nat) :
    ∀ character ∈ writePieces pieces, isShown character = true := by
  apply forall_intercalate (fun character => isShown character = true) ':' (by decide)
  intro piece member
  obtain ⟨value, _, rfl⟩ := List.mem_map.mp member
  exact digits16_shown value

theorem writeV6_shown (pieces : List Nat) :
    ∀ character ∈ writeV6 pieces, isShown character = true := by
  have gap : ∀ character ∈ "::".toList, isShown character = true := by decide
  simp only [writeV6]
  split
  · exact writePieces_shown pieces
  · rw [List.forall_mem_append, List.forall_mem_append]
    exact ⟨⟨writePieces_shown _, gap⟩, writePieces_shown _⟩

theorem dotted_shown (values : List Nat) :
    ∀ character ∈ List.intercalate ['.'] (values.map Decimal.digits),
      isShown character = true := by
  apply forall_intercalate (fun character => isShown character = true) '.' (by decide)
  intro piece member
  obtain ⟨value, _, rfl⟩ := List.mem_map.mp member
  exact fun character inside => digit_shown character (Decimal.digits_digit value character inside)

theorem allowed_shown (character : Char) (allowed : isForbiddenInDomain character = false) :
    isShown character = true := by
  simp only [isForbiddenInDomain, Bool.or_eq_false_iff, decide_eq_false_iff_not] at allowed
  obtain ⟨⟨⟨host, low⟩, high⟩, _⟩ := allowed
  have unlike : character.toNat ≠ 0x20 := by
    intro same
    have blank : character = ' ' := Char.toNat_inj.mp same
    rw [blank] at host
    exact absurd host (by decide)
  rw [isShown_iff]
  omega

theorem readDomain?_shown (characters : List Char) (host : Host)
    (read : readDomain? characters = some host) :
    ∀ character ∈ host.write, isShown character = true := by
  unfold readDomain? at read
  split at read
  · cases read
  · split at read
    · cases read
    · rename_i name _
      split at read
      · cases read
      · rename_i allowed
        split at read
        · obtain ⟨address, _, rfl⟩ := Option.map_eq_some_iff.mp read
          exact dotted_shown _
        · cases read
          intro character member
          rw [Bool.or_eq_true, not_or, Bool.not_eq_true, Bool.not_eq_true, List.any_eq_false]
            at allowed
          exact allowed_shown character (by simpa using allowed.2 character member)

theorem parse?_shown (characters : List Char) (host : Host)
    (read : Host.parse? characters = some host) :
    ∀ character ∈ host.write, isShown character = true := by
  unfold Host.parse? at read
  split at read
  · unfold readBrackets? at read
    rw [Option.ite_none_right_eq_some] at read
    obtain ⟨pieces, _, rfl⟩ := Option.map_eq_some_iff.mp read.2
    rw [Host.write, List.cons_append, List.forall_mem_cons, List.forall_mem_append]
    exact ⟨by decide, writeV6_shown pieces, by decide⟩
  · exact readDomain?_shown characters host read

theorem writeHost_shown (authority : Authority)
    (host : ∀ host, authority.host = some host → ∀ character ∈ host.write,
      isShown character = true) :
    ∀ character ∈ authority.writeHost, isShown character = true := by
  rw [Authority.writeHost, List.forall_mem_append]
  constructor
  · split
    · simp
    · rename_i found named
      exact host found named
  · split
    · simp
    · rename_i number _
      rw [List.forall_mem_cons]
      exact ⟨by decide, fun character member =>
        digit_shown character (Decimal.digits_digit number character member)⟩

end Hosts

/-! What is asked for. -/
section Targets

theorem escapeAll_shown (escapes : Char → Bool)
    (keeps : ∀ character, escapes character = false → isShown character = true)
    (characters : List Char) :
    ∀ character ∈ escapeAll escapes characters, isShown character = true := by
  have table := forall_byte
    (fun byte => ∀ character ∈ Percent.escape byte, isShown character = true) (by decide +kernel)
  intro character member
  obtain ⟨original, _, inside⟩ := List.mem_flatMap.mp member
  unfold escapeCharacter at inside
  split at inside
  · obtain ⟨byte, _, among⟩ := List.mem_flatMap.mp inside
    exact table byte character among
  · rename_i kept
    rw [List.mem_singleton.mp inside]
    exact keeps original (by simpa using kept)

theorem unescaped_shown (character : Char) (plain : isAlwaysEscaped character = false)
    (unlike : character ≠ ' ') : isShown character = true := by
  have hidden : character.toNat ≠ 0x20 := fun same => unlike (Char.toNat_inj.mp same)
  simp only [isAlwaysEscaped, Bool.or_eq_false_iff, decide_eq_false_iff_not] at plain
  rw [isShown_iff]
  omega

theorem path_shown (character : Char) (kept : escapesInPath character = false) :
    isShown character = true := by
  simp only [escapesInPath, escapesInFragment, Bool.or_eq_false_iff] at kept
  apply unescaped_shown character kept.1.1
  rintro rfl
  exact absurd kept.1.2 (by decide)

theorem query_shown (isCommon : Bool) (character : Char)
    (kept : escapesInQuery isCommon character = false) : isShown character = true := by
  simp only [escapesInQuery, Bool.or_eq_false_iff] at kept
  apply unescaped_shown character kept.1.1
  rintro rfl
  exact absurd kept.1.2 (by decide)

theorem mem_leave (before : List (List Char)) : ∀ segment ∈ leave before, segment ∈ before := by
  intro segment member
  unfold leave at member
  split at member
  · exact member
  · split at member
    · exact member
    · exact List.mem_cons_of_mem _ member

theorem resolve_shown (before segments : List (List Char))
    (shown : ∀ segment ∈ before, ∀ character ∈ segment, isShown character = true) :
    ∀ segment ∈ resolve .common before segments, ∀ character ∈ segment,
      isShown character = true := by
  induction segments generalizing before with
  | nil => exact fun segment member => shown segment (List.mem_reverse.mp member)
  | cons segment rest ih =>
    have ending (others : List (List Char))
        (kept : ∀ other ∈ others, ∀ character ∈ other, isShown character = true) :
        ∀ other ∈ (if rest.isEmpty then [[]] else []) ++ others, ∀ character ∈ other,
          isShown character = true := by
      rw [List.forall_mem_append]
      refine ⟨?_, kept⟩
      split <;> simp
    have file : (SchemeKind.common == SchemeKind.file) = false := by decide
    simp only [resolve, file, Bool.false_and, Bool.false_eq_true, if_false]
    split
    · exact ih _ (ending _ fun other member => shown other (mem_leave before other member))
    · split
      · exact ih _ (ending _ shown)
      · apply ih
        rw [List.forall_mem_cons]
        exact ⟨escapeAll_shown escapesInPath path_shown segment, shown⟩

theorem readQuery_shown (kind : SchemeKind) (characters query : List Char)
    (read : readQuery kind characters = some query) :
    ∀ character ∈ query, isShown character = true := by
  unfold readQuery at read
  split at read
  · cases read
    exact escapeAll_shown _ (query_shown _) _
  · cases read

theorem writeTarget_shown (address : Address) (segments : List (List Char))
    (path : address.path = .segments segments)
    (shown : ∀ segment ∈ segments, ∀ character ∈ segment, isShown character = true)
    (query : ∀ query, address.query = some query → ∀ character ∈ query,
      isShown character = true) :
    ∀ character ∈ address.writeTarget, isShown character = true := by
  rw [Address.writeTarget, path, List.forall_mem_append]
  constructor
  · intro character member
    obtain ⟨segment, listed, inside⟩ := List.mem_flatMap.mp member
    rcases List.mem_cons.mp inside with slash | within
    · rw [slash]
      decide
    · exact shown segment listed character within
  · split
    · simp
    · rename_i found given
      rw [List.forall_mem_cons]
      exact ⟨by decide, query found given⟩

end Targets

/-! Web addresses. -/
section Web

/-- What every web address has: a host, and nothing hidden in it or in what is asked for. -/
structure IsShown (address : Address) (authority : Authority) : Prop where
  owned : address.authority = some authority
  hosted : authority.host.isSome = true
  host : ∀ character ∈ authority.writeHost, isShown character = true
  target : ∀ character ∈ address.writeTarget, isShown character = true

theorem readAuthority?_shown (scheme : Scheme) (common : scheme.kind = .common)
    (characters rest : List Char) (authority : Authority)
    (read : readAuthority? scheme characters = some (authority, rest)) :
    authority.host.isSome = true ∧ ∀ character ∈ authority.writeHost, isShown character = true := by
  simp only [readAuthority?, common] at read
  split at read
  · rename_i host _ _ readsHost _
    obtain ⟨found, parsed, rfl⟩ := Option.map_eq_some_iff.mp readsHost
    rw [Option.ite_none_left_eq_some] at read
    cases read.2
    refine ⟨rfl, writeHost_shown _ ?_⟩
    rintro _ ⟨rfl⟩
    exact parse?_shown _ found parsed
  · cases read

theorem readCommon?_shown (scheme : Scheme) (common : scheme.kind = .common)
    (characters : List Char) (address : Address)
    (read : readCommon? scheme characters = some address) :
    ∃ authority, IsShown address authority := by
  simp only [readCommon?] at read
  split at read
  · rename_i authority reads
    cases read
    obtain ⟨hosted, host⟩ := readAuthority?_shown scheme common _ [] authority reads
    refine ⟨authority, rfl, hosted, host, ?_⟩
    exact writeTarget_shown _ _ rfl (resolve_shown [] _ (by simp)) fun query given =>
      readQuery_shown _ _ query given
  · cases read

theorem isWeb_common (scheme : Scheme) (web : scheme.isWeb = true) : scheme.kind = .common := by
  rw [Scheme.isWeb, Bool.or_eq_true, beq_iff_eq, beq_iff_eq] at web
  rcases web with rfl | rfl <;> decide

theorem readCommon?_scheme (scheme : Scheme) (characters : List Char) (address : Address)
    (read : readCommon? scheme characters = some address) : address.scheme = scheme := by
  simp only [readCommon?] at read
  split at read
  · cases read
    rfl
  · cases read

theorem readFile?_scheme (scheme : Scheme) (characters : List Char) (address : Address)
    (read : readFile? scheme characters = some address) : address.scheme = scheme := by
  obtain ⟨parts, _, rfl⟩ := Option.map_eq_some_iff.mp read
  rfl

theorem readOther?_scheme (scheme : Scheme) (characters : List Char) (address : Address)
    (read : readOther? scheme characters = some address) : address.scheme = scheme := by
  unfold readOther? at read
  split at read
  · dsimp only at read
    split at read
    · cases read
    · rw [Option.ite_none_left_eq_some] at read
      cases read.2
      rfl
  · cases read
    rfl

theorem parse?_common (text : String) (address : Address) (read : parse? text = some address)
    (web : address.scheme.isWeb = true) :
    ∃ characters, readCommon? address.scheme characters = some address := by
  unfold parse? at read
  split at read
  · cases read
  · rename_i scheme rest _
    split at read
    · rw [readCommon?_scheme _ _ _ read]
      exact ⟨_, read⟩
    · rename_i file
      rw [readFile?_scheme _ _ _ read] at web
      exact absurd (isWeb_common scheme web) (by rw [file]; decide)
    · rename_i other
      rw [readOther?_scheme _ _ _ read] at web
      exact absurd (isWeb_common scheme web) (by rw [other]; decide)

theorem parse?_web (text : String) (address : Address) (read : parse? text = some address)
    (web : address.scheme.isWeb = true) : ∃ authority, IsShown address authority := by
  obtain ⟨characters, common⟩ := parse?_common text address read web
  exact readCommon?_shown address.scheme (isWeb_common _ web) characters address common

end Web

end Accounts.Url
