import Accounts.Proofs.Percent
import Accounts.Proofs.Text.Split
import Accounts.Url.Basic

/-!
Addresses that are put together from an authority and segments. When no character of a segment
means anything but itself, a parser finds the segments again as they were put in, unless one of
them is made of dots.
-/

namespace Accounts.Url

open Accounts.Text

/-- Whether a character means itself in a segment and ends none. -/
def isPlain (character : Char) : Bool :=
  !escapesInPath character && character != '/' && character != '\\'

def isDots (segment : List Char) : Bool := isSingleDot segment || isDoubleDot segment

theorem plain_visible (character : Char) (plain : isPlain character = true) :
    0x20 < character.toNat ∧ character.toNat < 0x7F ∧ startsTail character = false ∧
      SchemeKind.isSlash .common character = false := by
  simp only [isPlain, escapesInPath, escapesInFragment, isAlwaysEscaped, Bool.and_eq_true,
    Bool.not_eq_true', Bool.or_eq_false_iff, decide_eq_false_iff_not, bne_iff_ne, ne_eq] at plain
  obtain ⟨⟨⟨⟨⟨low, high⟩, spaced⟩, marked⟩, slash⟩, backslash⟩ := plain
  have notSpace : character ≠ ' ' := by
    rintro rfl
    simp at spaced
  have notTail : character ≠ '?' ∧ character ≠ '#' := by
    constructor <;>
    · rintro rfl
      simp at marked
  have above : character.toNat ≠ 0x20 := by
    intro same
    exact notSpace (Char.toNat_inj.mp same)
  refine ⟨by omega, by omega, ?_, ?_⟩
  · simp [startsTail, notTail]
  · simp [SchemeKind.isSlash, slash, backslash]

theorem escapeAll_plain (escapes : Char → Bool) (characters : List Char)
    (plain : ∀ character ∈ characters, escapes character = false) :
    escapeAll escapes characters = characters := by
  induction characters with
  | nil => rfl
  | cons character rest ih =>
    have here := plain character (by simp)
    have later := ih fun other member => plain other (List.mem_cons_of_mem character member)
    rw [escapeAll, List.flatMap_cons, ← escapeAll, later]
    simp [escapeCharacter, here]

theorem plain_escape (segment : List Char)
    (plain : ∀ character ∈ segment, isPlain character = true) :
    escapeAll escapesInPath segment = segment := by
  apply escapeAll_plain
  intro character member
  have whole := plain character member
  simp only [isPlain, Bool.and_eq_true, Bool.not_eq_true'] at whole
  exact whole.1.1

/-! Segments without dots stay as they are. -/
section Resolving

theorem resolve_plain (before segments rest : List (List Char))
    (plain : ∀ segment ∈ segments, ∀ character ∈ segment, isPlain character = true)
    (noDots : ∀ segment ∈ segments, isDots segment = false) :
    resolve .common before (segments ++ rest) = resolve .common (segments.reverse ++ before) rest := by
  induction segments generalizing before with
  | nil => rfl
  | cons segment later ih =>
    have here := noDots segment (by simp)
    simp only [isDots, Bool.or_eq_false_iff] at here
    have escaped := plain_escape segment (plain segment (by simp))
    have tail := ih (segment :: before)
      (fun other member => plain other (List.mem_cons_of_mem segment member))
      (fun other member => noDots other (List.mem_cons_of_mem segment member))
    simp only [List.cons_append, resolve, here, escaped]
    simpa using tail

theorem readSegments_plain (first : List Char) (later : List (List Char))
    (plain : ∀ segment ∈ first :: later, ∀ character ∈ segment, isPlain character = true) :
    readSegments .common (first ++ later.flatMap ('/' :: ·)) =
      resolve .common [] (first :: later) := by
  have bare : ∀ segment ∈ first :: later, ∀ character ∈ segment,
      SchemeKind.isSlash .common character = false := by
    intro segment member character inside
    exact (plain_visible character (plain segment member character inside)).2.2.2
  rw [readSegments, splitOn_pieces (SchemeKind.isSlash .common) '/' (by decide) first later bare]

end Resolving

/-! Reading an address whose parts are at hand. -/
section Reading

def isBreak (character : Char) : Bool := "\t\n\r".toList.contains character

def withoutBreaks (characters : List Char) : List Char :=
  characters.filter fun character => !isBreak character

theorem withoutBreaks_visible (characters : List Char)
    (visible : ∀ character ∈ characters, 0x20 < character.toNat) :
    withoutBreaks characters = characters := by
  apply List.filter_eq_self.mpr
  intro character member
  have above := visible character member
  simp only [isBreak, Bool.not_eq_true', ← Bool.not_eq_true]
  intro found
  have listed : character = '\t' ∨ character = '\n' ∨ character = '\r' := by simpa using found
  rcases listed with same | same | same <;> rw [same] at above <;> exact absurd above (by decide)

theorem tidy_visible (first : Char) (middle back : List Char) (begins : 0x20 < first.toNat)
    (visible : ∀ character ∈ back, 0x20 < character.toNat) (nonempty : back ≠ []) :
    tidy (first :: middle ++ back) = withoutBreaks (first :: middle ++ back) := by
  obtain ⟨init, last, rfl⟩ := (List.eq_nil_or_concat back).resolve_left nonempty
  have ends := visible last (by simp)
  have front : ¬ first.toNat ≤ 0x20 := by omega
  have behind : ¬ last.toNat ≤ 0x20 := by omega
  simp [tidy, dropRight, withoutBreaks, isBreak, front, behind]

theorem splitScheme?_http (rest : List Char) :
    splitScheme? ("http:".toList ++ rest) = some ("http".toList, rest) := by
  have name : ("http:".toList ++ rest) = 'h' :: 't' :: 't' :: 'p' :: ':' :: rest := rfl
  rw [name]
  simp [splitScheme?, isSchemeCharacter]

def endsAuthority (character : Char) : Bool :=
  SchemeKind.isSlash .common character || startsTail character

def wholeAuthority? (scheme : Scheme) (authority : List Char) : Option Authority :=
  match readAuthority? scheme authority with
  | some (found, []) => some found
  | _ => none

theorem readCommon?_parts (scheme : Scheme) (authority path tail : List Char)
    (bare : ∀ character ∈ authority, endsAuthority character = false)
    (clear : ∀ character ∈ path, startsTail character = false)
    (starts : ∀ character, tail.head? = some character → startsTail character = true) :
    readCommon? scheme (authority ++ '/' :: path ++ tail) =
      (wholeAuthority? scheme authority).map fun found =>
        Address.withTail
          ⟨scheme, some found, .segments (readSegments .common path), none, none⟩ tail := by
  have body := span_append (fun character => !startsTail character)
    (authority ++ '/' :: path) tail
    (by
      intro character member
      rcases List.mem_append.mp member with inside | inside
      · have split := bare character inside
        simp only [endsAuthority, Bool.or_eq_false_iff] at split
        simp [split.2]
      · rcases List.mem_cons.mp inside with same | inside
        · rw [same]; decide
        · simp [clear character inside])
    (by
      intro character first
      simp [starts character first])
  have parts := span_append (fun character => !SchemeKind.isSlash .common character)
    authority ('/' :: path)
    (by
      intro character member
      have split := bare character member
      simp only [endsAuthority, Bool.or_eq_false_iff] at split
      simp [split.1])
    (by
      intro character first
      cases first
      decide)
  have slash : dropSlash .common ('/' :: path) = path := by
    simp [dropSlash, SchemeKind.isSlash]
  simp only [readCommon?, wholeAuthority?, splitTail, splitPath, body, parts, slash]
  rcases readAuthority? scheme authority with _ | ⟨found, _ | ⟨_, _⟩⟩ <;> rfl

theorem readAuthority?_nil (scheme : Scheme) (web : scheme.kind = .common) :
    readAuthority? scheme [] = none := by
  have decoded : ofBytes? (Percent.decode (bytes (String.ofList []))) = some "" := by
    simpa [Percent.decode, bytes] using ofBytes?_bytes ""
  have host : readHost? scheme.kind [] = none := by
    simp [readHost?, web, Host.parse?, readDomain?, decoded, Domain.toAscii?, Domain.isUnmarked,
      Domain.asciiMark, splitOn]
  simp [readAuthority?, splitUser, splitNumber, host]

theorem withoutBreaks_append (left right : List Char) :
    withoutBreaks (left ++ right) = withoutBreaks left ++ withoutBreaks right :=
  List.filter_append left right

theorem parse?_http (authority rest : List Char)
    (visible : ∀ character ∈ rest, 0x20 < character.toNat) (nonempty : rest ≠ []) :
    parse? (String.ofList ("http://".toList ++ authority ++ rest)) =
      readCommon? "http".toList
        ((withoutBreaks authority ++ rest).dropWhile (SchemeKind.isSlash .common)) := by
  have tidied : tidy ("http://".toList ++ authority ++ rest) =
      "http:".toList ++ ('/' :: '/' :: (withoutBreaks authority ++ rest)) := by
    have cut := tidy_visible 'h' ("ttp://".toList ++ authority) rest (by decide) visible nonempty
    have front : withoutBreaks "http://".toList = "http://".toList := by decide
    calc tidy ("http://".toList ++ authority ++ rest)
        = withoutBreaks ("http://".toList ++ authority ++ rest) := cut
      _ = "http://".toList ++ withoutBreaks authority ++ rest := by
          rw [withoutBreaks_append, withoutBreaks_append, front,
            withoutBreaks_visible rest visible]
      _ = "http:".toList ++ ('/' :: '/' :: (withoutBreaks authority ++ rest)) := by
          rw [List.append_assoc]; rfl
  have web : Scheme.kind "http".toList = .common := by decide
  rw [parse?, String.toList_ofList, tidied, splitScheme?_http]
  simp only [web]
  simp [SchemeKind.isSlash]

theorem dropWhile_authority (authority rest : List Char) (nonempty : authority ≠ [])
    (bare : ∀ character ∈ authority, endsAuthority character = false) :
    (authority ++ rest).dropWhile (SchemeKind.isSlash .common) = authority ++ rest := by
  obtain ⟨first, later, rfl⟩ := List.exists_cons_of_ne_nil nonempty
  have stops := bare first (by simp)
  simp only [endsAuthority, Bool.or_eq_false_iff] at stops
  simp [stops.1]

theorem withoutBreaks_bare (authority : List Char)
    (bare : ∀ character ∈ authority, endsAuthority character = false) :
    ∀ character ∈ withoutBreaks authority, endsAuthority character = false :=
  fun character member => bare character (List.mem_filter.mp member).1

end Reading

/-! Texts that stand for an authority in front of a path. -/
section Authorities

/-- A text that holds nothing that ends an authority and that a parser takes for one. -/
structure IsAuthority (text : String) : Prop where
  bare : ∀ character ∈ text.toList, endsAuthority character = false
  accepted : (parse? ("http://" ++ text ++ "/")).isSome

theorem reads_nonempty (characters : List Char) (found : Authority)
    (read : wholeAuthority? "http".toList characters = some found) : characters ≠ [] := by
  rintro rfl
  rw [wholeAuthority?, readAuthority?_nil "http".toList (by decide)] at read
  cases read

theorem parse?_bare (text : String) : parse? ("http://" ++ text ++ "/") =
    readCommon? "http".toList
      ((withoutBreaks text.toList ++ ['/']).dropWhile (SchemeKind.isSlash .common)) := by
  have slash : ∀ character ∈ ['/'], 0x20 < character.toNat := by decide
  have whole : "http://" ++ text ++ "/" =
      String.ofList ("http://".toList ++ text.toList ++ ['/']) := by
    apply String.toList_injective
    simp
  rw [whole, parse?_http text.toList ['/'] slash (by simp)]

theorem parse?_authority (text : String)
    (bare : ∀ character ∈ text.toList, endsAuthority character = false)
    (named : withoutBreaks text.toList ≠ []) :
    (parse? ("http://" ++ text ++ "/")).isSome =
      (wholeAuthority? "http".toList (withoutBreaks text.toList)).isSome := by
  have read := readCommon?_parts "http".toList (withoutBreaks text.toList) [] []
    (withoutBreaks_bare _ bare) (by simp) (by simp)
  rw [List.append_nil] at read
  rw [parse?_bare, dropWhile_authority _ _ named (withoutBreaks_bare _ bare), read,
    Option.isSome_map]

theorem authority_reads (text : String) (valid : IsAuthority text) :
    ∃ found, wholeAuthority? "http".toList (withoutBreaks text.toList) = some found := by
  have accepted := valid.accepted
  by_cases empty : withoutBreaks text.toList = []
  · -- The slash that follows is dropped as well, and nothing is left to be an authority.
    have none : readCommon? "http".toList [] = none := by
      simp only [readCommon?, splitTail, splitPath, List.takeWhile_nil,
        readAuthority?_nil "http".toList (by decide)]
    have dropped : (withoutBreaks text.toList ++ ['/']).dropWhile (SchemeKind.isSlash .common) = [] := by
      simp [empty, SchemeKind.isSlash]
    rw [parse?_bare, dropped, none] at accepted
    exact absurd accepted (by simp)
  · rw [parse?_authority text valid.bare empty] at accepted
    exact Option.isSome_iff_exists.mp accepted

theorem isAuthority_of_reads (text : String) (found : Authority)
    (bare : ∀ character ∈ text.toList, endsAuthority character = false)
    (read : wholeAuthority? "http".toList (withoutBreaks text.toList) = some found) :
    IsAuthority text := by
  refine ⟨bare, ?_⟩
  rw [parse?_authority text bare (reads_nonempty _ found read), read]
  rfl

/-- An address with plain segments has these segments, but for what dots make of them. -/
theorem parse?_segments (text : String) (valid : IsAuthority text) (found : Authority)
    (read : wholeAuthority? "http".toList (withoutBreaks text.toList) = some found)
    (segments : List (List Char)) (tail : List Char) (nonempty : segments ≠ [])
    (plain : ∀ segment ∈ segments, ∀ character ∈ segment, isPlain character = true)
    (visible : ∀ character ∈ tail, 0x20 < character.toNat)
    (starts : ∀ character, tail.head? = some character → startsTail character = true) :
    parse? (String.ofList ("http://".toList ++ text.toList ++
        (segments.flatMap ('/' :: ·) ++ tail))) =
      some (Address.withTail
        ⟨"http".toList, some found, .segments (resolve .common [] segments), none, none⟩ tail) := by
  obtain ⟨first, later, rfl⟩ := List.exists_cons_of_ne_nil nonempty
  have inside : ∀ character ∈ first ++ later.flatMap ('/' :: ·),
      character = '/' ∨ isPlain character = true := by
    intro character member
    rcases List.mem_append.mp member with here | there
    · exact Or.inr (plain first (by simp) character here)
    · obtain ⟨segment, listed, within⟩ := List.mem_flatMap.mp there
      rcases List.mem_cons.mp within with slash | within
      · exact Or.inl slash
      · exact Or.inr (plain segment (List.mem_cons_of_mem first listed) character within)
  -- Nothing that follows the authority is dropped, and nothing in it begins the tail too early.
  have shown : ∀ character ∈ '/' :: (first ++ later.flatMap ('/' :: ·)) ++ tail,
      0x20 < character.toNat := by
    intro character member
    rcases List.mem_append.mp member with path | rest
    · rcases List.mem_cons.mp path with slash | path
      · rw [slash]; decide
      · rcases inside character path with slash | clear
        · rw [slash]; decide
        · exact (plain_visible character clear).1
    · exact visible character rest
  have clear : ∀ character ∈ first ++ later.flatMap ('/' :: ·), startsTail character = false := by
    intro character member
    rcases inside character member with slash | clear
    · rw [slash]; decide
    · exact (plain_visible character clear).2.2.1
  have bare := withoutBreaks_bare text.toList valid.bare
  have named := reads_nonempty _ found read
  rw [List.flatMap_cons, List.cons_append, parse?_http _ _ shown (by simp),
    dropWhile_authority _ _ named bare, ← List.append_assoc,
    readCommon?_parts _ _ _ _ bare clear starts, read, readSegments_plain first later plain]
  rfl

end Authorities

end Accounts.Url
