import Accounts.Client.Call
import Accounts.Proofs.Form
import Accounts.Proofs.Text.Trimming
import Accounts.Proofs.Url.Dots
import Accounts.Proofs.Url.Loopback

/-!
The addresses of calls. Below a base address every call has plain segments of its own, with a name
as one of them however it is spelled, and a query if it has parameters.
-/

namespace Accounts.Client

open Accounts.Text Accounts.Url

/-! Base addresses. -/
section Bases

def isUnreserved (character : Char) : Bool :=
  character.isAlphanum || "-._~".toList.contains character

/-- A segment of which nothing is escaped and which leads nowhere else. -/
structure IsBaseSegment (segment : String) : Prop where
  nonempty : segment ≠ ""
  unreserved : ∀ character ∈ segment.toList, isUnreserved character = true
  notSingle : segment ≠ "."
  notDouble : segment ≠ ".."

/-- A web address below which a service answers. -/
structure Base where
  authority : String
  segments : List String
  valid : IsAuthority authority
  plain : ∀ segment ∈ segments, IsBaseSegment segment

def Base.characters (base : Base) : List Char :=
  "http://".toList ++ base.authority.toList ++
    base.segments.flatMap fun segment => '/' :: segment.toList

theorem Base.characters_eq (base : Base) : base.characters =
    "http://".toList ++ base.authority.toList ++
      base.segments.flatMap fun segment => '/' :: segment.toList := rfl

def Base.text (base : Base) : String := String.ofList base.characters

theorem unreserved_ascii (character : Char) (unreserved : isUnreserved character = true) :
    character.toNat < 0x80 :=
  marked_ascii "-._~".toList (by decide) character unreserved

theorem unreserved_plain (character : Char) (unreserved : isUnreserved character = true) :
    isPlain character = true ∧ character ≠ '%' := by
  have table := forall_ascii (fun character => isUnreserved character = true →
    isPlain character = true ∧ character ≠ '%') (by decide +kernel)
  exact table character (unreserved_ascii character unreserved) unreserved

theorem base_segment_dots (segment : String) (valid : IsBaseSegment segment) :
    isDots segment.toList = false := by
  have ascii : ∀ character ∈ segment.toList, character.toNat < 0x80 :=
    fun character member => unreserved_ascii character (valid.unreserved character member)
  have written : asciiBytes segment.toList = bytes segment := by
    rw [← bytes_ascii _ ascii, String.ofList_toList]
  apply isDots_of_decoded segment.toList segment _ valid.notSingle valid.notDouble
  rw [← written]
  apply Percent.decode_plain
  intro character member
  exact ⟨ascii character member, (unreserved_plain character (valid.unreserved character member)).2⟩

theorem joined_segments (front : List Char) (names : List String) (segments : List (List Char))
    (tail : List Char) :
    front ++ names.flatMap (fun name => '/' :: name.toList) ++
        (segments.flatMap ('/' :: ·) ++ tail) =
      front ++ ((names.map String.toList ++ segments).flatMap ('/' :: ·) ++ tail) := by
  rw [List.flatMap_append, List.flatMap_map, List.append_assoc, List.append_assoc]

/-- What a parser makes of plain segments, and what may follow them, below a base address. -/
theorem parse?_below (base : Base) (segments : List (List Char)) (tail : List Char)
    (nonempty : segments ≠ [])
    (plain : ∀ segment ∈ segments, ∀ character ∈ segment, isPlain character = true)
    (visible : ∀ character ∈ tail, 0x20 < character.toNat)
    (starts : ∀ character, tail.head? = some character → startsTail character = true) :
    ∃ found, wholeAuthority? "http".toList (withoutBreaks base.authority.toList) = some found ∧
      parse? (String.ofList (base.characters ++ (segments.flatMap ('/' :: ·) ++ tail))) =
        some (Address.withTail
          ⟨"http".toList, some found,
            .segments (resolve .common (base.segments.map String.toList).reverse segments),
            none, none⟩ tail) := by
  obtain ⟨found, read⟩ := authority_reads base.authority base.valid
  refine ⟨found, read, ?_⟩
  have basePlain : ∀ segment ∈ base.segments.map String.toList,
      ∀ character ∈ segment, isPlain character = true := by
    intro segment member character inside
    obtain ⟨name, listed, rfl⟩ := List.mem_map.mp member
    exact (unreserved_plain character ((base.plain name listed).unreserved character inside)).1
  have baseDots : ∀ segment ∈ base.segments.map String.toList, isDots segment = false := by
    intro segment member
    obtain ⟨name, listed, rfl⟩ := List.mem_map.mp member
    exact base_segment_dots name (base.plain name listed)
  have whole := parse?_segments base.authority base.valid found read
    (base.segments.map String.toList ++ segments) tail (by simp [nonempty])
    (by
      intro segment member
      rcases List.mem_append.mp member with here | there
      · exact basePlain segment here
      · exact plain segment there)
    visible starts
  -- The segments of the base are resolved away; only those of the call can still hold dots.
  rw [resolve_plain [] _ segments basePlain baseDots, List.append_nil] at whole
  rw [base.characters_eq, joined_segments]
  exact whole

def Base.loopback (number : Nat) (small : number ≤ 65535) : Base :=
  ⟨Url.loopback number, [], isAuthority_loopback number small, by simp⟩

theorem Base.loopback_text (number : Nat) (small : number ≤ 65535) :
    (Base.loopback number small).text = "http://127.0.0.1:" ++ Decimal.write number := by
  apply String.toList_injective
  have authority : (Base.loopback number small).authority.toList =
      Url.loopbackHost ++ ':' :: Decimal.digits number := String.toList_ofList
  have segments : (Base.loopback number small).segments = [] := rfl
  have front : "http://127.0.0.1:".toList = "http://".toList ++ Url.loopbackHost ++ [':'] := by
    decide
  rw [Base.text, String.toList_ofList, Base.characters_eq, authority, segments,
    String.toList_append, front, Decimal.write, String.toList_ofList]
  simp

end Bases

/-! What is kept of a base address as it was given. -/
section Settings

theorem getLast?_behind {Item : Type} (front back : List Item) (nonempty : back ≠ []) :
    (front ++ back).getLast? = back.getLast? := by
  rw [List.getLast?_append, Option.or_of_isSome (by simpa using nonempty)]

theorem Base.characters_last (base : Base) (character : Char)
    (last : base.characters.getLast? = some character) : character ≠ '/' := by
  obtain ⟨found, read⟩ := authority_reads base.authority base.valid
  have named : base.authority.toList ≠ [] := by
    intro empty
    apply reads_nonempty _ found read
    rw [empty]
    rfl
  rw [base.characters_eq] at last
  -- The last character is one of the last segment or, without segments, of the authority.
  rcases List.eq_nil_or_concat base.segments with empty | ⟨init, segment, whole⟩
  · rw [empty, List.flatMap_nil, List.append_nil,
      getLast?_behind _ _ named] at last
    have ends := base.valid.bare character (List.mem_of_getLast? last)
    rintro rfl
    exact absurd ends (by decide)
  · have valid := base.plain segment (by simp [whole])
    have nonempty : segment.toList ≠ [] := by
      simpa using valid.nonempty
    rw [whole, List.concat_eq_append, List.flatMap_append, List.flatMap_singleton,
      ← List.append_assoc, getLast?_behind _ _ (List.cons_ne_nil _ _),
      List.getLast?_cons_of_ne_nil nonempty] at last
    have unreserved := valid.unreserved character (List.mem_of_getLast? last)
    rintro rfl
    exact absurd unreserved (by decide)

/-- Slashes at the end of a base address make no difference. -/
theorem Base.settings (base : Base) (slashes : Nat) :
    (Settings.ofBasePath (base.text ++ String.ofList (List.replicate slashes '/'))).basePath =
      base.text := by
  have kept := dropRight_append (· == '/') base.characters (List.replicate slashes '/')
    (fun character last => by simpa using base.characters_last character last)
    (fun character member => by simp [List.eq_of_mem_replicate member])
  rw [Settings.ofBasePath, trimRight, String.toList_append, Base.text, String.toList_ofList,
    String.toList_ofList, kept]

end Settings

/-! The parts of an address that a call adds to the base. -/
section Calls

/-- The name of the account that a call is about, if it passes one in its path. -/
def Call.account? : Call → Option String
  | .getUser name | .deleteUser name | .updateUser name _ => some name
  | _ => none

theorem encodeSegment_plain (name : String) :
    ∀ character ∈ (Percent.encodeSegment name).toList, isPlain character = true :=
  Percent.forall_encodeSegment _ (by decide +kernel) name

theorem encodeSegment_dots (name : String) (notSingle : name ≠ ".") (notDouble : name ≠ "..") :
    isDots (Percent.encodeSegment name).toList = false := by
  apply isDots_of_decoded _ name _ notSingle notDouble
  rw [← Percent.bytes_encodeSegment, Percent.decode_encodeSegment]

theorem accountPath_eq (name : String) :
    Call.accountPath name = "/user/" ++ Percent.encodeSegment name := by
  apply String.toList_injective
  simp [Call.accountPath, PathTemplate.fill, PathTemplate.place, replaceAll, replaceFrom]

def Call.segments : Call → List String
  | .createUser _ => ["user"]
  | .createUsersWithArray _ => ["user", "createWithArray"]
  | .createUsersWithList _ => ["user", "createWithList"]
  | .deleteUser name | .getUser name | .updateUser name _ =>
    ["user", Percent.encodeSegment name]
  | .login _ _ => ["user", "login"]
  | .logout => ["user", "logout"]

def Call.written? (call : Call) : Option (List Char) :=
  match Form.present call.query with
  | [] => none
  | first :: later => some (Form.write (first :: later)).toList

def Call.tail (call : Call) : List Char :=
  match call.written? with
  | none => []
  | some query => '?' :: query

theorem path_segments (call : Call) :
    call.path.toList = (call.segments.map String.toList).flatMap ('/' :: ·) := by
  cases call <;> simp [Call.path, Call.segments, accountPath_eq]

theorem segments_nonempty (call : Call) : call.segments ≠ [] := by
  cases call <;> simp [Call.segments]

def fixedSegments : List String :=
  ["user", "createWithArray", "createWithList", "login", "logout"]

theorem fixed_segments (call : Call) :
    ∀ segment ∈ call.segments, segment ∈ fixedSegments ∨
      ∃ name, call.account? = some name ∧ segment = Percent.encodeSegment name := by
  have fixed : "user" ∈ fixedSegments ∧ "createWithArray" ∈ fixedSegments ∧
      "createWithList" ∈ fixedSegments ∧ "login" ∈ fixedSegments ∧ "logout" ∈ fixedSegments := by
    decide
  intro segment member
  cases call <;>
    simp only [Call.segments, List.mem_cons, List.not_mem_nil, or_false] at member
  case createUser => exact Or.inl (member ▸ fixed.1)
  case deleteUser name | getUser name | updateUser name user =>
    rcases member with rfl | rfl
    · exact Or.inl fixed.1
    · exact Or.inr ⟨name, rfl, rfl⟩
  all_goals
    left
    rcases member with rfl | rfl <;> simp [fixed]

theorem segments_plain (call : Call) :
    ∀ segment ∈ call.segments.map String.toList, ∀ character ∈ segment,
      isPlain character = true := by
  have fixed : ∀ segment ∈ fixedSegments, ∀ character ∈ segment.toList,
      isPlain character = true := by
    decide
  intro segment member
  obtain ⟨written, listed, rfl⟩ := List.mem_map.mp member
  rcases fixed_segments call written listed with known | ⟨name, _, rfl⟩
  · exact fixed written known
  · exact encodeSegment_plain name

theorem path_unmarked (call : Call) : '?' ∉ call.path.toList := by
  rw [path_segments]
  intro member
  obtain ⟨segment, listed, inside⟩ := List.mem_flatMap.mp member
  rcases List.mem_cons.mp inside with slash | within
  · exact absurd slash (by decide)
  · exact absurd (segments_plain call segment listed '?' within) (by decide)

theorem segments_dots (call : Call)
    (named : ∀ name, call.account? = some name → name ≠ "." ∧ name ≠ "..") :
    ∀ segment ∈ call.segments.map String.toList, isDots segment = false := by
  have fixed : ∀ segment ∈ fixedSegments, isDots segment.toList = false := by decide
  intro segment member
  obtain ⟨written, listed, rfl⟩ := List.mem_map.mp member
  rcases fixed_segments call written listed with known | ⟨name, about, rfl⟩
  · exact fixed written known
  · exact encodeSegment_dots name (named name about).1 (named name about).2

theorem resolve_call (before : List (List Char)) (call : Call)
    (named : ∀ name, call.account? = some name → name ≠ "." ∧ name ≠ "..") :
    resolve .common before (call.segments.map String.toList) =
      before.reverse ++ call.segments.map String.toList := by
  have kept := resolve_plain before (call.segments.map String.toList) [] (segments_plain call)
    (segments_dots call named)
  rw [List.append_nil] at kept
  rw [kept, resolve, List.reverse_append, List.reverse_reverse]

theorem tail_starts (call : Call) (character : Char) (first : call.tail.head? = some character) :
    startsTail character = true := by
  unfold Call.tail at first
  split at first
  · cases first
  · cases first
    decide

theorem write_plain (pairs : List Form.Pair) : ∀ character ∈ (Form.write pairs).toList,
    0x20 < character.toNat ∧ character ≠ '#' ∧ escapesInQuery true character = false :=
  Form.forall_write _ (by decide +kernel) pairs

theorem written_plain (call : Call) (query : List Char) (written : call.written? = some query) :
    ∀ character ∈ query,
      0x20 < character.toNat ∧ character ≠ '#' ∧ escapesInQuery true character = false := by
  unfold Call.written? at written
  split at written
  · cases written
  · cases written
    exact write_plain _

theorem Base.characters_plain (base : Base) :
    ∀ character ∈ base.characters, character ≠ '?' := by
  have front : ∀ character ∈ "http://".toList, character ≠ '?' := by decide
  intro character member
  rw [base.characters_eq] at member
  rcases List.mem_append.mp member with before | path
  · rcases List.mem_append.mp before with scheme | authority
    · exact front character scheme
    · have bare := base.valid.bare character authority
      rintro rfl
      exact absurd bare (by decide)
  · obtain ⟨segment, listed, inside⟩ := List.mem_flatMap.mp path
    rcases List.mem_cons.mp inside with slash | within
    · rw [slash]
      decide
    · have unreserved := (base.plain segment listed).unreserved character within
      rintro rfl
      exact absurd unreserved (by decide)

theorem url_characters (base : Base) (settings : Settings) (call : Call)
    (configured : settings.basePath = base.text) :
    call.url settings = String.ofList (base.characters ++
      ((call.segments.map String.toList).flatMap ('/' :: ·) ++ call.tail)) := by
  apply String.toList_injective
  have path := path_segments call
  have front : (settings.basePath ++ call.path).toList.contains '?' = false := by
    rw [← Bool.not_eq_true, List.contains_iff_mem, String.toList_append, configured, Base.text,
      String.toList_ofList]
    intro member
    rcases List.mem_append.mp member with inside | behind
    · exact base.characters_plain '?' inside rfl
    · exact path_unmarked call behind
  rw [Call.url, Form.append, Call.tail, Call.written?, String.toList_ofList]
  cases pairs : Form.present call.query with
  | nil => simp [configured, Base.text, path]
  | cons pair rest =>
    rw [if_neg (by simp), front]
    simp [configured, Base.text, path]

theorem parse?_call (base : Base) (settings : Settings) (call : Call)
    (configured : settings.basePath = base.text) :
    ∃ found, wholeAuthority? "http".toList (withoutBreaks base.authority.toList) = some found ∧
      parse? (call.draft settings).request.url =
        some (Address.withTail
          ⟨"http".toList, some found,
            .segments (resolve .common (base.segments.map String.toList).reverse
              (call.segments.map String.toList)), none, none⟩ call.tail) := by
  have nonempty : call.segments.map String.toList ≠ [] := by
    simpa using segments_nonempty call
  have visible : ∀ character ∈ call.tail, 0x20 < character.toNat := by
    intro character member
    unfold Call.tail at member
    split at member
    · cases member
    · rename_i query written
      rcases List.mem_cons.mp member with mark | inside
      · rw [mark]
        decide
      · exact (written_plain call query written character inside).1
  obtain ⟨found, read, parsed⟩ := parse?_below base (call.segments.map String.toList) call.tail
    nonempty (segments_plain call) visible (tail_starts call)
  refine ⟨found, read, ?_⟩
  have written : (call.draft settings).request.url = call.url settings := rfl
  rw [written, url_characters base settings call configured]
  exact parsed

end Calls

end Accounts.Client
