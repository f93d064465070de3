import Accounts.Proofs.Percent
import Accounts.Proofs.Text.Split
import Accounts.Server.Route

/-!
Routing. A target that begins with a slash is taken apart at its question mark, and the segment of
an encoded name leads to the account of that name, unless the name is one of the fixed ones.
-/

namespace Accounts.Server

open Accounts.Text

/-! Targets. -/
section Targets

def isTargetByte (byte : UInt8) : Bool := byte != 0x23 && byte != 0x3F

theorem stripOrigin_path (rest : List UInt8) : stripOrigin (0x2F :: rest) = 0x2F :: rest := by
  simp [stripOrigin]

theorem target_path (rest : List UInt8) (plain : ∀ byte ∈ rest, isTargetByte byte = true) :
    Target.ofBytes (0x2F :: rest) = ⟨0x2F :: rest, []⟩ := by
  simp only [isTargetByte, Bool.and_eq_true] at plain
  have marks : ((0x2F : UInt8) != 0x23) = true ∧ ((0x2F : UInt8) != 0x3F) = true := by decide
  have fragment := span_all (· != 0x23) rest fun byte member => (plain byte member).1
  have query := span_all (· != 0x3F) rest fun byte member => (plain byte member).2
  simp [Target.ofBytes, marks, fragment, stripOrigin_path, query]

theorem target_query (rest query : List UInt8) (plain : ∀ byte ∈ rest, isTargetByte byte = true)
    (plainQuery : ∀ byte ∈ query, (byte != 0x23) = true) :
    Target.ofBytes (0x2F :: (rest ++ 0x3F :: query)) = ⟨0x2F :: rest, query⟩ := by
  simp only [isTargetByte, Bool.and_eq_true] at plain
  have marks : ((0x2F : UInt8) != 0x23) = true ∧ ((0x2F : UInt8) != 0x3F) = true ∧
      ((0x3F : UInt8) != 0x23) = true ∧ ((0x3F : UInt8) != 0x3F) = false := by
    decide
  have fragment := span_all (· != 0x23) (0x2F :: (rest ++ 0x3F :: query))
    (by
      intro byte member
      simp only [List.mem_cons, List.mem_append] at member
      rcases member with slash | path | mark | after
      · rw [slash]
        exact marks.1
      · exact (plain byte path).1
      · rw [mark]
        exact marks.2.2.1
      · exact plainQuery byte after)
  have passes : ∀ byte ∈ rest, (byte != 0x3F) = true := fun byte member => (plain byte member).2
  simp only [Target.ofBytes, fragment, stripOrigin_path, List.takeWhile_cons, List.dropWhile_cons,
    marks, if_true]
  rw [List.takeWhile_append_of_pos passes, List.dropWhile_append_of_pos passes]
  simp

end Targets

/-! Names in paths. -/
section Names

/-- A name that is passed in a path and leads to an account. -/
def isAddressable (name : String) : Bool :=
  !List.contains ["", ".", "..", "login", "logout", "createWithArray", "createWithList"] name

def segmentOf (name : String) : List UInt8 := bytes (Percent.encodeSegment name)

theorem username?_segmentOf (name : String) : username? (segmentOf name) = some name := by
  rw [username?, segmentOf, Percent.decode_encodeSegment, ofBytes?_bytes]

theorem segmentOf_eq (name other : String) (plain : Percent.decode (bytes other) = bytes other)
    (same : segmentOf name = bytes other) : name = other := by
  apply bytes_injective
  rw [← plain, ← same, segmentOf, Percent.decode_encodeSegment]

theorem segmentOf_bytes (name : String) : ∀ byte ∈ segmentOf name,
    isTargetByte byte = true ∧ byte ≠ 0x2F := by
  have table := forall_byte (fun source => ∀ byte ∈
    asciiBytes (Percent.encodeByte Percent.keepsInSegment source),
      isTargetByte byte = true ∧ byte ≠ 0x2F) (by decide +kernel)
  intro byte member
  rw [segmentOf, Percent.bytes_encodeSegment, Percent.encodeSegment, Percent.encode,
    String.toList_ofList] at member
  obtain ⟨character, inside, rfl⟩ := List.mem_map.mp member
  obtain ⟨source, _, within⟩ := List.mem_flatMap.mp inside
  exact table source _ (List.mem_map.mpr ⟨character, within, rfl⟩)

/-- The names below the path of the users that the server keeps for itself. -/
def fixedNames : List String := ["createWithArray", "createWithList", "login", "logout"]

/-- Whether a segment leads to an account: there is something in it, nothing that ends a segment,
and it is not spelled like a name that the server keeps for itself. -/
structure IsAccountSegment (segment : List UInt8) : Prop where
  nonempty : segment ≠ []
  plain : ∀ byte ∈ segment, isTargetByte byte = true ∧ byte ≠ 0x2F
  free : ∀ name ∈ fixedNames, segment ≠ bytes name

theorem ofPath?_segment (segment : List UInt8) (leads : IsAccountSegment segment) :
    Route.ofPath? (bytes "/user/" ++ segment) = some (.account segment) := by
  have unlike (name : String) (fixed : name ∈ fixedNames) : ¬ segment = bytes name :=
    leads.free name fixed
  have given : segment.isEmpty = false := by
    simpa using leads.nonempty
  have single : segment.contains 0x2F = false := by
    rw [← Bool.not_eq_true, List.contains_iff_mem]
    intro member
    exact (leads.plain 0x2F member).2 rfl
  have shorter : ¬ bytes "/user/" ++ segment = bytes "/user" := by
    intro same
    have lengths := congrArg List.length same
    have fixed : (bytes "/user/").length = 6 ∧ (bytes "/user").length = 5 := by decide
    rw [List.length_append] at lengths
    omega
  have below : Route.strip? (bytes "/user/") (bytes "/user/" ++ segment) = some segment := by
    rw [Route.strip?, if_pos (by simp), List.drop_left]
  rw [Route.ofPath?, if_neg shorter, below, Option.bind_some, Route.ofSegment?,
    if_neg (unlike "createWithArray" (by decide)), if_neg (unlike "createWithList" (by decide)),
    if_neg (unlike "login" (by decide)), if_neg (unlike "logout" (by decide)), given, single]
  rfl

theorem target_segment (segment : List UInt8)
    (plain : ∀ byte ∈ segment, isTargetByte byte = true) :
    Target.ofBytes (bytes "/user/" ++ segment) = ⟨bytes "/user/" ++ segment, []⟩ := by
  have front : bytes "/user/" = 0x2F :: bytes "user/" := by decide
  have fixed : ∀ byte ∈ bytes "user/", isTargetByte byte = true := by decide
  rw [front, List.cons_append]
  apply target_path
  intro byte member
  rcases List.mem_append.mp member with before | after
  · exact fixed byte before
  · exact plain byte after

/-- Fixed names are compared before decoding, and no other name is spelled like one of them. -/
theorem segmentOf_leads (name : String) (addressable : isAddressable name = true) :
    IsAccountSegment (segmentOf name) := by
  simp only [isAddressable, List.contains_eq_mem, List.mem_cons, List.not_mem_nil, or_false,
    not_or, Bool.not_eq_true', decide_eq_false_iff_not] at addressable
  obtain ⟨nonempty, _, _, login, logout, array, list⟩ := addressable
  have unlike (other : String) (plain : Percent.decode (bytes other) = bytes other)
      (different : name ≠ other) : segmentOf name ≠ bytes other :=
    fun same => different (segmentOf_eq name other plain same)
  constructor
  case nonempty =>
    have empty : bytes "" = [] := by decide
    rw [← empty]
    exact unlike "" (by decide) nonempty
  case plain => exact segmentOf_bytes name
  case free =>
    simp only [fixedNames, List.mem_cons, List.not_mem_nil, or_false]
    rintro other (rfl | rfl | rfl | rfl)
    · exact unlike _ (by decide) array
    · exact unlike _ (by decide) list
    · exact unlike _ (by decide) login
    · exact unlike _ (by decide) logout

theorem ofPath?_account (name : String) (addressable : isAddressable name = true) :
    Route.ofPath? (bytes "/user/" ++ segmentOf name) = some (.account (segmentOf name)) :=
  ofPath?_segment (segmentOf name) (segmentOf_leads name addressable)

theorem ofPath?_fixed :
    Route.ofPath? (bytes "/user") = some .users ∧
      Route.ofPath? (bytes "/user/createWithArray") = some .bulk ∧
      Route.ofPath? (bytes "/user/createWithList") = some .bulk ∧
      Route.ofPath? (bytes "/user/login") = some .login ∧
      Route.ofPath? (bytes "/user/logout") = some .logout := by
  decide

theorem isAddressable_iff (name : String) :
    isAddressable name = true ↔
      (name ≠ "" ∧ name ≠ "." ∧ name ≠ "..") ∧ name ∉ fixedNames := by
  simp only [isAddressable, fixedNames, List.contains_eq_mem, List.mem_cons, List.not_mem_nil,
    or_false, Bool.not_eq_true', decide_eq_false_iff_not, not_or]
  constructor
  · rintro ⟨empty, single, double, login, logout, array, list⟩
    exact ⟨⟨empty, single, double⟩, array, list, login, logout⟩
  · rintro ⟨⟨empty, single, double⟩, array, list, login, logout⟩
    exact ⟨empty, single, double, login, logout, array, list⟩

theorem ofPath?_fixedName (name : String) (fixed : name ∈ fixedNames) :
    ∃ route, Route.ofPath? (bytes "/user/" ++ segmentOf name) = some route ∧
      ∀ segment, route ≠ .account segment := by
  simp only [fixedNames, List.mem_cons, List.not_mem_nil, or_false] at fixed
  rcases fixed with rfl | rfl | rfl | rfl
  · exact ⟨.bulk, by decide, by simp⟩
  · exact ⟨.bulk, by decide, by simp⟩
  · exact ⟨.login, by decide, by simp⟩
  · exact ⟨.logout, by decide, by simp⟩

end Names

end Accounts.Server
