import Accounts.Percent
import Accounts.Proofs.Percent

/-!
Templates as rows of pieces: literal texts and places, neither with a brace of its own. Filling
looks for a text only, and yet it finds just the places of its name, one after the other: no place
reaches into a literal, and a value that has been put in holds no brace, whatever it was. Hence the
order in which names are filled does not matter, and a template of which every name has been filled
is free of braces.
-/

namespace Accounts.Text

/-! Replacement from left to right, of a pattern that begins with a mark. -/
section Replacing

variable (mark : Char) (pattern substitute : List Char)

theorem replaceFrom_passed (found rest : List Char) :
    replaceFrom pattern substitute found.length (found ++ rest) =
      replaceFrom pattern substitute 0 rest := by
  induction found with
  | nil => rfl
  | cons character later ih => simpa [replaceFrom] using ih

theorem replaceFrom_found (rest : List Char) :
    replaceFrom (mark :: pattern) substitute 0 (mark :: pattern ++ rest) =
      substitute ++ replaceFrom (mark :: pattern) substitute 0 rest := by
  have here : (mark :: pattern).isPrefixOf (mark :: (pattern ++ rest)) = true := by simp
  have passed := replaceFrom_passed (mark :: pattern) substitute pattern rest
  rw [List.cons_append, replaceFrom, if_pos here, List.length_cons, Nat.add_sub_cancel, passed]

theorem replaceFrom_missed (character : Char) (rest : List Char)
    (absent : (mark :: pattern).isPrefixOf (character :: rest) = false) :
    replaceFrom (mark :: pattern) substitute 0 (character :: rest) =
      character :: replaceFrom (mark :: pattern) substitute 0 rest := by
  rw [replaceFrom, absent, if_neg Bool.false_ne_true]

theorem replaceFrom_unmarked (before rest : List Char)
    (unmarked : ∀ character ∈ before, character ≠ mark) :
    replaceFrom (mark :: pattern) substitute 0 (before ++ rest) =
      before ++ replaceFrom (mark :: pattern) substitute 0 rest := by
  induction before with
  | nil => rfl
  | cons character later ih =>
    have other : character ≠ mark := unmarked character (by simp)
    have tail := ih fun next member => unmarked next (List.mem_cons_of_mem character member)
    have absent : (mark :: pattern).isPrefixOf (character :: (later ++ rest)) = false := by
      simp [List.isPrefixOf, other.symm]
    rw [List.cons_append, replaceFrom_missed mark pattern substitute _ _ absent, tail,
      List.cons_append]

end Replacing

end Accounts.Text

namespace Accounts.PathTemplate

open Accounts.Text

/-! Texts without braces. -/
section Braces

def isBrace (character : Char) : Bool := character == '\x7b' || character == '\x7d'

structure Braceless where
  text : String
  plain : ∀ character ∈ text.toList, isBrace character = false

theorem Braceless.unopened (bare : Braceless) :
    ∀ character ∈ bare.text.toList, character ≠ '\x7b' := by
  rintro character member rfl
  exact absurd (bare.plain _ member) (by decide)

theorem Braceless.unclosed (bare : Braceless) :
    ∀ character ∈ bare.text.toList, character ≠ '\x7d' := by
  rintro character member rfl
  exact absurd (bare.plain _ member) (by decide)

theorem Braceless.same {first second : Braceless} (texts : first.text = second.text) :
    first = second := by
  cases first
  cases second
  cases texts
  rfl

theorem encodeSegment_braceless (value : String) :
    ∀ character ∈ (Percent.encodeSegment value).toList, isBrace character = false :=
  Percent.forall_encodeSegment _ (by decide +kernel) value

def segment (value : String) : Braceless :=
  ⟨Percent.encodeSegment value, encodeSegment_braceless value⟩

end Braces

/-! Pieces. -/
section Pieces

inductive Piece where
  | literal (text : Braceless)
  | place (name : Braceless)

def Piece.written : Piece → List Char
  | .literal text => text.text.toList
  | .place name => (PathTemplate.place name.text).toList

def write (pieces : List Piece) : String := String.ofList (pieces.flatMap Piece.written)

def Piece.fill (name : Braceless) (value : String) : Piece → Piece
  | .literal text => .literal text
  | .place other => if other.text = name.text then .literal (segment value) else .place other

theorem place_characters (name : String) :
    (place name).toList = '\x7b' :: (name.toList ++ ['\x7d']) := by
  simp [place]

/-- Of two names that are followed by a brace neither goes on where the other one ends. -/
theorem name_closed (name other : List Char) (rest : List Char)
    (unclosed : ∀ character ∈ name, character ≠ '\x7d')
    (unclosedToo : ∀ character ∈ other, character ≠ '\x7d')
    (begins : name ++ ['\x7d'] <+: other ++ '\x7d' :: rest) : name = other := by
  induction name generalizing other with
  | nil =>
    cases other with
    | nil => rfl
    | cons character later =>
      have first := (List.cons_prefix_cons.mp begins).1
      exact absurd first.symm (unclosedToo character (by simp))
  | cons letter more ih =>
    cases other with
    | nil =>
      have first := (List.cons_prefix_cons.mp begins).1
      exact absurd first (unclosed letter (by simp))
    | cons character later =>
      obtain ⟨first, tail⟩ := List.cons_prefix_cons.mp begins
      have rest := ih later (fun next member => unclosed next (List.mem_cons_of_mem _ member))
        (fun next member => unclosedToo next (List.mem_cons_of_mem _ member)) tail
      rw [first, rest]

theorem place_missed (name other : Braceless) (rest : List Char) (unlike : other.text ≠ name.text) :
    (place name.text).toList.isPrefixOf ((place other.text).toList ++ rest) = false := by
  rw [← Bool.not_eq_true, List.isPrefixOf_iff_prefix, place_characters, place_characters,
    List.cons_append, List.append_assoc]
  intro begins
  have names := (List.cons_prefix_cons.mp begins).2
  exact unlike (String.toList_injective
    (name_closed _ _ rest name.unclosed other.unclosed names)).symm

/-- A search comes out of each piece as it went in, with the places of its name filled. -/
theorem replaceFrom_piece (name : Braceless) (value : String) (piece : Piece) (rest : List Char) :
    replaceFrom (place name.text).toList (Percent.encodeSegment value).toList 0
        (piece.written ++ rest) =
      (piece.fill name value).written ++
        replaceFrom (place name.text).toList (Percent.encodeSegment value).toList 0 rest := by
  cases piece with
  | literal text =>
    rw [place_characters]
    exact replaceFrom_unmarked _ _ _ _ rest text.unopened
  | place other =>
    by_cases same : other.text = name.text
    · rw [Piece.fill, if_pos same, Piece.written, Piece.written, same, place_characters]
      exact replaceFrom_found _ _ _ rest
    · have missed := place_missed name other rest same
      rw [Piece.fill, if_neg same, Piece.written]
      rw [place_characters, place_characters, List.cons_append] at missed ⊢
      -- Behind the brace of another place there is none before its name has ended.
      rw [replaceFrom_missed _ _ _ _ _ missed, List.cons_append, List.cons.injEq]
      refine ⟨rfl, replaceFrom_unmarked _ _ _ (other.text.toList ++ ['\x7d']) rest ?_⟩
      intro character member
      rcases List.mem_append.mp member with inside | closing
      · exact other.unopened character inside
      · rw [List.mem_singleton.mp closing]
        decide

theorem fill_write (pieces : List Piece) (name : Braceless) (value : String) :
    fill (write pieces) name.text value = write (pieces.map (Piece.fill name value)) := by
  rw [fill, replaceAll, write, write, String.toList_ofList]
  congr 1
  induction pieces with
  | nil => rfl
  | cons piece rest ih =>
    rw [List.flatMap_cons, replaceFrom_piece, ih, List.map_cons, List.flatMap_cons]

end Pieces

/-! Several names. -/
section Bindings

theorem fill_again (name : Braceless) (value other : String) (piece : Piece) :
    (piece.fill name value).fill name other = piece.fill name value := by
  cases piece with
  | literal text => rfl
  | place own =>
    by_cases same : own.text = name.text <;> simp [Piece.fill, same]

theorem fill_comm (name other : Braceless) (value another : String) (piece : Piece)
    (unlike : name.text ≠ other.text) :
    (piece.fill name value).fill other another = (piece.fill other another).fill name value := by
  cases piece with
  | literal text => rfl
  | place own =>
    by_cases first : own.text = name.text
    · simp [Piece.fill, first, unlike]
    · by_cases second : own.text = other.text <;> simp [Piece.fill, first, second, unlike.symm]

structure Binding where
  name : Braceless
  value : String

def fillAll (template : String) (bindings : List Binding) : String :=
  bindings.foldl (fun filled binding => fill filled binding.name.text binding.value) template

def Piece.fillAll (bindings : List Binding) (piece : Piece) : Piece :=
  bindings.foldl (fun filled binding => filled.fill binding.name binding.value) piece

theorem fillAll_write (pieces : List Piece) (bindings : List Binding) :
    fillAll (write pieces) bindings = write (pieces.map (Piece.fillAll bindings)) := by
  induction bindings generalizing pieces with
  | nil => exact congrArg write (List.map_id pieces).symm
  | cons binding rest ih =>
    have later := ih (pieces.map (Piece.fill binding.name binding.value))
    rw [List.map_map] at later
    rw [fillAll, List.foldl_cons, fill_write]
    exact later

theorem fillAll_order (first second : List Binding) (piece : Piece) (order : first.Perm second)
    (agree : ∀ one ∈ first, ∀ other ∈ first, one.name.text = other.name.text →
      one.value = other.value) : piece.fillAll first = piece.fillAll second := by
  apply order.foldl_eq'
  intro one member other memberToo filled
  by_cases same : one.name.text = other.name.text
  · rw [Braceless.same same, agree one member other memberToo same]
  · exact fill_comm one.name other.name one.value other.value filled same

theorem fillAll_literal (bindings : List Binding) (text : Braceless) :
    (Piece.literal text).fillAll bindings = .literal text := by
  induction bindings with
  | nil => rfl
  | cons binding rest ih => exact ih

theorem fillAll_bound (bindings : List Binding) (name : Braceless)
    (bound : ∃ binding ∈ bindings, binding.name.text = name.text) :
    ∃ text, (Piece.place name).fillAll bindings = .literal text := by
  induction bindings with
  | nil => simp at bound
  | cons binding rest ih =>
    by_cases same : name.text = binding.name.text
    · refine ⟨segment binding.value, ?_⟩
      rw [Piece.fillAll, List.foldl_cons, Piece.fill, if_pos same]
      exact fillAll_literal rest _
    · obtain ⟨found, member, names⟩ := bound
      rcases List.mem_cons.mp member with rfl | later
      · exact absurd names.symm same
      · obtain ⟨text, filled⟩ := ih ⟨found, later, names⟩
        refine ⟨text, ?_⟩
        rw [Piece.fillAll, List.foldl_cons, Piece.fill, if_neg same]
        exact filled

def Covers (bindings : List Binding) (pieces : List Piece) : Prop :=
  ∀ name, .place name ∈ pieces → ∃ binding ∈ bindings, binding.name.text = name.text

theorem fillAll_plain (pieces : List Piece) (bindings : List Binding)
    (covers : Covers bindings pieces) :
    ∀ character ∈ (write (pieces.map (Piece.fillAll bindings))).toList,
      isBrace character = false := by
  intro character member
  rw [write, String.toList_ofList] at member
  obtain ⟨filled, listed, inside⟩ := List.mem_flatMap.mp member
  obtain ⟨piece, among, rfl⟩ := List.mem_map.mp listed
  cases piece with
  | literal text =>
    rw [fillAll_literal] at inside
    exact text.plain character inside
  | place name =>
    obtain ⟨text, whole⟩ := fillAll_bound bindings name (covers name among)
    rw [whole] at inside
    exact text.plain character inside

end Bindings

/-- What filling does to the template that some pieces make up. -/
structure FillsPlaces (pieces : List Piece) : Prop where
  /-- The places of the name give way to the segment of the value, all of them, and every other
  piece stays as it was. -/
  exact : ∀ (name : Braceless) value, fill (write pieces) name.text value =
    write (pieces.map (Piece.fill name value))
  /-- No place of the name is left, nor has one come in with the value. -/
  again : ∀ (name : Braceless) value other,
    fill (fill (write pieces) name.text value) name.text other =
      fill (write pieces) name.text value
  /-- Different names do not get in each other's way. -/
  either : ∀ (name : Braceless) value (other : Braceless) another, name.text ≠ other.text →
    fill (fill (write pieces) name.text value) other.text another =
      fill (fill (write pieces) other.text another) name.text value
  /-- Nor do any number of names, in whatever order they are filled. -/
  order : ∀ first second : List Binding, first.Perm second →
    (∀ one ∈ first, ∀ other ∈ first, one.name.text = other.name.text → one.value = other.value) →
    fillAll (write pieces) first = fillAll (write pieces) second
  /-- With a value for each name no brace is left. -/
  whole : ∀ bindings, Covers bindings pieces →
    ∀ character ∈ (fillAll (write pieces) bindings).toList, isBrace character = false

theorem places_filled (pieces : List Piece) : FillsPlaces pieces := by
  constructor
  case exact => exact fill_write pieces
  case again =>
    intro name value other
    rw [fill_write, fill_write, List.map_map]
    congr 1
    exact List.map_congr_left fun piece _ => fill_again name value other piece
  case either =>
    intro name value other another unlike
    rw [fill_write, fill_write, fill_write, fill_write, List.map_map, List.map_map]
    congr 1
    exact List.map_congr_left fun piece _ => fill_comm name other value another piece unlike
  case order =>
    intro first second order agree
    rw [fillAll_write, fillAll_write]
    congr 1
    exact List.map_congr_left fun piece _ => fillAll_order first second piece order agree
  case whole =>
    intro bindings covers
    rw [fillAll_write]
    exact fillAll_plain pieces bindings covers

/-- A value that looks like a place is none. -/
example : fill "/\x7ba\x7d/\x7bb\x7d" "a" "\x7bb\x7d" = "/%7Bb%7D/\x7bb\x7d" := by decide

end Accounts.PathTemplate
