import Accounts.Credentials
import Accounts.Form
import Accounts.Proofs.Percent
import Accounts.Proofs.Text.Split

/-!
Queries in the manner of forms. Pairs that are written come back as they were, whatever their names
and values hold.
-/

namespace Accounts.Form

open Accounts.Text

/-! Single texts. -/
section Texts

def unplus (byte : UInt8) : UInt8 := if byte = 0x2B then 0x20 else byte

theorem keepsPlain_ascii (byte : UInt8) (kept : keepsPlain byte = true) : byte < 0x80 := by
  simp only [keepsPlain, isDigit, isLetter, Bool.or_eq_true, Bool.and_eq_true, decide_eq_true_iff,
    beq_iff_eq, ← UInt8.toNat_inj, UInt8.le_iff_toNat_le, UInt8.lt_iff_toNat_lt,
    UInt8.reduceToNat] at kept ⊢
  omega

theorem keepsPlain_sign : keepsPlain 0x25 = false := by decide

def isWritten (character : Char) : Bool :=
  character.isAlphanum || "*-._+%".toList.contains character

/-- What is written for a byte is ASCII without a plus sign, unless it is a space, and holds none
of the marks that divide pairs. -/
theorem encodeByte_table (byte : UInt8) :
    (∀ character ∈ encodeByte byte,
      character.toNat < 0x80 ∧ character ≠ '&' ∧ character ≠ '=' ∧ isWritten character = true) ∧
    (byte ≠ 0x20 →
      (asciiBytes (Percent.encodeByte keepsPlain byte)).map unplus =
        asciiBytes (Percent.encodeByte keepsPlain byte)) := by
  revert byte
  apply forall_byte
  decide +kernel

theorem encodeText_bare (text : String) : ∀ character ∈ encodeText text,
    character.toNat < 0x80 ∧ character ≠ '&' ∧ character ≠ '=' ∧ isWritten character = true := by
  intro character member
  obtain ⟨byte, _, inside⟩ := List.mem_flatMap.mp member
  exact (encodeByte_table byte).1 character inside

theorem decode_encodeByte (byte : UInt8) (rest : List UInt8) :
    Percent.decode ((asciiBytes (encodeByte byte)).map unplus ++ rest) =
      byte :: Percent.decode rest := by
  by_cases space : byte = 0x20
  · rw [space]
    exact Percent.decode_cons 0x20 rest (by decide)
  · have kept := (encodeByte_table byte).2 space
    rw [encodeByte, if_neg space, kept]
    exact Percent.decode_encodeByte keepsPlain keepsPlain_ascii keepsPlain_sign byte rest

theorem decode_encodeBytes (encoded : List UInt8) :
    Percent.decode ((asciiBytes (encoded.flatMap encodeByte)).map unplus) = encoded := by
  induction encoded with
  | nil => simp [asciiBytes, Percent.decode]
  | cons byte rest ih =>
    have split : (asciiBytes ((byte :: rest).flatMap encodeByte)).map unplus =
        (asciiBytes (encodeByte byte)).map unplus ++
          (asciiBytes (rest.flatMap encodeByte)).map unplus := by
      simp [asciiBytes]
    rw [split, decode_encodeByte, ih]

theorem decodeText_encodeText (text : String) : decodeText (asciiBytes (encodeText text)) = text := by
  have decoded := decode_encodeBytes (bytes text)
  unfold unplus at decoded
  rw [decodeText, encodeText, decoded, decodeLossy_bytes]

end Texts

/-! Pairs. -/
section Pairs

theorem encodeText_bytes (text : String) : ∀ byte ∈ asciiBytes (encodeText text),
    byte ≠ 0x26 ∧ byte ≠ 0x3D := by
  intro byte member
  obtain ⟨character, inside, rfl⟩ := List.mem_map.mp member
  obtain ⟨small, ampersand, equals, _⟩ := encodeText_bare text character inside
  exact ⟨byte_other character '&' small (by decide) ampersand,
    byte_other character '=' small (by decide) equals⟩

theorem written_bytes (pair : Pair) : asciiBytes pair.written =
    asciiBytes (encodeText pair.name) ++ 0x3D :: asciiBytes (encodeText pair.value) := by
  rw [Pair.written, asciiBytes_append]
  rfl

theorem written_bare (pair : Pair) : ∀ byte ∈ asciiBytes pair.written, (byte == 0x26) = false := by
  intro byte member
  rw [written_bytes] at member
  rcases List.mem_append.mp member with name | rest
  · simpa using (encodeText_bytes pair.name byte name).1
  · rcases List.mem_cons.mp rest with equals | value
    · rw [equals]
      decide
    · simpa using (encodeText_bytes pair.value byte value).1

theorem readPair_written (pair : Pair) : readPair (asciiBytes pair.written) = pair := by
  have split := span_append (· != 0x3D) (asciiBytes (encodeText pair.name))
    (0x3D :: asciiBytes (encodeText pair.value))
    (fun byte member => by simpa using (encodeText_bytes pair.name byte member).2)
    (by
      intro byte first
      cases first
      decide)
  rw [written_bytes, readPair, split.1, split.2, List.drop_one, List.tail_cons,
    decodeText_encodeText, decodeText_encodeText]

theorem asciiBytes_flatMap (pairs : List Pair) :
    asciiBytes ((pairs.map Pair.written).flatMap ('&' :: ·)) =
      (pairs.map fun pair => asciiBytes pair.written).flatMap (0x26 :: ·) := by
  induction pairs with
  | nil => rfl
  | cons pair rest ih =>
    simp only [List.map_cons, List.flatMap_cons, asciiBytes_append, ih]
    rfl

def isQueryCharacter (character : Char) : Bool :=
  isWritten character || character == '&' || character == '='

theorem written_characters (pair : Pair) : ∀ character ∈ pair.written,
    character.toNat < 0x80 ∧ isQueryCharacter character = true := by
  have text (content : String) : ∀ character ∈ encodeText content,
      character.toNat < 0x80 ∧ isQueryCharacter character = true := by
    intro character member
    obtain ⟨small, _, _, written⟩ := encodeText_bare content character member
    exact ⟨small, by simp [isQueryCharacter, written]⟩
  intro character member
  rcases List.mem_append.mp member with name | rest
  · exact text pair.name character name
  · rcases List.mem_cons.mp rest with equals | value
    · rw [equals]
      decide
    · exact text pair.value character value

theorem write_characters (pairs : List Pair) : ∀ character ∈ (write pairs).toList,
    character.toNat < 0x80 ∧ isQueryCharacter character = true := by
  intro character member
  rw [write, String.toList_ofList] at member
  cases pairs with
  | nil => cases member
  | cons first later =>
    rw [List.map_cons, intercalate_pieces] at member
    rcases List.mem_append.mp member with here | there
    · exact written_characters first character here
    · obtain ⟨piece, listed, inside⟩ := List.mem_flatMap.mp there
      obtain ⟨pair, _, rfl⟩ := List.mem_map.mp listed
      rcases List.mem_cons.mp inside with mark | within
      · rw [mark]
        decide
      · exact written_characters pair character within

theorem forall_write (holds : Char → Prop)
    (table : ∀ code < 0x80, isQueryCharacter (Char.ofNat code) = true → holds (Char.ofNat code))
    (pairs : List Pair) : ∀ character ∈ (write pairs).toList, holds character := by
  intro character member
  obtain ⟨small, written⟩ := write_characters pairs character member
  exact forall_ascii (fun character => isQueryCharacter character = true → holds character) table
    character small written

theorem bytes_write (first : Pair) (later : List Pair) :
    bytes (write (first :: later)) = asciiBytes first.written ++
      (later.map fun pair => asciiBytes pair.written).flatMap (0x26 :: ·) := by
  have written : write (first :: later) =
      String.ofList (first.written ++ (later.map Pair.written).flatMap ('&' :: ·)) := by
    rw [write, List.map_cons, intercalate_pieces]
  have plain := write_characters (first :: later)
  rw [written, String.toList_ofList] at plain
  rw [written, bytes_ascii _ fun character member => (plain character member).1,
    asciiBytes_append, asciiBytes_flatMap]

theorem read_write (pairs : List Pair) : read (bytes (write pairs)) = pairs := by
  cases pairs with
  | nil =>
    have empty : bytes (write []) = [] := by decide
    rw [empty]
    rfl
  | cons first later =>
    have pieces := splitOn_pieces (· == 0x26) 0x26 (by decide) (asciiBytes first.written)
      (later.map fun pair => asciiBytes pair.written)
      (by
        intro piece member
        rcases List.mem_cons.mp member with here | there
        · rw [here]
          exact written_bare first
        · obtain ⟨pair, _, rfl⟩ := List.mem_map.mp there
          exact written_bare pair)
    have given (pair : Pair) : (asciiBytes pair.written).isEmpty = false := by
      rw [written_bytes]
      simp
    have kept : ((asciiBytes first.written) :: later.map fun pair => asciiBytes pair.written).filter
        (fun piece => !piece.isEmpty) =
          (asciiBytes first.written) :: later.map fun pair => asciiBytes pair.written := by
      apply List.filter_eq_self.mpr
      intro piece member
      rcases List.mem_cons.mp member with here | there
      · simp [here, given]
      · obtain ⟨pair, _, rfl⟩ := List.mem_map.mp there
        simp [given]
    rw [read, bytes_write, pieces, kept]
    simp [readPair_written, Function.comp_def]

/-- Different pairs are different queries: no separator can be forged from inside a value. -/
theorem write_injective (left right : List Pair) (same : write left = write right) :
    left = right := by
  rw [← read_write left, same, read_write]

end Pairs

end Accounts.Form

namespace Accounts.Credentials

open Accounts.Text

theorem ofQuery_write (username password : String) :
    ofQuery (bytes (Form.write [⟨"username", username⟩, ⟨"password", password⟩])) =
      .ok ⟨some username, some password⟩ := by
  rw [ofQuery, Form.read_write]
  simp [ofPairs]

end Accounts.Credentials
