import Accounts.Proofs.Form

/-!
Queries that are added to. What is added to an address comes behind the pairs that its query has
already, whatever it ends in, and divides from them: no pair runs into another. The address itself
stays as it is, and it makes no difference whether pairs are added at once or in turns.
-/

namespace Accounts.Form

open Accounts.Text

/-! Addresses and their queries. -/
section Queries

def beforeQuery (address : String) : String :=
  String.ofList (address.toList.takeWhile (· != '?'))

def query? (address : String) : Option String :=
  match address.toList.dropWhile (· != '?') with
  | [] => none
  | _ :: query => some (String.ofList query)

def pairsIn (address : String) : List Pair :=
  match query? address with
  | none => []
  | some query => read (bytes query)

variable (front address query : String)

theorem unmarked_passes (unmarked : '?' ∉ address.toList) :
    ∀ character ∈ address.toList, (character != '?') = true := by
  intro character member
  rw [bne_iff_ne]
  rintro rfl
  exact unmarked member

theorem address_unmarked (unmarked : '?' ∉ address.toList) :
    beforeQuery address = address ∧ query? address = none := by
  have plain := span_all (· != '?') address.toList (unmarked_passes address unmarked)
  rw [beforeQuery, query?, plain.1, plain.2]
  exact ⟨String.ofList_toList, rfl⟩

theorem address_marked (unmarked : '?' ∉ front.toList) :
    beforeQuery (front ++ ("?" ++ query)) = front ∧
      query? (front ++ ("?" ++ query)) = some query := by
  have mark : ("?" ++ query).toList = '?' :: query.toList := by simp
  have split := span_append (· != '?') front.toList ('?' :: query.toList)
    (unmarked_passes front unmarked) (by simp)
  rw [beforeQuery, query?, String.toList_append, mark, split.1, split.2]
  exact ⟨String.ofList_toList, congrArg some String.ofList_toList⟩

theorem address_cases : '?' ∉ address.toList ∨
    ∃ front query, address = front ++ ("?" ++ query) ∧ '?' ∉ front.toList := by
  by_cases marked : '?' ∈ address.toList
  · obtain ⟨front, query, whole, first⟩ := List.eq_append_cons_of_mem marked
    refine Or.inr ⟨String.ofList front, String.ofList query, ?_, ?_⟩
    · apply String.toList_injective
      simpa using whole
    · rwa [String.toList_ofList]
  · exact Or.inl marked

end Queries

/-! Writing and reading in parts. -/
section Parts

theorem write_append (pairs later : List Pair) (given : pairs ≠ []) (more : later ≠ []) :
    write (pairs ++ later) = write pairs ++ ("&" ++ write later) := by
  obtain ⟨first, rest, rfl⟩ := List.exists_cons_of_ne_nil given
  obtain ⟨next, others, rfl⟩ := List.exists_cons_of_ne_nil more
  apply String.toList_injective
  simp only [write, String.toList_append, String.toList_ofList, List.cons_append, List.map_cons,
    List.map_append, intercalate_pieces, List.flatMap_append, List.flatMap_cons, List.append_assoc]
  rfl

/-- Wherever there is an ampersand, a query can be read in two parts. -/
theorem read_divided (before behind : String) :
    read (bytes (before ++ ("&" ++ behind))) = read (bytes before) ++ read (bytes behind) := by
  have whole : bytes (before ++ ("&" ++ behind)) = bytes before ++ 0x26 :: bytes behind := by
    rw [bytes_append, bytes_append]
    rfl
  rw [read, whole, splitOn_divided _ _ _ _ (by decide), List.filter_append, List.map_append]
  rfl

end Parts

/-! Adding. -/
section Adding

variable (address : String) (pairs : List Pair) (given : pairs ≠ [])
include given

theorem append_given : append address pairs =
    address ++ ((if '?' ∈ address.toList then "&" else "?") ++ write pairs) := by
  have some : pairs.isEmpty = false := by simpa using given
  rw [append, some, if_neg Bool.false_ne_true, String.append_assoc]
  simp only [List.contains_iff_mem]

theorem append_marked : '?' ∈ (append address pairs).toList := by
  rw [append_given address pairs given, String.toList_append, String.toList_append]
  by_cases marked : '?' ∈ address.toList
  · exact List.mem_append_left _ marked
  · rw [if_neg marked]
    simp

theorem append_query : beforeQuery (append address pairs) = beforeQuery address ∧
    query? (append address pairs) =
      match query? address with
      | none => some (write pairs)
      | some query => some (query ++ ("&" ++ write pairs)) := by
  have grown := append_given address pairs given
  rcases address_cases address with unmarked | ⟨front, query, rfl, unmarked⟩
  · obtain ⟨before, query⟩ := address_unmarked address unmarked
    rw [if_neg unmarked] at grown
    rw [grown, before, query]
    exact address_marked address _ unmarked
  · obtain ⟨before, found⟩ := address_marked front query unmarked
    rw [if_pos (by simp), String.append_assoc, String.append_assoc] at grown
    rw [grown, before, found]
    exact address_marked front _ unmarked

theorem pairsIn_append : pairsIn (append address pairs) = pairsIn address ++ pairs := by
  rw [pairsIn, pairsIn, (append_query address pairs given).2]
  cases query? address with
  | none => exact read_write pairs
  | some query =>
    change read (bytes (query ++ ("&" ++ write pairs))) = read (bytes query) ++ pairs
    rw [read_divided, read_write]

theorem append_again (later : List Pair) :
    append (append address pairs) later = append address (pairs ++ later) := by
  cases later with
  | nil => rw [List.append_nil, append, List.isEmpty_nil, if_pos rfl]
  | cons next others =>
    have both : pairs ++ next :: others ≠ [] := by simp
    rw [append_given _ (next :: others) (by simp), if_pos (append_marked address pairs given),
      append_given address pairs given, append_given address _ both,
      write_append pairs (next :: others) given (by simp), String.append_assoc,
      String.append_assoc]

end Adding

def isAdded (character : Char) : Bool :=
  character.isAlphanum || "*-._+%&=".toList.contains character

theorem write_added (pairs : List Pair) :
    ∀ character ∈ (write pairs).toList, isAdded character = true :=
  forall_write _ (by decide +kernel) pairs

/-- What becomes of an address that pairs are added to. -/
structure ExtendsQuery (address : String) (pairs : List Pair) : Prop where
  /-- The query holds the pairs that it held before and behind them those that were added. -/
  read : pairsIn (append address pairs) = pairsIn address ++ pairs
  front : beforeQuery (append address pairs) = beforeQuery address
  /-- Nothing is added for no pairs. Otherwise it is the mark that is wanted at this place, and then
  letters, digits and other marks that stand for themselves. -/
  added : (pairs = [] ∧ append address pairs = address) ∨
    (pairs ≠ [] ∧ ∃ query, (∀ character ∈ query.toList, isAdded character = true) ∧
      append address pairs =
        address ++ ((if '?' ∈ address.toList then "&" else "?") ++ query))
  /-- Pairs may be added at once or in turns. -/
  again : ∀ later, append (append address pairs) later = append address (pairs ++ later)

theorem query_extended (address : String) (pairs : List Pair) : ExtendsQuery address pairs := by
  by_cases empty : pairs = []
  · rw [empty]
    exact ⟨(List.append_nil _).symm, rfl, Or.inl ⟨rfl, rfl⟩, fun later => rfl⟩
  · constructor
    case read => exact pairsIn_append address pairs empty
    case front => exact (append_query address pairs empty).1
    case added =>
      exact Or.inr ⟨empty, write pairs, write_added pairs, append_given address pairs empty⟩
    case again => exact append_again address pairs empty

/-- A query that ends in a mark, and a pair full of them. -/
example : append "/a?b&" [⟨"", "&=?#"⟩] = "/a?b&&=%26%3D%3F%23" := by decide

end Accounts.Form
