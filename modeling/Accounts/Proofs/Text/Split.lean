import Accounts.Text.Basic

/-!
Splitting at separators undoes joining, as long as no piece holds a separator, and a test finds
where it first fails.
-/

namespace Accounts.Text

/-- Whether all items of a list pass a test is found by looking at each of them, also where there
are only so many items of their kind. -/
instance (priority := high) decidableListed {Item : Type} (items : List Item) (test : Item → Prop)
    [DecidablePred test] : Decidable (∀ item ∈ items, test item) :=
  List.decidableBAll test items

section Splitting

variable {Item : Type} (isSeparator : Item → Bool)

theorem splitOn_bare (piece : List Item) (bare : ∀ item ∈ piece, isSeparator item = false) :
    splitOn isSeparator piece = [piece] := by
  induction piece with
  | nil => rfl
  | cons item rest ih =>
    have here := bare item (by simp)
    have later := ih fun other member => bare other (List.mem_cons_of_mem item member)
    simp [splitOn, here, later]

theorem splitOn_nonempty (items : List Item) : splitOn isSeparator items ≠ [] := by
  cases items with
  | nil => simp [splitOn]
  | cons item rest =>
    rw [splitOn]
    split
    · simp
    · split <;> simp

theorem splitOn_divided (before : List Item) (separator : Item) (rest : List Item)
    (divides : isSeparator separator = true) :
    splitOn isSeparator (before ++ separator :: rest) =
      splitOn isSeparator before ++ splitOn isSeparator rest := by
  induction before with
  | nil => simp [splitOn, divides]
  | cons item later ih =>
    by_cases here : isSeparator item = true
    · simp [splitOn, here, ih]
    · cases pieces : splitOn isSeparator later with
      | nil => exact absurd pieces (splitOn_nonempty isSeparator later)
      | cons piece others => simp [splitOn, here, ih, pieces]

theorem splitOn_append (piece : List Item) (separator : Item) (rest : List Item)
    (bare : ∀ item ∈ piece, isSeparator item = false) (divides : isSeparator separator = true) :
    splitOn isSeparator (piece ++ separator :: rest) = piece :: splitOn isSeparator rest := by
  rw [splitOn_divided isSeparator piece separator rest divides,
    splitOn_bare isSeparator piece bare, List.singleton_append]

theorem splitOn_pieces (separator : Item) (divides : isSeparator separator = true)
    (first : List Item) (later : List (List Item))
    (bare : ∀ piece ∈ first :: later, ∀ item ∈ piece, isSeparator item = false) :
    splitOn isSeparator (first ++ later.flatMap (separator :: ·)) = first :: later := by
  induction later generalizing first with
  | nil => simpa using splitOn_bare isSeparator first (bare first (by simp))
  | cons next rest ih =>
    have tail := ih next fun piece member => bare piece (List.mem_cons_of_mem first member)
    rw [List.flatMap_cons, List.cons_append,
      splitOn_append isSeparator first separator _ (bare first (by simp)) divides, tail]

theorem intercalate_pieces (separator : Item) (first : List Item) (later : List (List Item)) :
    List.intercalate [separator] (first :: later) = first ++ later.flatMap (separator :: ·) := by
  induction later generalizing first with
  | nil => simp [List.intercalate_singleton]
  | cons next rest ih => simp [List.intercalate_cons_cons, ih]

end Splitting

theorem span_append {Item : Type} (test : Item → Bool) (before rest : List Item)
    (passes : ∀ item ∈ before, test item = true)
    (stops : ∀ item, rest.head? = some item → test item = false) :
    (before ++ rest).takeWhile test = before ∧ (before ++ rest).dropWhile test = rest := by
  rw [List.takeWhile_append_of_pos passes, List.dropWhile_append_of_pos passes]
  cases rest with
  | nil => simp
  | cons stop later =>
    have refused := stops stop rfl
    simp [refused]

theorem span_all {Item : Type} (test : Item → Bool) (items : List Item)
    (passes : ∀ item ∈ items, test item = true) :
    items.takeWhile test = items ∧ items.dropWhile test = [] := by
  have whole := span_append test items [] passes (by simp)
  rwa [List.append_nil] at whole

end Accounts.Text
