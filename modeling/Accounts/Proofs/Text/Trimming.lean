import Accounts.Proofs.Text.Split
import Accounts.Text.Basic
import Mathlib.Data.List.TakeWhile

/-!
Trimming takes away from the ends of a text what can be taken away, all of it and nothing else.
-/

namespace Accounts.Text

/-! Lists that are cut at their end. -/
section Ends

variable {Item : Type} (test : Item → Bool)

theorem dropRight_append (items dropped : List Item)
    (last : ∀ item, items.getLast? = some item → test item = false)
    (drops : ∀ item ∈ dropped, test item = true) :
    dropRight test (items ++ dropped) = items := by
  have stops : ∀ item, items.reverse.head? = some item → test item = false := by
    intro item first
    exact last item (by simpa using first)
  have cut := span_append test dropped.reverse items.reverse
    (fun item member => drops item (List.mem_reverse.mp member)) stops
  rw [dropRight, List.reverse_append, cut.2, List.reverse_reverse]

theorem dropRight_none (items : List Item) (none : ∀ item ∈ items, test item = false) :
    dropRight test items = items := by
  have kept := dropRight_append test items []
    (fun item last => none item (List.mem_of_getLast? last)) (by simp)
  rwa [List.append_nil] at kept

theorem dropWhile_split (items : List Item) :
    (∃ dropped, items = dropped ++ items.dropWhile test ∧ ∀ item ∈ dropped, test item = true) ∧
      ∀ item, (items.dropWhile test).head? = some item → test item = false := by
  refine ⟨⟨items.takeWhile test, List.takeWhile_append_dropWhile.symm,
    fun item => List.mem_takeWhile_imp⟩, ?_⟩
  intro item first
  have stops := List.head?_dropWhile_not test items
  rw [first] at stops
  simpa using stops

theorem dropRight_split (items : List Item) :
    (∃ dropped, items = dropRight test items ++ dropped ∧ ∀ item ∈ dropped, test item = true) ∧
      ∀ item, (dropRight test items).getLast? = some item → test item = false := by
  obtain ⟨⟨dropped, whole, passes⟩, stops⟩ := dropWhile_split test items.reverse
  constructor
  · refine ⟨dropped.reverse, ?_, fun item member => passes item (List.mem_reverse.mp member)⟩
    rw [dropRight, ← List.reverse_append, ← whole, List.reverse_reverse]
  · intro item last
    rw [dropRight, List.getLast?_reverse] at last
    exact stops item last

end Ends

/-! Texts. -/
section Texts

/-- What is left of a text without the copies of a mark at its end. -/
structure IsCut (mark : Char) (text kept : String) : Prop where
  copies : ∃ count, text = kept ++ String.ofList (List.replicate count mark)
  ends : kept.toList.getLast? ≠ some mark

theorem isCut_iff (mark : Char) (text kept : String) :
    IsCut mark text kept ↔ trimRight mark text = kept := by
  constructor
  · rintro ⟨⟨count, whole⟩, ends⟩
    rw [whole, trimRight, String.toList_append, String.toList_ofList, dropRight_append,
      String.ofList_toList]
    · intro character last
      rw [beq_eq_false_iff_ne]
      rintro rfl
      exact ends last
    · intro character member
      simp [List.eq_of_mem_replicate member]
  · intro cut
    obtain ⟨⟨dropped, whole, copies⟩, last⟩ := dropRight_split (· == mark) text.toList
    have characters : kept.toList = dropRight (· == mark) text.toList := by
      rw [← cut, trimRight, String.toList_ofList]
    rw [← characters] at whole last
    constructor
    · refine ⟨dropped.length, String.toList_injective ?_⟩
      rw [String.toList_append, String.toList_ofList, whole]
      exact congrArg _ (List.eq_replicate_of_mem fun character member =>
        beq_iff_eq.mp (copies character member))
    · intro ends
      simpa using last mark ends

/-- What is left of a text without the white space at both its ends. -/
structure IsTrimmed (text trimmed : String) : Prop where
  within : ∃ before after, text.toList = before ++ (trimmed.toList ++ after) ∧
    (∀ character ∈ before, isBlank character = true) ∧
    ∀ character ∈ after, isBlank character = true
  starts : ∀ character, trimmed.toList.head? = some character → isBlank character = false
  ends : ∀ character, trimmed.toList.getLast? = some character → isBlank character = false

theorem isTrimmed_iff (text trimmed : String) : IsTrimmed text trimmed ↔ trim text = trimmed := by
  constructor
  · rintro ⟨⟨before, after, whole, blank, blankToo⟩, starts, ends⟩
    apply String.toList_injective
    rw [trim, String.toList_ofList, whole]
    cases inside : trimmed.toList with
    | nil =>
      -- Of white space alone nothing is left, wherever it is thought to end.
      have all := span_all isBlank (before ++ after) fun character member =>
        (List.mem_append.mp member).elim (blank character) (blankToo character)
      rw [List.nil_append, all.2]
      rfl
    | cons first rest =>
      have front := span_append isBlank before (first :: rest ++ after) blank
        (by simpa [inside] using starts)
      rw [front.2, dropRight_append isBlank (first :: rest) after _ blankToo]
      rwa [inside] at ends
  · rintro rfl
    obtain ⟨⟨before, whole, blank⟩, starts⟩ := dropWhile_split isBlank text.toList
    obtain ⟨⟨after, rest, blankToo⟩, ends⟩ :=
      dropRight_split isBlank (text.toList.dropWhile isBlank)
    rw [rest] at whole starts
    have characters : (trim text).toList = dropRight isBlank (text.toList.dropWhile isBlank) :=
      String.toList_ofList
    rw [← characters] at whole starts ends
    refine ⟨⟨before, after, whole, blank, blankToo⟩, ?_, ends⟩
    intro character first
    apply starts
    rw [List.head?_append, first, Option.some_or]

end Texts

end Accounts.Text
