import Accounts.Client.Environment
import Accounts.Proofs.Decimal
import Accounts.Proofs.Text.Trimming

/-!
Settings from the environment. Whether there are any is up to the time limit alone: it is not set,
or it spells a number of seconds that fits. If it spells none, what is wrong with it is what comes
first in it. The base address is taken over from the other variable, and neither variable has a say
in what is made of the other one.
-/

namespace Accounts.Client.Environment

open Accounts.Text

/-! Digits, from left to right. -/
section Digits

theorem readDigits_cons (character : Char) (rest : List Char) (total : Nat)
    (digit : character.isDigit = true) :
    readDigits total (character :: rest) =
      if 10 * total + (character.toNat - '0'.toNat) < secondsSpan then
        readDigits (10 * total + (character.toNat - '0'.toNat)) rest
      else .error .tooLarge := by
  rw [readDigits, if_pos digit, Nat.mul_comm total 10]
  rfl

theorem readDigits_ok (characters : List Char) (total seconds : Nat) (small : total < secondsSpan) :
    readDigits total characters = .ok seconds ↔
      (∀ character ∈ characters, character.isDigit = true) ∧
        Nat.ofDigitChars 10 characters total = seconds ∧ seconds < secondsSpan := by
  induction characters generalizing total with
  | nil =>
    simp only [readDigits, Except.ok.injEq, Nat.ofDigitChars_nil]
    constructor
    · rintro rfl
      exact ⟨by simp, rfl, small⟩
    · exact fun worth => worth.2.1
  | cons character rest ih =>
    by_cases digit : character.isDigit = true
    · rw [readDigits_cons character rest total digit, Nat.ofDigitChars_cons]
      by_cases fits : 10 * total + (character.toNat - '0'.toNat) < secondsSpan
      · rw [if_pos fits, ih _ fits]
        simp only [List.forall_mem_cons, digit, true_and]
      · -- What has grown too large does not become smaller again.
        rw [if_neg fits]
        have grown := Decimal.ofDigitChars_grows rest (10 * total + (character.toNat - '0'.toNat))
        constructor
        · simp
        · rintro ⟨_, worth, below⟩
          omega
    · rw [readDigits, if_neg digit]
      simp [digit]

/-- The first prefix that is too large decides, unless something else than a digit comes before its
end. -/
theorem readDigits_tooLarge (characters : List Char) (total : Nat) (small : total < secondsSpan) :
    readDigits total characters = .error .tooLarge ↔
      ∃ digits rest, characters = digits ++ rest ∧
        (∀ character ∈ digits, character.isDigit = true) ∧
          secondsSpan ≤ Nat.ofDigitChars 10 digits total := by
  induction characters generalizing total with
  | nil =>
    constructor
    · simp [readDigits]
    · rintro ⟨digits, rest, whole, _, large⟩
      obtain ⟨rfl, rfl⟩ := List.nil_eq_append_iff.mp whole
      rw [Nat.ofDigitChars_nil] at large
      omega
  | cons character later ih =>
    constructor
    · intro fault
      by_cases digit : character.isDigit = true
      · rw [readDigits_cons character later total digit] at fault
        split at fault
        · rename_i fits
          obtain ⟨digits, rest, rfl, all, large⟩ := (ih _ fits).mp fault
          refine ⟨character :: digits, rest, rfl, List.forall_mem_cons.mpr ⟨digit, all⟩, ?_⟩
          rwa [Nat.ofDigitChars_cons]
        · rename_i large
          refine ⟨[character], later, rfl, by simpa using digit, ?_⟩
          rw [Nat.ofDigitChars_cons, Nat.ofDigitChars_nil]
          exact Nat.not_lt.mp large
      · rw [readDigits, if_neg digit] at fault
        cases fault
    · rintro ⟨digits, rest, whole, all, large⟩
      cases digits with
      | nil =>
        rw [Nat.ofDigitChars_nil] at large
        omega
      | cons first more =>
        obtain ⟨rfl, rfl⟩ := List.cons.inj whole
        obtain ⟨digit, others⟩ := List.forall_mem_cons.mp all
        rw [readDigits_cons character _ total digit]
        rw [Nat.ofDigitChars_cons] at large
        split
        · rename_i fits
          exact (ih _ fits).mpr ⟨more, rest, rfl, others, large⟩
        · rfl

theorem readDigits_given (characters : List Char) (total : Nat) :
    readDigits total characters ≠ .error .empty := by
  induction characters generalizing total with
  | nil => simp [readDigits]
  | cons character rest ih =>
    rw [readDigits]
    split
    · dsimp only
      split
      · exact ih _
      · simp
    · simp

end Digits

/-! Numbers of seconds. -/
section Numbers

/-- What follows the plus sign of a number, or the number if it has none. -/
def unsigned : List Char → List Char
  | '+' :: rest => rest
  | characters => characters

structure IsNumeral (characters : List Char) (value : Nat) : Prop where
  nonempty : characters ≠ []
  digits : ∀ character ∈ characters, character.isDigit = true
  worth : Nat.ofDigitChars 10 characters 0 = value

theorem secondsSpan_eq : secondsSpan = UInt64.size := rfl

theorem readSeconds_eq (text : String) : readSeconds text =
    if text = "" then .error .empty
    else if unsigned text.toList = [] then .error .invalidDigit
    else readDigits 0 (unsigned text.toList) := by
  have empty : text = "" ↔ text.toList = [] := String.toList_eq_nil_iff.symm
  simp only [readSeconds, empty]
  split
  · rename_i none
    rw [if_pos none]
  · rename_i plus
    rw [plus]
    rfl
  · rename_i rest more signed
    have given : rest ≠ [] := more
    rw [signed, if_neg (List.cons_ne_nil _ _), unsigned, if_neg given]
  · rename_i given _ plain
    have same : unsigned text.toList = text.toList := by
      unfold unsigned
      split
      · rename_i rest signed
        exact absurd signed (plain rest)
      · rfl
    rw [same, if_neg given, if_neg given]

variable (text : String)

theorem readSeconds_ok (seconds : Nat) : readSeconds text = .ok seconds ↔
    IsNumeral (unsigned text.toList) seconds ∧ seconds < UInt64.size := by
  rw [readSeconds_eq, ← secondsSpan_eq]
  split
  · rename_i empty
    simp only [empty, reduceCtorEq, false_iff]
    exact fun numeral => numeral.1.nonempty rfl
  · split
    · rename_i none
      simp only [reduceCtorEq, false_iff]
      exact fun numeral => numeral.1.nonempty none
    · rename_i given
      rw [readDigits_ok _ 0 seconds (by decide)]
      constructor
      · rintro ⟨all, worth, below⟩
        exact ⟨⟨given, all, worth⟩, below⟩
      · rintro ⟨⟨_, all, worth⟩, below⟩
        exact ⟨all, worth, below⟩

theorem readSeconds_empty : readSeconds text = .error .empty ↔ text = "" := by
  rw [readSeconds_eq]
  split
  · rename_i empty
    simp [empty]
  · rename_i given
    split
    · simp [given]
    · exact iff_of_false (readDigits_given _ 0) given

theorem readSeconds_tooLarge : readSeconds text = .error .tooLarge ↔
    ∃ digits rest value, unsigned text.toList = digits ++ rest ∧ IsNumeral digits value ∧
      UInt64.size ≤ value := by
  -- Where there is nothing to read there is no numeral, as it would not be empty.
  have absent : unsigned text.toList = [] → ¬ ∃ digits rest value,
      unsigned text.toList = digits ++ rest ∧ IsNumeral digits value ∧ UInt64.size ≤ value := by
    rintro none ⟨digits, rest, value, whole, numeral, _⟩
    rw [none] at whole
    exact numeral.nonempty (List.nil_eq_append_iff.mp whole).1
  rw [readSeconds_eq]
  split
  · rename_i empty
    exact iff_of_false (by simp) (absent (by rw [empty]; rfl))
  · split
    · rename_i none
      exact iff_of_false (by simp) (absent none)
    · rw [readDigits_tooLarge _ 0 (by decide), secondsSpan_eq]
      constructor
      · rintro ⟨digits, rest, whole, all, large⟩
        refine ⟨digits, rest, _, whole, ⟨?_, all, rfl⟩, large⟩
        rintro rfl
        exact absurd large (by decide)
      · rintro ⟨digits, rest, value, whole, ⟨_, all, rfl⟩, large⟩
        exact ⟨digits, rest, whole, all, large⟩

end Numbers

/-! Time limits. -/
section Limits

/-- Whether a text spells a number of seconds that fits a word of 64 bits: with white space around
it or without, with one plus sign or none, and with any number of zeros in front. -/
def Spells (text : String) (seconds : Nat) : Prop :=
  ∃ trimmed, IsTrimmed text trimmed ∧ IsNumeral (unsigned trimmed.toList) seconds ∧
    seconds < UInt64.size

/-- Whether a text begins, after white space and a plus sign, with digits that are worth more than
such a word holds. -/
def Overflows (text : String) : Prop :=
  ∃ trimmed digits rest value, IsTrimmed text trimmed ∧
    unsigned trimmed.toList = digits ++ rest ∧ IsNumeral digits value ∧ UInt64.size ≤ value

variable (environment : Environment)

theorem spells_iff (text : String) (seconds : Nat) :
    readSeconds (trim text) = .ok seconds ↔ Spells text seconds := by
  simp only [Spells, isTrimmed_iff, readSeconds_ok, exists_eq_left']

theorem overflows_iff (text : String) :
    readSeconds (trim text) = .error .tooLarge ↔ Overflows text := by
  simp only [Overflows, isTrimmed_iff, readSeconds_tooLarge, exists_and_left, exists_eq_left']

theorem timeoutSeconds_ok (seconds : Nat) : environment.timeoutSeconds = .ok seconds ↔
    (environment.timeout = none ∧ seconds = 30) ∨
      ∃ text, environment.timeout = some text ∧ Spells text seconds := by
  unfold timeoutSeconds
  cases environment.timeout with
  | none => simp [eq_comm]
  | some text =>
    simp only [← spells_iff]
    cases read : readSeconds (trim text) <;> simp [read]

theorem timeoutSeconds_error (failure : Failure) : environment.timeoutSeconds = .error failure ↔
    ∃ text fault, environment.timeout = some text ∧ readSeconds (trim text) = .error fault ∧
      failure = .config (timeoutName ++ "=" ++ text ++ ": " ++ fault.message) := by
  unfold timeoutSeconds
  cases environment.timeout with
  | none => simp
  | some text =>
    cases read : readSeconds (trim text) <;> simp [read, eq_comm]

theorem settings_eq : environment.settings = environment.timeoutSeconds.map fun seconds =>
    { Settings.ofBasePath (environment.basePath.getD defaultBasePath) with
      timeoutSeconds := seconds } := by
  unfold settings
  cases environment.timeoutSeconds <;> rfl

end Limits

/-! Variables. -/
section Variables

/-- Whether a variable counts as not set: there is no text that it holds. -/
def Unset (held : Option (List UInt8)) : Prop := ∀ text, held ≠ some (bytes text)

theorem held_iff (held : Option (List UInt8)) (text : String) :
    held.bind ofBytes? = some text ↔ held = some (bytes text) := by
  cases held with
  | none => simp
  | some encoded =>
    rw [Option.bind_some, ofBytes?_eq_some_iff, Option.some_inj, eq_comm]

theorem unset_iff (held : Option (List UInt8)) : held.bind ofBytes? = none ↔ Unset held := by
  rw [Option.eq_none_iff_forall_ne_some]
  exact forall_congr' fun text => not_congr (held_iff held text)

variable (basePath timeout : Option (List UInt8))

theorem ofBytes_ok (settings : Settings) : (ofBytes basePath timeout).settings = .ok settings ↔
    ∃ seconds, (ofBytes basePath timeout).timeoutSeconds = .ok seconds ∧
      settings = { Settings.ofBasePath ((basePath.bind ofBytes?).getD defaultBasePath) with
        timeoutSeconds := seconds } := by
  rw [settings_eq]
  cases (ofBytes basePath timeout).timeoutSeconds with
  | error failure => simp [Except.map]
  | ok seconds => simp [Except.map, ofBytes, eq_comm]

theorem ofBytes_error (failure : Failure) :
    (ofBytes basePath timeout).settings = .error failure ↔
      (ofBytes basePath timeout).timeoutSeconds = .error failure := by
  rw [settings_eq]
  cases (ofBytes basePath timeout).timeoutSeconds <;> simp [Except.map]

theorem ofBytes_seconds (seconds : Nat) :
    (ofBytes basePath timeout).timeoutSeconds = .ok seconds ↔
      (Unset timeout ∧ seconds = 30) ∨
        ∃ text, timeout = some (bytes text) ∧ Spells text seconds := by
  simp only [timeoutSeconds_ok, ofBytes, unset_iff, held_iff]

theorem address_given : ∃ given,
    (basePath = some (bytes given) ∨ (Unset basePath ∧ given = defaultBasePath)) ∧
      (basePath.bind ofBytes?).getD defaultBasePath = given := by
  cases read : basePath.bind ofBytes? with
  | none => exact ⟨_, Or.inr ⟨(unset_iff basePath).mp read, rfl⟩, rfl⟩
  | some given => exact ⟨given, Or.inl ((held_iff basePath given).mp read), rfl⟩

end Variables

/-- What is made of an environment in which the two variables hold these bytes. -/
structure ReadByRule (basePath timeout : Option (List UInt8)) : Prop where
  /-- There are settings if the time limit is not set, or spells a number that fits. -/
  accepts : (∃ settings, (ofBytes basePath timeout).settings = .ok settings) ↔
    Unset timeout ∨ ∃ text seconds, timeout = some (bytes text) ∧ Spells text seconds
  /-- The number is taken as it is spelled. -/
  limit : ∀ settings, (ofBytes basePath timeout).settings = .ok settings →
    (Unset timeout ∧ settings.timeoutSeconds = 30) ∨
      ∃ text, timeout = some (bytes text) ∧ Spells text settings.timeoutSeconds
  /-- The address is taken over without the slashes at its end. -/
  address : ∀ settings, (ofBytes basePath timeout).settings = .ok settings →
    ∃ given, (basePath = some (bytes given) ∨ (Unset basePath ∧ given = defaultBasePath)) ∧
      IsCut '/' given settings.basePath
  /-- What is no part of the environment is as it is without one. -/
  others : ∀ settings, (ofBytes basePath timeout).settings = .ok settings →
    settings.headers = [] ∧ settings.success = ⟨200, 300⟩
  /-- A failure shows the text as it is and says what is wrong with it: there is nothing but white
  space, or digits at its beginning are worth too much, or else something is no digit. -/
  refuses : ∀ failure, (ofBytes basePath timeout).settings = .error failure →
    ∃ (text : String) (fault : NumberFault), timeout = some (bytes text) ∧
      failure = .config (timeoutName ++ "=" ++ text ++ ": " ++ fault.message) ∧
      (fault = .empty ↔ IsTrimmed text "") ∧ (fault = .tooLarge ↔ Overflows text) ∧
      (fault = .invalidDigit ↔ ¬ IsTrimmed text "" ∧ ¬ Overflows text)
  /-- The address has no say in what is made of the time limit. -/
  limitApart : ∀ other, (ofBytes other timeout).settings.map (·.timeoutSeconds) =
    (ofBytes basePath timeout).settings.map (·.timeoutSeconds)
  /-- Nor has the time limit in what is made of the address. -/
  addressApart : ∀ other settings another, (ofBytes basePath timeout).settings = .ok settings →
    (ofBytes basePath other).settings = .ok another → another.basePath = settings.basePath

theorem read_by_rule (basePath timeout : Option (List UInt8)) : ReadByRule basePath timeout := by
  constructor
  case accepts =>
    simp only [ofBytes_ok, ofBytes_seconds]
    constructor
    · rintro ⟨settings, seconds, ⟨unset, _⟩ | ⟨text, holds, spells⟩, _⟩
      · exact Or.inl unset
      · exact Or.inr ⟨text, seconds, holds, spells⟩
    · rintro (unset | ⟨text, seconds, holds, spells⟩)
      · exact ⟨_, 30, Or.inl ⟨unset, rfl⟩, rfl⟩
      · exact ⟨_, seconds, Or.inr ⟨text, holds, spells⟩, rfl⟩
  case limit =>
    intro settings read
    obtain ⟨seconds, limit, rfl⟩ := (ofBytes_ok basePath timeout settings).mp read
    exact (ofBytes_seconds basePath timeout seconds).mp limit
  case address =>
    intro settings read
    obtain ⟨seconds, _, rfl⟩ := (ofBytes_ok basePath timeout settings).mp read
    obtain ⟨given, source, taken⟩ := address_given basePath
    refine ⟨given, source, (isCut_iff '/' given _).mpr ?_⟩
    rw [taken]
    rfl
  case others =>
    intro settings read
    obtain ⟨seconds, _, rfl⟩ := (ofBytes_ok basePath timeout settings).mp read
    exact ⟨rfl, rfl⟩
  case refuses =>
    intro failure read
    rw [ofBytes_error, timeoutSeconds_error] at read
    obtain ⟨text, fault, holds, fails, rfl⟩ := read
    have empty : fault = .empty ↔ IsTrimmed text "" := by
      rw [isTrimmed_iff, ← readSeconds_empty, fails, Except.error.injEq]
    have large : fault = .tooLarge ↔ Overflows text := by
      rw [← overflows_iff, fails, Except.error.injEq]
    refine ⟨text, fault, (held_iff timeout text).mp holds, rfl, empty, large, ?_⟩
    rw [← empty, ← large]
    cases fault <;> simp
  case limitApart =>
    intro other
    rw [settings_eq, settings_eq]
    have same : (ofBytes other timeout).timeoutSeconds =
        (ofBytes basePath timeout).timeoutSeconds := rfl
    rw [same]
    cases (ofBytes basePath timeout).timeoutSeconds <;> rfl
  case addressApart =>
    intro other settings another read readToo
    obtain ⟨_, _, rfl⟩ := (ofBytes_ok basePath timeout settings).mp read
    obtain ⟨_, _, rfl⟩ := (ofBytes_ok basePath other another).mp readToo
    rfl

/-- A bad character behind the digit that is one too many, and one before it. -/
example : readSeconds (trim "\u2003+0018446744073709551616x ") = .error .tooLarge ∧
    readSeconds (trim "1844674407370955161x6") = .error .invalidDigit := by
  decide +kernel

end Accounts.Client.Environment
