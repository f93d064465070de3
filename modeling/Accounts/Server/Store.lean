import Accounts.Server.Account

/-!
The server's store of accounts, each under a name. `find?` is the view in which operations are
described: `insert` and `erase` change it at one name only.
-/

namespace Accounts.Server

structure Store where
  entries : List (String × Account) := []
  deriving DecidableEq

namespace Store

def empty : Store := {}

def search (name : String) : List (String × Account) → Option Account
  | [] => none
  | (key, account) :: rest => if name = key then some account else search name rest

def find? (store : Store) (name : String) : Option Account := search name store.entries

def erase (store : Store) (name : String) : Store :=
  ⟨store.entries.filter fun entry => entry.1 != name⟩

def insert (store : Store) (name : String) (account : Account) : Store :=
  ⟨(name, account) :: (store.erase name).entries⟩

def size (store : Store) : Nat := store.entries.length

theorem search_filter_ne (entries : List (String × Account)) (name other : String) :
    search other (entries.filter fun entry => entry.1 != name) =
      if other = name then none else search other entries := by
  induction entries with
  | nil => simp [search]
  | cons entry rest ih =>
    by_cases here : entry.1 = name
    · simp only [here, bne_self_eq_false, Bool.false_eq_true, not_false_eq_true,
        List.filter_cons_of_neg, ih]
      by_cases same : other = name <;> simp [search, here, same]
    · by_cases same : other = entry.1
      · simp [search, same, here]
      · simp [search, same, here, ih]

theorem find?_erase (store : Store) (name other : String) :
    (store.erase name).find? other = if other = name then none else store.find? other :=
  search_filter_ne store.entries name other

theorem find?_insert (store : Store) (name other : String) (account : Account) :
    (store.insert name account).find? other =
      if other = name then some account else store.find? other := by
  by_cases same : other = name
  · simp [find?, insert, search, same]
  · have erased := find?_erase store name other
    simp only [find?, same] at erased
    simpa [find?, insert, search, same] using erased

end Store

end Accounts.Server
