/-!
# Tables

A table holds one value for each of finitely many keys. What it holds is seen through `get?`; the
lemmas say what each change does to that view.
-/

namespace Bookshop

/-- Values under keys. The first entry of a key is the one that counts. -/
structure Table (κ α : Type) where
  entries : List (κ × α)
deriving Repr

namespace Table

variable {κ α : Type} [DecidableEq κ]

def empty : Table κ α := ⟨[]⟩

def get? (table : Table κ α) (key : κ) : Option α :=
  (table.entries.find? (·.1 = key)).map Prod.snd

def erase (table : Table κ α) (key : κ) : Table κ α :=
  ⟨table.entries.filter (·.1 ≠ key)⟩

/-- The table with the value under the key, in place of any that was there. -/
def insert (table : Table κ α) (key : κ) (value : α) : Table κ α :=
  ⟨(key, value) :: (table.erase key).entries⟩

def keys (table : Table κ α) : List κ := table.entries.map Prod.fst

@[simp] theorem get?_empty (key : κ) : (empty : Table κ α).get? key = none := rfl

theorem get?_erase (table : Table κ α) (key other : κ) :
    (table.erase key).get? other = if other = key then none else table.get? other := by
  unfold get? erase
  split
  · next h =>
    subst h
    simp [List.find?_filter, List.find?_eq_none]
  · next h =>
    rw [List.find?_filter]
    congr 2
    funext entry
    by_cases hentry : entry.1 = other
    · simp [hentry, h]
    · simp [hentry]

@[simp] theorem get?_erase_self (table : Table κ α) (key : κ) :
    (table.erase key).get? key = none := by simp [get?_erase]

theorem get?_insert (table : Table κ α) (key other : κ) (value : α) :
    (table.insert key value).get? other = if other = key then some value else table.get? other := by
  by_cases h : other = key
  · subst h; simp [get?, insert]
  · have hkey : ¬ key = other := fun e => h e.symm
    have : (table.insert key value).get? other = (table.erase key).get? other := by
      simp [get?, insert, hkey]
    rw [this, get?_erase, if_neg h, if_neg h]

@[simp] theorem get?_insert_self (table : Table κ α) (key : κ) (value : α) :
    (table.insert key value).get? key = some value := by simp [get?_insert]

theorem erase_eq_self {table : Table κ α} {key : κ} (h : table.get? key = none) :
    table.erase key = table := by
  have hall : ∀ entry ∈ table.entries, entry.1 ≠ key := by
    simpa [get?, List.find?_eq_none] using h
  unfold erase
  congr 1
  rw [List.filter_eq_self]
  intro entry hentry
  simpa using hall entry hentry

theorem erase_insert_self (table : Table κ α) (key : κ) (value : α) :
    (table.insert key value).erase key = table.erase key := by
  simp [erase, insert]

theorem keys_insert (table : Table κ α) (key : κ) (value : α) :
    (table.insert key value).keys = key :: (table.erase key).keys := rfl

theorem nodup_keys_erase {table : Table κ α} (h : table.keys.Nodup) (key : κ) :
    (table.erase key).keys.Nodup :=
  h.sublist (List.filter_sublist.map Prod.fst)

theorem nodup_keys_insert {table : Table κ α} (h : table.keys.Nodup) (key : κ) (value : α) :
    (table.insert key value).keys.Nodup := by
  rw [keys_insert, List.nodup_cons]
  refine ⟨?_, nodup_keys_erase h key⟩
  simp [keys, erase]

end Table

end Bookshop
