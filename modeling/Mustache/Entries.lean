/-!
# Entries

Keyed collections are lists of entries in the order of insertion.  Inserting
under a key that is there already replaces the value and keeps the place.
-/

namespace Mustache

abbrev Entries (α : Type) := List (String × α)

namespace Entries

variable {α : Type}

def insert (entries : Entries α) (key : String) (value : α) : Entries α :=
  match entries with
  | [] => [(key, value)]
  | (k, v) :: rest => if k = key then (k, value) :: rest else (k, v) :: insert rest key value

/-- The entries with each key once, in its first place and with its last value. -/
def ofList (entries : List (String × α)) : Entries α :=
  entries.foldl (fun acc (key, value) => insert acc key value) []

def erase (entries : Entries α) (key : String) : Entries α :=
  entries.filter (·.1 ≠ key)

theorem lookup_cons (k key : String) (value : α) (rest : Entries α) :
    List.lookup k ((key, value) :: rest) = if k = key then some value else List.lookup k rest := by
  by_cases h : k = key
  · simp [h]
  · have hne : (k == key) = false := by simpa using h
    simp [List.lookup_cons, hne, h]

theorem lookup_insert (entries : Entries α) (key : String) (value : α) (k : String) :
    (entries.insert key value).lookup k = if k = key then some value else entries.lookup k := by
  induction entries with
  | nil => simp [insert, lookup_cons]
  | cons e rest ih =>
      obtain ⟨k', v⟩ := e
      by_cases hk : k' = key
      · subst hk
        by_cases h : k = k' <;> simp [insert, lookup_cons, h]
      · by_cases h : k = k'
        · subst h
          simp [insert, hk]
        · simp [insert, lookup_cons, hk, h, ih]

theorem lookup_erase (entries : Entries α) (key k : String) :
    (entries.erase key).lookup k = if k = key then none else entries.lookup k := by
  induction entries with
  | nil => simp [erase]
  | cons e rest ih =>
      obtain ⟨k', v⟩ := e
      unfold erase at ih ⊢
      by_cases hk : k' = key
      · rw [List.filter_cons_of_neg (by simpa using hk), ih, lookup_cons]
        by_cases h : k = key <;> simp [h, hk]
      · rw [List.filter_cons_of_pos (by simpa using hk), lookup_cons, ih, lookup_cons]
        by_cases h : k = key
        · simp [h, Ne.symm hk]
        · simp [h]

end Entries
end Mustache
