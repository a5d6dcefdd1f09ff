/-!
# Dictionaries in key order

A dictionary is a list of keys with their values that ascends by key, one entry a key. Writing an
entry changes what its own key finds and nothing else, and listing a dictionary shows its keys in
the order of their characters.
-/

namespace FilterQuery.Dictionary

variable {α : Type}

/-- An entry set in a list that ascends by key; an earlier entry of the key is replaced. -/
def insert (key : String) (value : α) : List (String × α) → List (String × α)
  | [] => [(key, value)]
  | (k, v) :: rest =>
    if key < k then (key, value) :: (k, v) :: rest
    else if key = k then (key, value) :: rest
    else (k, v) :: insert key value rest

/-- The value of a key. -/
def find? (key : String) : List (String × α) → Option α
  | [] => none
  | (k, v) :: rest => if k = key then some v else find? key rest

/-- Whether a key has a value. -/
def contains (key : String) (entries : List (String × α)) : Bool := (find? key entries).isSome

/-- The keys in their order. -/
def keys (entries : List (String × α)) : List String := entries.map (·.1)

/-- Entries in any order, sorted by key. Of two entries of one key the later one counts. -/
def ofList (entries : List (String × α)) : List (String × α) :=
  entries.foldl (fun sorted e => insert e.1 e.2 sorted) []

/-- A key finds the value written last. -/
theorem find?_insert_self (key : String) (value : α) (entries : List (String × α)) :
    find? key (insert key value entries) = some value := by
  induction entries with
  | nil => simp [insert, find?]
  | cons e rest ih =>
    obtain ⟨k, v⟩ := e
    rw [insert]
    split
    · simp [find?]
    · split
      · simp [find?]
      · rename_i hne
        rw [find?, if_neg (fun h => hne h.symm), ih]

/-- Writing one key leaves what every other key finds. -/
theorem find?_insert_of_ne {key other : String} (h : key ≠ other) (value : α)
    (entries : List (String × α)) :
    find? other (insert key value entries) = find? other entries := by
  induction entries with
  | nil => simp [insert, find?, h]
  | cons e rest ih =>
    obtain ⟨k, v⟩ := e
    rw [insert]
    split
    · rw [find?, if_neg h]
    · split
      · rename_i heq
        rw [find?, find?, if_neg h, if_neg (heq ▸ h)]
      · rw [find?, find?, ih]

end FilterQuery.Dictionary
