import FilterQuery.Dictionary
import Mathlib.Data.List.Induction

/-!
# The laws of dictionaries

Writing entries in any order gives a dictionary that ascends by key, and each key finds what was
written under it last. A list that ascends already is the dictionary of its own entries.
-/

namespace FilterQuery.Dictionary

variable {α : Type}

/-- Every key comes before the keys behind it. -/
def Ascends (entries : List (String × α)) : Prop := (keys entries).Pairwise (· < ·)

/-- The value that was written last under a key. -/
def lastOf? (key : String) (entries : List (String × α)) : Option α :=
  ((entries.filter (·.1 = key)).getLast?).map (·.2)

theorem ascends_cons_iff {e : String × α} {entries : List (String × α)} :
    Ascends (e :: entries) ↔ (∀ k ∈ keys entries, e.1 < k) ∧ Ascends entries := by
  rw [Ascends, keys, List.map_cons, List.pairwise_cons]
  rfl

/-- Writing an entry adds its key and no other. -/
theorem mem_keys_insert_iff {key k : String} {value : α} {entries : List (String × α)} :
    k ∈ keys (insert key value entries) ↔ k = key ∨ k ∈ keys entries := by
  induction entries with
  | nil => simp [insert, keys]
  | cons e rest ih =>
    obtain ⟨first, v⟩ := e
    simp only [keys, List.map_cons, List.mem_cons] at ih ⊢
    rw [insert]
    by_cases hlt : key < first
    · simp [hlt]
    · by_cases heq : key = first
      · simp [heq]
      · rw [if_neg hlt, if_neg heq, List.map_cons, List.mem_cons, ih]
        exact or_left_comm

/-- Writing an entry keeps the order. -/
theorem Ascends.insert {entries : List (String × α)} (h : Ascends entries) (key : String)
    (value : α) : Ascends (insert key value entries) := by
  induction entries with
  | nil => simp [Dictionary.insert, Ascends, keys]
  | cons e rest ih =>
    obtain ⟨first, v⟩ := e
    obtain ⟨hfirst, hrest⟩ := ascends_cons_iff.mp h
    rw [Dictionary.insert]
    by_cases hlt : key < first
    · rw [if_pos hlt]
      refine ascends_cons_iff.mpr ⟨?_, h⟩
      intro k hk
      rcases List.mem_cons.mp hk with rfl | hk
      · exact hlt
      · exact String.lt_trans hlt (hfirst k hk)
    · by_cases heq : key = first
      · subst heq
        rw [if_neg hlt, if_pos rfl]
        exact ascends_cons_iff.mpr ⟨hfirst, hrest⟩
      · rw [if_neg hlt, if_neg heq]
        refine ascends_cons_iff.mpr ⟨?_, ih hrest⟩
        intro k hk
        rcases mem_keys_insert_iff.mp hk with rfl | hk
        · -- Of two different keys the one that is not before the other comes behind it.
          exact Decidable.byContradiction fun hnot =>
            heq (String.le_antisymm (String.not_lt.mp hnot) (String.not_lt.mp hlt))
        · exact hfirst k hk

theorem ofList_append (entries : List (String × α)) (e : String × α) :
    ofList (entries ++ [e]) = insert e.1 e.2 (ofList entries) := by
  rw [ofList, List.foldl_append]
  rfl

/-- A dictionary ascends whatever it was made of. -/
theorem ascends_ofList (entries : List (String × α)) : Ascends (ofList entries) := by
  induction entries using List.reverseRecOn with
  | nil => exact List.Pairwise.nil
  | append_singleton entries e ih =>
    rw [ofList_append]
    exact ih.insert e.1 e.2

/-- A key behind all others is written at the end. -/
theorem insert_of_forall_lt {key : String} {entries : List (String × α)}
    (h : ∀ k ∈ keys entries, k < key) (value : α) :
    insert key value entries = entries ++ [(key, value)] := by
  induction entries with
  | nil => rfl
  | cons e rest ih =>
    obtain ⟨first, v⟩ := e
    have hfirst : first < key := h first List.mem_cons_self
    have hrest : insert key value rest = rest ++ [(key, value)] :=
      ih fun k hk => h k (List.mem_cons_of_mem first hk)
    have hne : key ≠ first := fun heq => String.ne_of_lt hfirst heq.symm
    rw [insert, if_neg (String.lt_asymm hfirst), if_neg hne, hrest, List.cons_append]

/-- An ascending list is the dictionary of its entries. -/
theorem ofList_of_ascends {entries : List (String × α)} (h : Ascends entries) :
    ofList entries = entries := by
  induction entries using List.reverseRecOn with
  | nil => rfl
  | append_singleton entries e ih =>
    rw [Ascends, keys, List.map_append, List.pairwise_append] at h
    obtain ⟨hentries, -, hlast⟩ := h
    rw [ofList_append, ih hentries]
    exact insert_of_forall_lt (fun k hk => hlast k hk e.1 (List.mem_singleton.mpr rfl)) e.2

/-- A key finds what was written under it last. -/
theorem find?_ofList (key : String) (entries : List (String × α)) :
    find? key (ofList entries) = lastOf? key entries := by
  induction entries using List.reverseRecOn with
  | nil => rfl
  | append_singleton entries e ih =>
    rw [ofList_append, lastOf?, List.filter_append]
    by_cases h : e.1 = key
    · rw [← h, find?_insert_self]
      simp
    · rw [find?_insert_of_ne h, ih]
      simp [h, lastOf?]

/-- What a key finds is an entry. -/
theorem mem_of_find?_eq_some {key : String} {value : α} {entries : List (String × α)}
    (h : find? key entries = some value) : (key, value) ∈ entries := by
  induction entries with
  | nil => cases h
  | cons e rest ih =>
    obtain ⟨first, v⟩ := e
    rw [find?] at h
    split at h
    · rename_i hkey
      cases h
      exact hkey ▸ List.mem_cons_self
    · exact List.mem_cons_of_mem _ (ih h)

/-- In an ascending list every entry is found by its key. -/
theorem find?_eq_some_iff_mem {key : String} {value : α} {entries : List (String × α)}
    (h : Ascends entries) : find? key entries = some value ↔ (key, value) ∈ entries := by
  induction entries with
  | nil => simp [find?]
  | cons e rest ih =>
    obtain ⟨first, v⟩ := e
    obtain ⟨hfirst, hrest⟩ := ascends_cons_iff.mp h
    rw [find?, List.mem_cons, Prod.mk.injEq]
    by_cases hkey : first = key
    · subst hkey
      have hnot : (first, value) ∉ rest := fun hmem =>
        String.lt_irrefl first (hfirst first (List.mem_map_of_mem hmem))
      simp [hnot, eq_comm]
    · have hne : key ≠ first := fun heq => hkey heq.symm
      rw [if_neg hkey, ih hrest]
      simp [hne]

/-- The keys of a list stay when its values change. -/
theorem find?_map {β : Type} (f : α → β) (key : String) (entries : List (String × α)) :
    find? key (entries.map fun e => (e.1, f e.2)) = (find? key entries).map f := by
  induction entries with
  | nil => rfl
  | cons e rest ih =>
    rw [List.map_cons, find?, find?, ih]
    by_cases h : e.1 = key
    · simp [h]
    · simp [h]

end FilterQuery.Dictionary
