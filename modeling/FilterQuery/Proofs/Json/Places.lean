import FilterQuery.Proofs.Json.Depth
import FilterQuery.Proofs.Json.WellFormed

/-!
# Places in a JSON value

A place is the way from the root of a value down to one of the values below it. `texts` lists the
strings among them with their places, items in their order and members by key. Changing strings one
by one keeps every place, every key, and the depth.
-/

namespace FilterQuery.Json

/-- A step from a value to one of its parts. -/
inductive Step where
  /-- To the item at a position. -/
  | item (i : Nat)
  /-- To the member of a key. -/
  | member (key : String)
  deriving DecidableEq

/-- Which of two steps from one value comes first: items go by position, members by key. -/
inductive Step.Before : Step → Step → Prop where
  /-- Items. -/
  | item {i k : Nat} (h : i < k) : Before (.item i) (.item k)
  /-- Members. -/
  | member {k l : String} (h : k < l) : Before (.member k) (.member l)

/-- The steps from the root down to a value. -/
abbrev Place := List Step

/-- Which of two places comes first: it depends on the first step in which they differ. -/
def Place.Before (p q : Place) : Prop := List.Lex Step.Before p q

/-- The part that a step leads to. -/
def part? : Json → Step → Option Json
  | .array items, .item i => items[i]?
  | .object members, .member key => Dictionary.find? key members
  | _, _ => none

/-- The value at a place. -/
def at? : Json → Place → Option Json
  | j, [] => some j
  | j, step :: place => (j.part? step).bind (at? · place)

mutual

/-- The strings in a value with their places, in reading order. -/
def texts : Json → List (Place × String)
  | .string s => [([], s)]
  | .array items => textsOfItems 0 items
  | .object members => textsOfMembers members
  | _ => []

/-- The strings in some items, the first of which stands at a position. -/
def textsOfItems (i : Nat) : List Json → List (Place × String)
  | [] => []
  | j :: rest => (texts j).map (fun t => (.item i :: t.1, t.2)) ++ textsOfItems (i + 1) rest

/-- The strings in some members; keys are none of them. -/
def textsOfMembers : List (String × Json) → List (Place × String)
  | [] => []
  | (key, j) :: rest =>
    (texts j).map (fun t => (.member key :: t.1, t.2)) ++ textsOfMembers rest

end

mutual

/-- A value with each of its strings changed by a function. -/
def mapStrings (f : String → String) : Json → Json
  | .string s => .string (f s)
  | .array items => .array (mapItems f items)
  | .object members => .object (mapMembers f members)
  | .null => .null
  | .bool b => .bool b
  | .number n => .number n

/-- Items with each of their strings changed. -/
def mapItems (f : String → String) : List Json → List Json
  | [] => []
  | j :: rest => mapStrings f j :: mapItems f rest

/-- Members with each string in their values changed. -/
def mapMembers (f : String → String) : List (String × Json) → List (String × Json)
  | [] => []
  | (key, j) :: rest => (key, mapStrings f j) :: mapMembers f rest

end

variable {f : String → String}

theorem mapItems_eq (items : List Json) : mapItems f items = items.map (mapStrings f) := by
  induction items with
  | nil => rfl
  | cons j rest ih => rw [mapItems, ih, List.map_cons]

theorem length_mapItems (items : List Json) : (mapItems f items).length = items.length := by
  rw [mapItems_eq, List.length_map]

theorem mapMembers_eq (members : List (String × Json)) :
    mapMembers f members = members.map fun m => (m.1, m.2.mapStrings f) := by
  induction members with
  | nil => rfl
  | cons m rest ih => rw [mapMembers, ih, List.map_cons]

theorem find?_mapMembers (key : String) (members : List (String × Json)) :
    Dictionary.find? key (mapMembers f members) =
      (Dictionary.find? key members).map (mapStrings f) := by
  rw [mapMembers_eq]
  exact Dictionary.find?_map _ key members

theorem isScalar_mapStrings (j : Json) : (j.mapStrings f).isScalar = j.isScalar := by
  cases j <;> rfl

mutual

/-- Changing strings keeps the depth. -/
theorem depth_mapStrings : (j : Json) → (j.mapStrings f).depth = j.depth
  | .string _ | .null | .bool _ | .number _ => rfl
  | .array items => by rw [mapStrings, depth, depth, depthOfItems_mapItems items]
  | .object members => by rw [mapStrings, depth, depth, depthOfMembers_mapMembers members]

theorem depthOfItems_mapItems : (items : List Json) →
    depthOfItems (mapItems f items) = depthOfItems items
  | [] => rfl
  | j :: rest => by
    rw [mapItems, depthOfItems, depthOfItems, depth_mapStrings j, depthOfItems_mapItems rest]

theorem depthOfMembers_mapMembers : (members : List (String × Json)) →
    depthOfMembers (mapMembers f members) = depthOfMembers members
  | [] => rfl
  | (_, j) :: rest => by
    rw [mapMembers, depthOfMembers, depthOfMembers, depth_mapStrings j,
      depthOfMembers_mapMembers rest]

end

mutual

/-- Every string is changed where it stands, and no other one comes up. -/
theorem texts_mapStrings : (j : Json) →
    (j.mapStrings f).texts = j.texts.map fun t => (t.1, f t.2)
  | .string _ | .null | .bool _ | .number _ => rfl
  | .array items => by rw [mapStrings, texts, texts, textsOfItems_mapItems 0 items]
  | .object members => by rw [mapStrings, texts, texts, textsOfMembers_mapMembers members]

theorem textsOfItems_mapItems : (i : Nat) → (items : List Json) →
    textsOfItems i (mapItems f items) = (textsOfItems i items).map fun t => (t.1, f t.2)
  | _, [] => rfl
  | i, j :: rest => by
    rw [mapItems, textsOfItems, textsOfItems, texts_mapStrings j,
      textsOfItems_mapItems (i + 1) rest]
    simp only [List.map_append, List.map_map, Function.comp_def]

theorem textsOfMembers_mapMembers : (members : List (String × Json)) →
    textsOfMembers (mapMembers f members) = (textsOfMembers members).map fun t => (t.1, f t.2)
  | [] => rfl
  | (_, j) :: rest => by
    rw [mapMembers, textsOfMembers, textsOfMembers, texts_mapStrings j,
      textsOfMembers_mapMembers rest]
    simp only [List.map_append, List.map_map, Function.comp_def]

end

mutual

/-- A function that keeps each string in a value keeps the value. -/
theorem mapStrings_eq_self : {j : Json} → (∀ t ∈ j.texts, f t.2 = t.2) → j.mapStrings f = j
  | .string s, h => by rw [mapStrings, h ([], s) List.mem_cons_self]
  | .null, _ | .bool _, _ | .number _, _ => rfl
  | .array items, h => by rw [mapStrings, mapItems_eq_self h]
  | .object members, h => by rw [mapStrings, mapMembers_eq_self h]

theorem mapItems_eq_self : {i : Nat} → {items : List Json} →
    (∀ t ∈ textsOfItems i items, f t.2 = t.2) → mapItems f items = items
  | _, [], _ => rfl
  | i, j :: rest, h => by
    rw [textsOfItems, List.forall_mem_append, List.forall_mem_map] at h
    rw [mapItems, mapStrings_eq_self h.1, mapItems_eq_self h.2]

theorem mapMembers_eq_self : {members : List (String × Json)} →
    (∀ t ∈ textsOfMembers members, f t.2 = t.2) → mapMembers f members = members
  | [], _ => rfl
  | (key, j) :: rest, h => by
    rw [textsOfMembers, List.forall_mem_append, List.forall_mem_map] at h
    rw [mapMembers, mapStrings_eq_self h.1, mapMembers_eq_self h.2]

end

/-! ### Places of strings -/

mutual

/-- The strings that are listed are those that their places lead to. -/
theorem mem_texts_iff : {j : Json} → j.WellFormed → {place : Place} → {s : String} →
    ((place, s) ∈ j.texts ↔ j.at? place = some (.string s))
  | .string t, _, place, s => by
    cases place with
    | nil => simp [texts, at?, eq_comm]
    | cons step place => simp [texts, at?, part?]
  | .null, _, place, s | .bool _, _, place, s | .number _, _, place, s => by
    cases place with
    | nil => simp [texts, at?]
    | cons step place => simp [texts, at?, part?]
  | .array items, hj, place, s => by
    rw [texts, mem_textsOfItems_iff hj]
    cases place with
    | nil => simp [at?]
    | cons step place =>
      cases step with
      | item i => simp [at?, part?, Option.bind_eq_some_iff]
      | member key => simp [at?, part?]
  | .object members, hj, place, s => by
    rw [texts, mem_textsOfMembers_iff hj.2]
    cases place with
    | nil => simp [at?]
    | cons step place =>
      cases step with
      | item i => simp [at?, part?]
      | member key =>
        simp [at?, part?, Option.bind_eq_some_iff, Dictionary.find?_eq_some_iff_mem hj.1]

theorem mem_textsOfItems_iff : {items : List Json} → WellFormedItems items → {i : Nat} →
    {place : Place} → {s : String} → ((place, s) ∈ textsOfItems i items ↔
      ∃ k j rest, items[k]? = some j ∧ place = .item (i + k) :: rest ∧
        j.at? rest = some (.string s))
  | [], _, i, place, s => by simp [textsOfItems]
  | j :: items, hitems, i, place, s => by
    have hfirst : (place, s) ∈ (texts j).map (fun t => (Step.item i :: t.1, t.2)) ↔
        ∃ rest, place = .item i :: rest ∧ j.at? rest = some (.string s) := by
      rw [List.mem_map]
      constructor
      · rintro ⟨⟨rest, t⟩, hmem, heq⟩
        cases heq
        exact ⟨rest, rfl, (mem_texts_iff hitems.1).mp hmem⟩
      · rintro ⟨rest, rfl, hat⟩
        exact ⟨(rest, s), (mem_texts_iff hitems.1).mpr hat, rfl⟩
    rw [textsOfItems, List.mem_append, hfirst, mem_textsOfItems_iff hitems.2]
    constructor
    · rintro (⟨rest, hplace, hat⟩ | ⟨k, item, rest, hk, hplace, hat⟩)
      · exact ⟨0, j, rest, rfl, hplace, hat⟩
      · exact ⟨k + 1, item, rest, hk, by rw [hplace, Nat.add_right_comm, Nat.add_assoc], hat⟩
    · rintro ⟨k, item, rest, hk, hplace, hat⟩
      cases k with
      | zero =>
        cases hk
        exact .inl ⟨rest, hplace, hat⟩
      | succ k =>
        exact .inr ⟨k, item, rest, hk, by rw [hplace, Nat.add_right_comm, Nat.add_assoc], hat⟩

theorem mem_textsOfMembers_iff : {members : List (String × Json)} → WellFormedMembers members →
    {place : Place} → {s : String} → ((place, s) ∈ textsOfMembers members ↔
      ∃ key j rest, (key, j) ∈ members ∧ place = .member key :: rest ∧
        j.at? rest = some (.string s))
  | [], _, place, s => by simp [textsOfMembers]
  | (key, j) :: members, hmembers, place, s => by
    have hfirst : (place, s) ∈ (texts j).map (fun t => (Step.member key :: t.1, t.2)) ↔
        ∃ rest, place = .member key :: rest ∧ j.at? rest = some (.string s) := by
      rw [List.mem_map]
      constructor
      · rintro ⟨⟨rest, t⟩, hmem, heq⟩
        cases heq
        exact ⟨rest, rfl, (mem_texts_iff hmembers.1).mp hmem⟩
      · rintro ⟨rest, rfl, hat⟩
        exact ⟨(rest, s), (mem_texts_iff hmembers.1).mpr hat, rfl⟩
    rw [textsOfMembers, List.mem_append, hfirst, mem_textsOfMembers_iff hmembers.2]
    constructor
    · rintro (⟨rest, hplace, hat⟩ | ⟨k, value, rest, hk, hplace, hat⟩)
      · exact ⟨key, j, rest, List.mem_cons_self, hplace, hat⟩
      · exact ⟨k, value, rest, List.mem_cons_of_mem _ hk, hplace, hat⟩
    · rintro ⟨k, value, rest, hk, hplace, hat⟩
      rcases List.mem_cons.mp hk with heq | hk
      · cases heq
        exact .inl ⟨rest, hplace, hat⟩
      · exact .inr ⟨k, value, rest, hk, hplace, hat⟩

end

/-- Of two strings in a list the first one stands at the earlier place. -/
def InOrder (strings : List (Place × String)) : Prop :=
  strings.Pairwise fun a b => a.1.Before b.1

theorem InOrder.map_cons {strings : List (Place × String)} (h : InOrder strings) (step : Step) :
    InOrder (strings.map fun t => (step :: t.1, t.2)) := by
  rw [InOrder, List.pairwise_map]
  exact h.imp fun hab => .cons hab

mutual

/-- Strings are listed in the order of their places. -/
theorem inOrder_texts : {j : Json} → j.WellFormed → InOrder j.texts
  | .string _, _ => List.pairwise_singleton _ _
  | .null, _ | .bool _, _ | .number _, _ => .nil
  | .array _, hj => inOrder_textsOfItems hj
  | .object _, hj => inOrder_textsOfMembers hj.1 hj.2

theorem inOrder_textsOfItems : {items : List Json} → {i : Nat} → WellFormedItems items →
    InOrder (textsOfItems i items)
  | [], _, _ => .nil
  | j :: items, i, hitems => by
    rw [textsOfItems]
    refine List.pairwise_append.mpr
      ⟨(inOrder_texts hitems.1).map_cons _, inOrder_textsOfItems hitems.2, ?_⟩
    rintro a ha ⟨place, s⟩ hb
    obtain ⟨t, -, rfl⟩ := List.mem_map.mp ha
    obtain ⟨k, _, rest, -, rfl, -⟩ := (mem_textsOfItems_iff hitems.2).mp hb
    exact .rel (.item (by omega))

theorem inOrder_textsOfMembers : {members : List (String × Json)} →
    Dictionary.Ascends members → WellFormedMembers members → InOrder (textsOfMembers members)
  | [], _, _ => .nil
  | (key, j) :: members, hkeys, hmembers => by
    obtain ⟨hfirst, hrest⟩ := Dictionary.ascends_cons_iff.mp hkeys
    rw [textsOfMembers]
    refine List.pairwise_append.mpr
      ⟨(inOrder_texts hmembers.1).map_cons _, inOrder_textsOfMembers hrest hmembers.2, ?_⟩
    rintro a ha ⟨place, s⟩ hb
    obtain ⟨t, -, rfl⟩ := List.mem_map.mp ha
    obtain ⟨k, _, rest, hk, rfl, -⟩ := (mem_textsOfMembers_iff hmembers.2).mp hb
    exact .rel (.member (hfirst k (List.mem_map_of_mem hk)))

end

end FilterQuery.Json
