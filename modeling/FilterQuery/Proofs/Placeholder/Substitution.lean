import FilterQuery.Placeholder.Substitution
import FilterQuery.Proofs.Json.Places
import FilterQuery.Proofs.Outcome
import FilterQuery.Proofs.Text.Digits

/-!
# What substitution does

Substitution changes the strings of a JSON value one by one and nothing else. What becomes of a
string depends on the string alone: a placeholder with a value gives way to the value, every other
string stays. The strict policy refuses a value with a placeholder that has none, and names the
first one by its place.
-/

namespace FilterQuery.Placeholder

/-- A string that is a name between brackets and nothing else. -/
structure IsPlaceholder (s name : String) : Prop where
  /-- There is a name. -/
  nonempty : name ≠ ""
  /-- It is free of brackets. -/
  free : ∀ c ∈ name.toList, c ≠ '[' ∧ c ≠ ']'
  /-- The string is the name between brackets. -/
  eq : s = "[" ++ name ++ "]"

theorem isBracket_eq_false_iff {c : Char} : isBracket c = false ↔ c ≠ '[' ∧ c ≠ ']' := by
  simp [isBracket]

/-- What is read as a name stands between brackets and is free of them. -/
theorem isPlaceholder_of_name? {s name : String} (h : name? s = some name) :
    IsPlaceholder s name := by
  rw [name?] at h
  split at h
  · rename_i cs hs
    extract_lets found at h
    split at h
    · cases h
    · rename_i hfound
      split at h
      · rename_i hrest
        cases h
        have hsplit : found ++ [']'] = cs := by
          rw [← hrest]
          exact List.takeWhile_append_dropWhile
        refine ⟨?nonempty, ?free, ?eq⟩
        case nonempty =>
          intro hempty
          exact hfound (by simpa using congrArg String.toList hempty)
        case free =>
          intro c hc
          rw [String.toList_ofList] at hc
          have hall := List.all_takeWhile (p := (!isBracket ·)) (l := cs)
          have hname := List.all_eq_true.mp hall c hc
          exact isBracket_eq_false_iff.mp (by simpa using hname)
        case eq =>
          apply String.ext
          simp [hs, ← hsplit]
      · cases h
  · cases h

/-- A name between brackets is read up to the closing one. -/
theorem name?_of_isPlaceholder {s name : String} (h : IsPlaceholder s name) :
    name? s = some name := by
  obtain ⟨hnonempty, hfree, rfl⟩ := h
  have hname : ∀ c ∈ name.toList, (!isBracket c) = true := fun c hc => by
    simp [isBracket_eq_false_iff.mpr (hfree c hc)]
  have hclose : ∀ c ∈ [']'].head?, (!isBracket c) = false := by
    rintro c ⟨⟩
    rfl
  obtain ⟨htake, hdrop⟩ := Text.span_append hname hclose
  have hlist : ("[" ++ name ++ "]").toList = '[' :: (name.toList ++ [']']) := by simp
  have hcs : name.toList.isEmpty = false := by simpa using hnonempty
  rw [name?, hlist]
  simp only [htake, hdrop, hcs, Bool.false_eq_true, ite_false, String.ofList_toList]

/-- The name of a placeholder is the one between its brackets. -/
theorem name?_eq_some_iff {s name : String} : name? s = some name ↔ IsPlaceholder s name :=
  ⟨isPlaceholder_of_name?, name?_of_isPlaceholder⟩

/-! ### Values of placeholders -/

namespace Registry

/-- The registry that registrations in a row make of the empty one. -/
def ofList (registrations : List (String × Resolver)) : Registry :=
  registrations.foldl (fun r e => r.register e.1 e.2) empty

theorem resolvers_ofList (registrations : List (String × Resolver)) :
    (ofList registrations).resolvers = Dictionary.ofList registrations := by
  have hfold : ∀ r : Registry, (registrations.foldl (fun r e => r.register e.1 e.2) r).resolvers =
      registrations.foldl (fun sorted e => Dictionary.insert e.1 e.2 sorted) r.resolvers := by
    induction registrations with
    | nil => exact fun r => rfl
    | cons e rest ih => exact fun r => ih (r.register e.1 e.2)
  exact hfold empty

end Registry

namespace Context

/-- The context with values pinned to placeholders one after the other. -/
def pinning (c : Context) (pins : List (String × String)) : Context :=
  pins.foldl (fun c e => c.withOverride e.1 e.2) c

theorem overrides_pinning (user : String) (today : Date) (pins : List (String × String)) :
    ((of user today).pinning pins).overrides = Dictionary.ofList pins := by
  have hfold : ∀ c : Context, (c.pinning pins).overrides =
      pins.foldl (fun sorted e => Dictionary.insert e.1 e.2 sorted) c.overrides := by
    induction pins with
    | nil => exact fun c => rfl
    | cons e rest ih => exact fun c => ih (c.withOverride e.1 e.2)
  exact hfold (of user today)

end Context

/-- A placeholder has the value pinned to it last, and otherwise the one of the resolver registered
last. -/
theorem Registry.lookup?_ofList (registrations : List (String × Resolver))
    (pins : List (String × String)) (user : String) (today : Date) (name : String) :
    let c := (Context.of user today).pinning pins
    (ofList registrations).lookup? c name =
      (Dictionary.lastOf? name pins <|>
        (Dictionary.lastOf? name registrations).map (· c)) := by
  intro c
  rw [lookup?, Context.override?, Context.overrides_pinning, resolvers_ofList,
    Dictionary.find?_ofList, Dictionary.find?_ofList]

/-! ### One pass -/

/-- What stands for a string, given the values of placeholders. -/
def fill (value : String → Option String) (s : String) : String :=
  ((name? s).bind value).getD s

/-- The name of a placeholder without value. -/
def unresolved? (value : String → Option String) (s : String) : Option String :=
  (name? s).filter fun name => (value name).isNone

theorem fill_of_isPlaceholder {value : String → Option String} {s name : String}
    (h : IsPlaceholder s name) : fill value s = (value name).getD s := by
  rw [fill, name?_eq_some_iff.mpr h, Option.bind_some]

theorem fill_of_value {value : String → Option String} {s name v : String}
    (h : IsPlaceholder s name) (hv : value name = some v) : fill value s = v := by
  rw [fill_of_isPlaceholder h, hv, Option.getD_some]

theorem fill_of_no_value {value : String → Option String} {s : String}
    (h : ∀ name, IsPlaceholder s name → value name = none) : fill value s = s := by
  rw [fill]
  cases hname : name? s with
  | none => rfl
  | some name => rw [Option.bind_some, h name (name?_eq_some_iff.mp hname), Option.getD_none]

/-- A string without a name between brackets stays. -/
theorem fill_of_name?_eq_none {s : String} (h : name? s = none) (value : String → Option String) :
    fill value s = s := by
  rw [fill, h]
  rfl

theorem unresolved?_eq_some_iff {value : String → Option String} {s name : String} :
    unresolved? value s = some name ↔ IsPlaceholder s name ∧ value name = none := by
  rw [unresolved?, Option.filter_eq_some_iff, name?_eq_some_iff, Option.isNone_iff_eq_none]

namespace Substitution

variable (registry : Registry) (c : Context)

theorem ofString_lenient (s : String) :
    ofString ⟨registry, .lenient⟩ c s = .ok (fill (registry.lookup? c) s) := by
  rw [ofString, fill]
  cases name? s with
  | none => rfl
  | some name => cases h : registry.lookup? c name <;> simp [h]

theorem ofString_strict (s : String) :
    ofString ⟨registry, .strict⟩ c s =
      match unresolved? (registry.lookup? c) s with
      | none => .ok (fill (registry.lookup? c) s)
      | some name => .error (.unresolvedPlaceholder name) := by
  rw [ofString, fill, unresolved?]
  cases name? s with
  | none => rfl
  | some name => cases h : registry.lookup? c name <;> simp [h, Option.filter]

mutual

/-- The lenient policy gives every value with its strings filled. -/
theorem apply_lenient : (j : Json) →
    apply ⟨registry, .lenient⟩ c j = .ok (j.mapStrings (fill (registry.lookup? c)))
  | .string s => by
    rw [apply, ofString_lenient]
    rfl
  | .null | .bool _ | .number _ => rfl
  | .array items => by
    rw [apply, applyToItems_lenient items]
    rfl
  | .object members => by
    rw [apply, applyToMembers_lenient members]
    rfl

theorem applyToItems_lenient : (items : List Json) →
    applyToItems ⟨registry, .lenient⟩ c items =
      .ok (Json.mapItems (fill (registry.lookup? c)) items)
  | [] => rfl
  | j :: rest => by
    rw [applyToItems, apply_lenient j, applyToItems_lenient rest]
    rfl

theorem applyToMembers_lenient : (members : List (String × Json)) →
    applyToMembers ⟨registry, .lenient⟩ c members =
      .ok (Json.mapMembers (fill (registry.lookup? c)) members)
  | [] => rfl
  | (key, j) :: rest => by
    rw [applyToMembers, apply_lenient j, applyToMembers_lenient rest]
    rfl

end

/-- The result, or the error about the first placeholder without value among some strings. -/
def unlessUnresolved {α : Type} (value : String → Option String)
    (strings : List (Json.Place × String)) (result : α) : Except QueryError α :=
  match strings.findSome? fun t => unresolved? value t.2 with
  | none => .ok result
  | some name => .error (.unresolvedPlaceholder name)

/-- Which placeholder is refused does not depend on the places of the strings. -/
theorem unlessUnresolved_map {α : Type} (value : String → Option String)
    (strings : List (Json.Place × String)) (step : Json.Step) (result : α) :
    unlessUnresolved value (strings.map fun t => (step :: t.1, t.2)) result =
      unlessUnresolved value strings result := by
  rw [unlessUnresolved, List.findSome?_map]
  rfl

/-- Strings in a row are filled unless one of the first or one of the others is refused. -/
theorem unlessUnresolved_append {α β γ : Type} (value : String → Option String)
    (first others : List (Json.Place × String)) (a : α) (b : β) (f : α → β → γ) :
    (do return f (← unlessUnresolved value first a) (← unlessUnresolved value others b)) =
      unlessUnresolved value (first ++ others) (f a b) := by
  simp only [unlessUnresolved, List.findSome?_append]
  cases first.findSome? fun t => unresolved? value t.2 with
  | some name => rfl
  | none =>
    cases others.findSome? fun t => unresolved? value t.2 with
    | some name => rfl
    | none => rfl

mutual

/-- The strict policy gives the same, unless a placeholder has no value. -/
theorem apply_strict : (j : Json) →
    apply ⟨registry, .strict⟩ c j =
      unlessUnresolved (registry.lookup? c) j.texts (j.mapStrings (fill (registry.lookup? c)))
  | .string s => by
    rw [apply, ofString_strict, unlessUnresolved, Json.texts, List.findSome?_singleton]
    cases unresolved? (registry.lookup? c) s with
    | none => rfl
    | some name => rfl
  | .null | .bool _ | .number _ => rfl
  | .array items => by
    rw [apply, applyToItems_strict 0 items, unlessUnresolved, unlessUnresolved, Json.texts]
    cases (Json.textsOfItems 0 items).findSome? fun t => unresolved? (registry.lookup? c) t.2 with
    | none => rfl
    | some name => rfl
  | .object members => by
    rw [apply, applyToMembers_strict members, unlessUnresolved, unlessUnresolved, Json.texts]
    cases (Json.textsOfMembers members).findSome? fun t =>
        unresolved? (registry.lookup? c) t.2 with
    | none => rfl
    | some name => rfl

theorem applyToItems_strict : (i : Nat) → (items : List Json) →
    applyToItems ⟨registry, .strict⟩ c items =
      unlessUnresolved (registry.lookup? c) (Json.textsOfItems i items)
        (Json.mapItems (fill (registry.lookup? c)) items)
  | _, [] => rfl
  | i, j :: rest => by
    rw [applyToItems, apply_strict j, applyToItems_strict (i + 1) rest, Json.textsOfItems,
      ← unlessUnresolved_map _ j.texts (.item i), Json.mapItems]
    exact unlessUnresolved_append _ _ _ _ _ List.cons

theorem applyToMembers_strict : (members : List (String × Json)) →
    applyToMembers ⟨registry, .strict⟩ c members =
      unlessUnresolved (registry.lookup? c) (Json.textsOfMembers members)
        (Json.mapMembers (fill (registry.lookup? c)) members)
  | [] => rfl
  | (key, j) :: rest => by
    rw [applyToMembers, apply_strict j, applyToMembers_strict rest, Json.textsOfMembers,
      ← unlessUnresolved_map _ j.texts (.member key), Json.mapMembers]
    exact unlessUnresolved_append _ _ _ _ _ fun value others => (key, value) :: others

end

/-- Whatever the policy, substitution gives no other value. -/
theorem eq_mapStrings_of_apply (p : Substitution) {c : Context} {j j' : Json}
    (h : p.apply c j = .ok j') : j' = j.mapStrings (fill (p.registry.lookup? c)) := by
  obtain ⟨registry, policy⟩ := p
  cases policy with
  | lenient =>
    rw [apply_lenient] at h
    exact (Except.ok.inj h).symm
  | strict =>
    rw [apply_strict, unlessUnresolved] at h
    split at h
    · exact (Except.ok.inj h).symm
    · cases h

/-- Where no string is refused, substitution succeeds under both policies. -/
theorem exists_apply (p : Substitution) {c : Context} {j : Json}
    (h : ∀ t ∈ j.texts, unresolved? (p.registry.lookup? c) t.2 = none) :
    ∃ j', p.apply c j = .ok j' := by
  obtain ⟨registry, policy⟩ := p
  cases policy with
  | lenient => exact ⟨_, apply_lenient registry c j⟩
  | strict =>
    rw [apply_strict, unlessUnresolved, List.findSome?_eq_none_iff.mpr h]
    exact ⟨_, rfl⟩

/-- Where no string gives way to another one, a value that is not refused stays. -/
theorem apply_eq_self (p : Substitution) {c : Context} {j : Json}
    (h : ∃ j', p.apply c j = .ok j')
    (hkeeps : ∀ t ∈ j.texts, fill (p.registry.lookup? c) t.2 = t.2) : p.apply c j = .ok j := by
  obtain ⟨j', hj'⟩ := h
  rw [hj', p.eq_mapStrings_of_apply hj', Json.mapStrings_eq_self hkeeps]

/-- A placeholder without value stands at a place. -/
def IsUnresolved (value : String → Option String) (j : Json) (place : Json.Place)
    (name : String) : Prop :=
  ∃ s, j.at? place = some (.string s) ∧ IsPlaceholder s name ∧ value name = none

/-- The listed strings that are refused are the placeholders without value. -/
theorem isUnresolved_iff {value : String → Option String} {j : Json} (hj : j.WellFormed)
    {place : Json.Place} {name : String} :
    IsUnresolved value j place name ↔
      ∃ s, (place, s) ∈ j.texts ∧ unresolved? value s = some name := by
  simp only [IsUnresolved, Json.mem_texts_iff hj, unresolved?_eq_some_iff]

/-- What the two policies make of a JSON value, given the values of placeholders. -/
structure Substitutes (value : String → Option String) (j : Json)
    (byLenient byStrict : Except QueryError Json) : Prop where
  /-- A string is a placeholder when it is a name between brackets. -/
  named : ∀ s name, name? s = some name ↔ IsPlaceholder s name
  /-- A placeholder with a value gives way to the value. -/
  filled : ∀ s name v, IsPlaceholder s name → value name = some v → fill value s = v
  /-- Any other string stays. -/
  kept : ∀ s, (∀ name, IsPlaceholder s name → value name = none) → fill value s = s
  /-- The lenient policy fills the strings and keeps everything else. -/
  lenient : byLenient = .ok (j.mapStrings (fill value))
  /-- Every string has been filled once, at its own place. -/
  once : (j.mapStrings (fill value)).texts = j.texts.map fun t => (t.1, fill value t.2)
  /-- Where the strict policy gives a value it is the same one. -/
  agrees : ∀ j', byStrict = .ok j' → byLenient = .ok j'
  /-- It refuses exactly the values with a placeholder that has no value. -/
  refused : (∃ e, byStrict = .error e) ↔ ∃ place name, IsUnresolved value j place name
  /-- It names the first of them. -/
  first : ∀ e, byStrict = .error e → ∃ place name, e = .unresolvedPlaceholder name ∧
    IsUnresolved value j place name ∧
      ∀ other n, IsUnresolved value j other n → other = place ∨ place.Before other

/-- Among strings in order the first one that is refused stands before all others. -/
theorem first_of_findSome? {value : String → Option String} {j : Json} (hj : j.WellFormed)
    {name : String} (h : (j.texts.findSome? fun t => unresolved? value t.2) = some name) :
    ∃ place, IsUnresolved value j place name ∧
      ∀ other n, IsUnresolved value j other n → other = place ∨ place.Before other := by
  obtain ⟨before, ⟨place, s⟩, behind, htexts, hs, hbefore⟩ := List.findSome?_eq_some_iff.mp h
  refine ⟨place, (isUnresolved_iff hj).mpr ⟨s, ?_, hs⟩, ?_⟩
  · rw [htexts]
    exact List.mem_append_right before List.mem_cons_self
  · intro other n hother
    obtain ⟨t, hmem, ht⟩ := (isUnresolved_iff hj).mp hother
    have horder := Json.inOrder_texts hj
    rw [htexts] at hmem
    rw [htexts, Json.InOrder, List.pairwise_append, List.pairwise_cons] at horder
    obtain ⟨-, ⟨hbehind, -⟩, -⟩ := horder
    rcases List.mem_append.mp hmem with hmem | hmem
    · have hnone := hbefore _ hmem
      rw [ht] at hnone
      cases hnone
    · rcases List.mem_cons.mp hmem with heq | hmem
      · cases heq
        exact .inl rfl
      · exact .inr (hbehind _ hmem)

theorem substitutes (j : Json) (hj : j.WellFormed) :
    Substitutes (registry.lookup? c) j (apply ⟨registry, .lenient⟩ c j)
      (apply ⟨registry, .strict⟩ c j) := by
  rw [apply_lenient, apply_strict]
  generalize registry.lookup? c = value
  rw [unlessUnresolved]
  cases hfind : j.texts.findSome? fun t => unresolved? value t.2 with
  | none =>
    refine ⟨fun _ _ => name?_eq_some_iff, fun _ _ _ => fill_of_value, fun _ => fill_of_no_value,
      rfl, Json.texts_mapStrings j, fun _ h => h, ?_, nofun⟩
    constructor
    · rintro ⟨e, he⟩
      cases he
    · rintro ⟨place, name, hname⟩
      obtain ⟨s, hmem, hs⟩ := (isUnresolved_iff hj).mp hname
      have hnone := List.findSome?_eq_none_iff.mp hfind (place, s) hmem
      rw [hs] at hnone
      cases hnone
  | some name =>
    obtain ⟨place, hplace, hfirst⟩ := first_of_findSome? hj hfind
    refine ⟨fun _ _ => name?_eq_some_iff, fun _ _ _ => fill_of_value, fun _ => fill_of_no_value,
      rfl, Json.texts_mapStrings j, nofun, ⟨fun _ => ⟨place, name, hplace⟩, fun _ => ⟨_, rfl⟩⟩, ?_⟩
    rintro e ⟨⟩
    exact ⟨place, name, rfl, hplace, hfirst⟩

/-- Whatever has been registered and pinned, substitution fills every string of a JSON value once:
with the value that was pinned last, or else with the one of the resolver that was registered
last. -/
theorem apply_substitutes (registrations : List (String × Resolver))
    (pins : List (String × String)) (user : String) (today : Date) (j : Json)
    (hj : j.WellFormed) :
    let registry := Registry.ofList registrations
    let c := (Context.of user today).pinning pins
    let value name := Dictionary.lastOf? name pins <|>
      (Dictionary.lastOf? name registrations).map (· c)
    Substitutes value j (apply ⟨registry, .lenient⟩ c j) (apply ⟨registry, .strict⟩ c j) := by
  intro registry c value
  have hvalue : registry.lookup? c = value :=
    funext fun name => Registry.lookup?_ofList registrations pins user today name
  exact hvalue ▸ substitutes registry c j hj

/-- A resolver that was registered again, a name that was pinned twice, a value that looks like a
placeholder, and two names that nobody knows. -/
theorem apply_substitutes_twice_registered :
    let registrations : List (String × Resolver) :=
      [("me", fun _ => "nobody"), ("me", fun c => "[" ++ c.user ++ "]")]
    let pins := [("region", "north"), ("region", "south")]
    let registry := Registry.ofList registrations
    let c := (Context.of "today" .dayOne).pinning pins
    let j := Json.object [("[me]", .array [.string "[me]", .string "in [me]", .string "[region]"]),
      ("note", .array [.null, .string "[first]"]), ("value", .string "[second]")]
    j.WellFormed ∧
    apply ⟨registry, .lenient⟩ c j =
      .ok (.object [("[me]", .array [.string "[today]", .string "in [me]", .string "south"]),
        ("note", .array [.null, .string "[first]"]), ("value", .string "[second]")]) ∧
    apply ⟨registry, .strict⟩ c j = .error (.unresolvedPlaceholder "first") := by
  intro registrations pins registry c j
  have hkeys : ["[me]", "note", "value"].Pairwise (· < ·) := by decide
  have hj : j.WellFormed :=
    ⟨hkeys, ⟨trivial, trivial, trivial, trivial⟩, ⟨trivial, trivial, trivial⟩, trivial, trivial⟩
  have h := apply_substitutes registrations pins "today" .dayOne j hj
  exact ⟨hj, h.lenient, rfl⟩

end Substitution

end FilterQuery.Placeholder
