import FilterQuery.Query.Reading

/-!
# Grammars of queries

A grammar relates JSON values to the queries that they spell out. All grammars share the form of
objects: a node tells its kind by the member `type`, and the members that its kind has are found by
their keys, in any order. They differ in what they allow besides: nodes as arrays, kinds by number,
types of values as objects, and what may stand in members that nobody reads.
-/

namespace FilterQuery

/-- What a grammar of queries allows besides the form of objects. -/
structure Grammar where
  /-- Nodes may be arrays of their parts. -/
  positional : Bool
  /-- Nodes below the root may tell their kind by number. -/
  numbered : Bool
  /-- The type of a value may be an object with its name as the only key. -/
  wrapped : Bool
  /-- What may stand in members that a node does not have. -/
  ignored : Json → Bool

namespace Grammar

/-- The grammar of the wire format: objects all the way down, with any other members. -/
def documented : Grammar := ⟨false, false, false, fun _ => true⟩

/-- The wire format in which other members have no parts of their own. -/
def plain : Grammar := { documented with ignored := Json.isScalar }

/-- The grammar that the reader goes by. -/
def accepted : Grammar := ⟨true, true, true, fun _ => true⟩

/-- The JSON values that tell the kind of a node, at the root or below it. -/
inductive Tells (g : Grammar) (root : Bool) : Json → NodeKind → Prop where
  /-- By one of the names of the kind. -/
  | name {s : String} {kind : NodeKind} (h : (s, kind) ∈ NodeKind.known) :
    Tells g root (.string s) kind
  /-- By its number. -/
  | number {n : Nat} {kind : NodeKind} (hg : g.numbered) (hroot : root = false)
    (h : NodeKind.numbered[n]? = some kind) : Tells g root (.number (.whole n)) kind

/-- The JSON values that fix the type of a value, or leave it open. -/
inductive Fixes (g : Grammar) : Json → Option ScalarType → Prop where
  /-- Null leaves it open. -/
  | null : Fixes g .null none
  /-- By its exact name. -/
  | name (t : ScalarType) : Fixes g (.string t.name) (some t)
  /-- By an object that has only its name to say. -/
  | wrapped (hg : g.wrapped) (t : ScalarType) {content : Json}
    (h : content = .null ∨ content = .object []) : Fixes g (.object [(t.name, content)]) (some t)

/-- Every member is found by a key that a node reads, or ignored. A member hidden by an earlier one
of its key is not found. -/
def Ignores (g : Grammar) (keys : List String) (members : List (String × Json)) : Prop :=
  ∀ m ∈ members, (m.1 ∈ keys ∧ Dictionary.find? m.1 members = some m.2) ∨ g.ignored m.2

/-- The keys that a leaf reads. -/
def leafKeys : List String := ["type", "column", "operator", "operatorName", "value", "valueType"]

/-- The keys that a node reads which joins others. -/
def joinKeys : List String := ["type", "children"]

/-- The members of an object that spell out a leaf, its kind apart. -/
structure LeafMembers (g : Grammar) (members : List (String × Json)) (l : Leaf) : Prop where
  /-- The column is a text. -/
  column : Dictionary.find? "column" members = some (.string l.column)
  /-- The operator is a text under one of two keys, and the other key is missing. -/
  operator :
    (Dictionary.find? "operator" members = some (.string l.operator) ∧
      Dictionary.find? "operatorName" members = none) ∨
    (Dictionary.find? "operator" members = none ∧
      Dictionary.find? "operatorName" members = some (.string l.operator))
  /-- The value is carried over; null where it is missing. -/
  value : (Dictionary.find? "value" members).getD .null = l.value
  /-- The type of the value is open where it is missing. -/
  valueType : g.Fixes ((Dictionary.find? "valueType" members).getD .null) l.valueType
  /-- The other members. -/
  others : g.Ignores leafKeys members

/-- The items of an array, behind the kind, that spell out a leaf. -/
inductive LeafItems (g : Grammar) (fieldType : ScalarType) : List Json → Leaf → Prop where
  /-- A column and an operator. -/
  | two (column operator : String) : LeafItems g fieldType [.string column, .string operator]
    ⟨fieldType, column, operator, .null, none⟩
  /-- A value behind them. -/
  | three (column operator : String) (value : Json) :
    LeafItems g fieldType [.string column, .string operator, value]
      ⟨fieldType, column, operator, value, none⟩
  /-- The type of the value behind it. -/
  | four (column operator : String) (value : Json) {tag : Json} {t : Option ScalarType}
    (h : g.Fixes tag t) : LeafItems g fieldType [.string column, .string operator, value, tag]
      ⟨fieldType, column, operator, value, t⟩

mutual

/-- The JSON values that spell out a query, at the root or below it. -/
inductive Spells (g : Grammar) : Bool → Json → Query → Prop where
  /-- A leaf as an object. -/
  | leaf {root : Bool} {members : List (String × Json)} {tag : Json} {l : Leaf}
    (htag : Dictionary.find? "type" members = some tag)
    (hkind : g.Tells root tag (.leaf l.fieldType)) (hleaf : g.LeafMembers members l) :
    Spells g root (.object members) (.leaf l)
  /-- A node that joins others as an object. -/
  | join {root : Bool} {members : List (String × Json)} {tag : Json} {k : Connective}
    {items : List Json} {children : List Query}
    (htag : Dictionary.find? "type" members = some tag) (hkind : g.Tells root tag (.join k))
    (hitems : Dictionary.find? "children" members = some (.array items))
    (hchildren : SpellsAll g items children) (hothers : g.Ignores joinKeys members) :
    Spells g root (.object members) (.join k children)
  /-- A leaf as an array. -/
  | leafItems (hg : g.positional) {root : Bool} {tag : Json} {items : List Json} {l : Leaf}
    (hkind : g.Tells root tag (.leaf l.fieldType)) (hleaf : g.LeafItems l.fieldType items l) :
    Spells g root (.array (tag :: items)) (.leaf l)
  /-- A node that joins others as an array. -/
  | joinItems (hg : g.positional) {root : Bool} {tag : Json} {k : Connective}
    {items : List Json} {children : List Query} (hkind : g.Tells root tag (.join k))
    (hchildren : SpellsAll g items children) :
    Spells g root (.array [tag, .array items]) (.join k children)

/-- The JSON values that spell out queries below the root, one by one. -/
inductive SpellsAll (g : Grammar) : List Json → List Query → Prop where
  /-- None spell out none. -/
  | nil : SpellsAll g [] []
  /-- The first spells out the first. -/
  | cons {j : Json} {q : Query} {items : List Json} {children : List Query}
    (hfirst : Spells g false j q) (hrest : SpellsAll g items children) :
    SpellsAll g (j :: items) (q :: children)

end

variable {g : Grammar}

theorem Tells.accepted {root : Bool} {j : Json} {kind : NodeKind} (h : g.Tells root j kind) :
    accepted.Tells root j kind := by
  cases h with
  | name h => exact .name h
  | number _ hroot h => exact .number rfl hroot h

theorem Fixes.accepted {j : Json} {t : Option ScalarType} (h : g.Fixes j t) :
    accepted.Fixes j t := by
  cases h with
  | null => exact .null
  | name t => exact .name t
  | wrapped _ t h => exact .wrapped rfl t h

theorem ignores_accepted (keys : List String) (members : List (String × Json)) :
    accepted.Ignores keys members := fun _ _ => .inr rfl

theorem LeafMembers.accepted {members : List (String × Json)} {l : Leaf}
    (h : g.LeafMembers members l) : accepted.LeafMembers members l :=
  { h with
    valueType := h.valueType.accepted
    others := ignores_accepted leafKeys members }

theorem LeafItems.accepted {fieldType : ScalarType} {items : List Json} {l : Leaf}
    (h : g.LeafItems fieldType items l) : accepted.LeafItems fieldType items l := by
  cases h with
  | two column operator => exact .two column operator
  | three column operator value => exact .three column operator value
  | four column operator value h => exact .four column operator value h.accepted

mutual

/-- The reader's grammar contains every other one. -/
theorem Spells.accepted {root : Bool} {j : Json} {q : Query} :
    g.Spells root j q → accepted.Spells root j q
  | .leaf htag hkind hleaf => .leaf htag hkind.accepted hleaf.accepted
  | .join htag hkind hitems hchildren _ =>
    .join htag hkind.accepted hitems hchildren.accepted (ignores_accepted joinKeys _)
  | .leafItems _ hkind hleaf => .leafItems rfl hkind.accepted hleaf.accepted
  | .joinItems _ hkind hchildren => .joinItems rfl hkind.accepted hchildren.accepted

/-- The reader's grammar contains every other one, for queries in a row. -/
theorem SpellsAll.accepted {items : List Json} {children : List Query} :
    g.SpellsAll items children → accepted.SpellsAll items children
  | .nil => .nil
  | .cons hfirst hrest => .cons hfirst.accepted hrest.accepted

end

/-- A JSON value that spells out a query leaves the wire format at the node of the query or at one
below it. -/
inductive Departs : Json → Query → Prop where
  /-- A node is an array. -/
  | items (items : List Json) (q : Query) : Departs (.array items) q
  /-- A node tells its kind by number. -/
  | number {members : List (String × Json)} {n : Json.Number} (q : Query)
    (h : Dictionary.find? "type" members = some (.number n)) : Departs (.object members) q
  /-- A leaf fixes the type of its value by an object. -/
  | wrapped {members inner : List (String × Json)} (l : Leaf)
    (h : Dictionary.find? "valueType" members = some (.object inner)) :
    Departs (.object members) (.leaf l)
  /-- A child leaves the wire format. -/
  | child {members : List (String × Json)} {items : List Json} (k : Connective)
    {children : List Query} {j : Json} {q : Query}
    (hitems : Dictionary.find? "children" members = some (.array items))
    (hmem : (j, q) ∈ items.zip children) (h : Departs j q) :
    Departs (.object members) (.join k children)

theorem SpellsAll.of_mem_zip {items : List Json} {children : List Query}
    (h : g.SpellsAll items children) {j : Json} {q : Query} (hmem : (j, q) ∈ items.zip children) :
    g.Spells false j q := by
  induction children generalizing items with
  | nil =>
    cases h
    cases hmem
  | cons first rest ih =>
    rcases h with _ | ⟨hfirst, hrest⟩
    rcases List.mem_cons.mp hmem with heq | hmem
    · cases heq
      exact hfirst
    · exact ih hrest hmem

/-- What the wire format spells out does not leave it. -/
theorem Departs.not_documented {j : Json} {q : Query} (h : Departs j q) (root : Bool) :
    ¬ documented.Spells root j q := by
  induction h generalizing root with
  | items items q =>
    intro hq
    cases hq with
    | leafItems hg => cases hg
    | joinItems hg => cases hg
  | @number members _ q h =>
    intro hq
    have hnumber {tag : Json} {kind : NodeKind} (htag : Dictionary.find? "type" members = some tag)
        (hkind : documented.Tells root tag kind) : False := by
      obtain rfl := Option.some.inj (h.symm.trans htag)
      cases hkind with
      | number hg => cases hg
    cases hq with
    | leaf htag hkind => exact hnumber htag hkind
    | join htag hkind => exact hnumber htag hkind
  | wrapped l h =>
    intro hq
    cases hq with
    | leaf _ _ hleaf =>
      have hfixes := hleaf.valueType
      generalize l.valueType = t at hfixes
      rw [h, Option.getD_some] at hfixes
      cases hfixes with
      | wrapped hg => cases hg
  | child k hitems hmem _ ih =>
    intro hq
    -- The member `children` is found once, so the child stands in the row that was spelled out.
    cases hq with
    | join _ _ hfound hchildren =>
      cases Option.some.inj (hitems.symm.trans hfound)
      exact ih false (hchildren.of_mem_zip hmem)

theorem Tells.documented {root : Bool} {j : Json} {kind : NodeKind} (h : g.Tells root j kind)
    (hnumber : ∀ n, j ≠ .number n) : documented.Tells root j kind := by
  cases h with
  | name h => exact .name h
  | number => exact absurd rfl (hnumber _)

theorem Fixes.documented {j : Json} {t : Option ScalarType} (h : g.Fixes j t)
    (hobject : ∀ members, j ≠ .object members) : documented.Fixes j t := by
  cases h with
  | null => exact .null
  | name t => exact .name t
  | wrapped => exact absurd rfl (hobject _)

mutual

/-- What does not leave the wire format is spelled out by it. -/
theorem Spells.documented {root : Bool} {j : Json} {q : Query} :
    g.Spells root j q → ¬ Departs j q → documented.Spells root j q
  | @Spells.leaf _ _ members _ l htag hkind hleaf, hnot => by
    refine .leaf htag (hkind.documented ?_) { hleaf with valueType := ?_, others := ?_ }
    · rintro n rfl
      exact hnot (.number _ htag)
    · refine hleaf.valueType.documented ?_
      intro inner hinner
      cases htype : Dictionary.find? "valueType" members with
      | none => simp [htype] at hinner
      | some j =>
        rw [htype, Option.getD_some] at hinner
        exact hnot (.wrapped l (htype.trans (congrArg some hinner)))
    · exact fun _ _ => .inr rfl
  | .join htag hkind hitems hchildren _, hnot => by
    refine .join htag (hkind.documented ?_) hitems (hchildren.documented ?_) fun _ _ => .inr rfl
    · rintro n rfl
      exact hnot (.number _ htag)
    · exact fun p hmem h => hnot (.child _ hitems hmem h)
  | .leafItems _ _ _, hnot => absurd (.items _ _) hnot
  | .joinItems _ _ _, hnot => absurd (.items _ _) hnot

/-- What does not leave the wire format is spelled out by it, for queries in a row. -/
theorem SpellsAll.documented {items : List Json} {children : List Query} :
    g.SpellsAll items children → (∀ p ∈ items.zip children, ¬ Departs p.1 p.2) →
      documented.SpellsAll items children
  | .nil, _ => .nil
  | .cons hfirst hrest, hnot => by
    rw [List.zip_cons_cons, List.forall_mem_cons] at hnot
    exact .cons (hfirst.documented hnot.1) (hrest.documented hnot.2)

end

/-- The reader's grammar goes beyond the wire format exactly where a node leaves it. -/
theorem spells_documented_iff {root : Bool} {j : Json} {q : Query} :
    documented.Spells root j q ↔ accepted.Spells root j q ∧ ¬ Departs j q :=
  ⟨fun h => ⟨h.accepted, fun hdeparts => hdeparts.not_documented root h⟩,
    fun h => h.1.documented h.2⟩

end Grammar

end FilterQuery
