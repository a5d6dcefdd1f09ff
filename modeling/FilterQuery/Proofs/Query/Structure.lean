import FilterQuery.Engine
import FilterQuery.Proofs.Placeholder.Substitution
import FilterQuery.Proofs.Query.Reading
import FilterQuery.Sql.Rendering

/-!
# What a request's context can change

Where placeholders stand only as the values of leaves, changing them commutes with the whole front
end: the depth of the JSON, the kinds of its nodes, the texts and types of its leaves and the checks
of the query never look at such a string. So two contexts get two queries of one structure, or none
of them gets a query.
-/

namespace FilterQuery

open Placeholder (IsPlaceholder fill)

/-- A leaf with its value changed by a function. -/
def Leaf.mapValue (g : Json → Json) (l : Leaf) : Leaf := { l with value := g l.value }

namespace Query

mutual

/-- A query with each of its leaves changed by a function. -/
def mapLeaves (g : Leaf → Leaf) : Query → Query
  | .leaf l => .leaf (g l)
  | .join k children => .join k (mapLeavesOfAll g children)

/-- Queries with each of their leaves changed. -/
def mapLeavesOfAll (g : Leaf → Leaf) : List Query → List Query
  | [] => []
  | q :: rest => mapLeaves g q :: mapLeavesOfAll g rest

end

/-- What is left of a query without the values of its leaves: its shape, how its nodes join their
children, and kind, column, operator and type of value of every leaf. -/
def skeleton : Query → Query := mapLeaves (Leaf.mapValue fun _ => .null)

variable {g g' : Leaf → Leaf}

mutual

theorem mapLeaves_mapLeaves : (q : Query) → (q.mapLeaves g).mapLeaves g' = q.mapLeaves (g' ∘ g)
  | .leaf _ => rfl
  | .join k children => by
    rw [mapLeaves, mapLeaves, mapLeaves, mapLeavesOfAll_mapLeavesOfAll children]

theorem mapLeavesOfAll_mapLeavesOfAll : (qs : List Query) →
    mapLeavesOfAll g' (mapLeavesOfAll g qs) = mapLeavesOfAll (g' ∘ g) qs
  | [] => rfl
  | q :: rest => by
    rw [mapLeavesOfAll, mapLeavesOfAll, mapLeavesOfAll, mapLeaves_mapLeaves q,
      mapLeavesOfAll_mapLeavesOfAll rest]

end

mutual

theorem leaves_mapLeaves : (q : Query) → (q.mapLeaves g).leaves = q.leaves.map g
  | .leaf _ => rfl
  | .join _ children => by rw [mapLeaves, leaves, leaves, leavesOfAll_mapLeavesOfAll children]

theorem leavesOfAll_mapLeavesOfAll : (qs : List Query) →
    leavesOfAll (mapLeavesOfAll g qs) = (leavesOfAll qs).map g
  | [] => rfl
  | q :: rest => by
    rw [mapLeavesOfAll, leavesOfAll, leavesOfAll, leaves_mapLeaves q,
      leavesOfAll_mapLeavesOfAll rest, List.map_append]

end

/-- Changing values leaves the skeleton as it is. -/
theorem skeleton_mapLeaves (change : Json → Json) (q : Query) :
    (q.mapLeaves (Leaf.mapValue change)).skeleton = q.skeleton :=
  mapLeaves_mapLeaves q

/-! ### Validation -/

variable {f : String → String}

mutual

/-- Validation looks at no text of a value. -/
theorem malformationAt?_mapLeaves : (level : Nat) → (q : Query) →
    malformationAt? level (q.mapLeaves (Leaf.mapValue (Json.mapStrings f))) =
      malformationAt? level q
  | level, .leaf l => by
    rw [mapLeaves, malformationAt?, malformationAt?, Leaf.malformation?, Leaf.malformation?,
      Leaf.mapValue, Json.isScalar_mapStrings]
  | level, .join _ children => by
    rw [mapLeaves, malformationAt?, malformationAt?,
      malformationOfAllAt?_mapLeavesOfAll (level + 1) children]

theorem malformationOfAllAt?_mapLeavesOfAll : (level : Nat) → (qs : List Query) →
    malformationOfAllAt? level (mapLeavesOfAll (Leaf.mapValue (Json.mapStrings f)) qs) =
      malformationOfAllAt? level qs
  | _, [] => rfl
  | level, q :: rest => by
    rw [mapLeavesOfAll, malformationOfAllAt?, malformationOfAllAt?,
      malformationAt?_mapLeaves level q, malformationOfAllAt?_mapLeavesOfAll level rest]

end

end Query

/-! ### Reading -/

/-- A function changes strings of a JSON value only under the key `value`. -/
def ChangesValues (f : String → String) (j : Json) : Prop :=
  ∀ place s, j.at? place = some (.string s) → f s ≠ s →
    ∃ parent, place = parent ++ [Json.Step.member "value"]

variable {f : String → String}

/-- A string by itself is under no key. -/
theorem ChangesValues.string {s : String} (h : ChangesValues f (.string s)) : f s = s := by
  by_contra hne
  obtain ⟨parent, hplace⟩ := h [] s rfl hne
  simp at hplace

/-- What holds of a value holds of its parts, but for those under the key `value` itself. -/
theorem ChangesValues.part {j part : Json} (h : ChangesValues f j) (step : Json.Step)
    (hpart : j.part? step = some part) (hstep : step ≠ .member "value") :
    ChangesValues f part := by
  intro place s hs hne
  have hat : j.at? (step :: place) = some (.string s) := by
    rw [Json.at?, hpart]
    exact hs
  obtain ⟨parent, hplace⟩ := h (step :: place) s hat hne
  cases parent with
  | nil =>
    cases hplace
    exact absurd rfl hstep
  | cons first rest =>
    cases hplace
    exact ⟨rest, rfl⟩

theorem ChangesValues.item {items : List Json} {j : Json} (h : ChangesValues f (.array items))
    (hj : j ∈ items) : ChangesValues f j := by
  obtain ⟨i, hi⟩ := List.getElem?_of_mem hj
  exact h.part (.item i) hi nofun

theorem ChangesValues.member {members : List (String × Json)} {key : String} {j : Json}
    (h : ChangesValues f (.object members)) (hkey : key ≠ "value")
    (hj : Dictionary.find? key members = some j) : ChangesValues f j :=
  h.part (.member key) hj fun heq => hkey (Json.Step.member.inj heq)

theorem ChangesValues.mapStrings_string {j : Json} (h : ChangesValues f j) {s : String}
    (hj : j = .string s) : j.mapStrings f = j := by
  subst hj
  rw [Json.mapStrings, h.string]

/-- Messages name a value as before. -/
theorem Json.describe_mapStrings {j : Json} (h : ChangesValues f j) :
    (j.mapStrings f).describe = j.describe := by
  cases j with
  | string s => rw [h.mapStrings_string rfl]
  | _ => rfl

theorem NodeKind.ofRoot_mapStrings {j : Json} (h : ChangesValues f j) :
    ofRoot (j.mapStrings f) = ofRoot j := by
  cases j with
  | string s => rw [h.mapStrings_string rfl]
  | _ => rfl

theorem NodeKind.ofChild_mapStrings {j : Json} (h : ChangesValues f j) :
    ofChild (j.mapStrings f) = ofChild j := by
  cases j with
  | string s => rw [h.mapStrings_string rfl]
  | _ => rfl

theorem readText_mapStrings {j : Json} (h : ChangesValues f j) :
    readText (j.mapStrings f) = readText j := by
  cases j with
  | string s => rw [h.mapStrings_string rfl]
  | _ => rfl

theorem readValueType_mapStrings {j : Json} (h : ChangesValues f j) :
    readValueType (j.mapStrings f) = readValueType j := by
  cases j with
  | string s => rw [h.mapStrings_string rfl]
  | null | bool | number | array => rfl
  | object members =>
    match members with
    | [] => rfl
    | [(key, content)] =>
      by_cases hkey : key = "value"
      · subst hkey
        rfl
      · have hcontent : ChangesValues f content := h.member hkey (by simp [Dictionary.find?])
        have hdescribe := Json.describe_mapStrings hcontent
        rw [Json.mapStrings, Json.mapMembers, Json.mapMembers, readValueType, readValueType]
        cases content with
        | object inner => cases inner <;> rfl
        | string s => rw [hcontent.mapStrings_string rfl]
        | _ => rfl
    | _ :: _ :: _ => rfl

namespace Leaf

variable {members : List (String × Json)}

theorem textMember_mapMembers (h : ChangesValues f (.object members)) {key : String}
    (hkey : key ≠ "value") :
    textMember key (Json.mapMembers f members) = textMember key members := by
  rw [textMember, textMember, Json.find?_mapMembers]
  cases hfind : Dictionary.find? key members with
  | none => rfl
  | some j => simp only [Option.map_some, readText_mapStrings (h.member hkey hfind)]

theorem operatorMember_mapMembers (h : ChangesValues f (.object members)) :
    operatorMember (Json.mapMembers f members) = operatorMember members := by
  rw [operatorMember, operatorMember, textMember_mapMembers h (by decide),
    textMember_mapMembers h (by decide), Dictionary.contains, Dictionary.contains,
    Json.find?_mapMembers, Option.isSome_map]

theorem readValueType_getD (h : ChangesValues f (.object members)) {key : String}
    (hkey : key ≠ "value") :
    readValueType ((Dictionary.find? key (Json.mapMembers f members)).getD .null) =
      readValueType ((Dictionary.find? key members).getD .null) := by
  rw [Json.find?_mapMembers]
  cases hfind : Dictionary.find? key members with
  | none => rfl
  | some j => exact readValueType_mapStrings (h.member hkey hfind)

/-- Of a leaf that is an object only the value changes. -/
theorem ofMembers_mapMembers (h : ChangesValues f (.object members)) (t : ScalarType) :
    ofMembers t (Json.mapMembers f members) =
      (ofMembers t members).map (mapValue (Json.mapStrings f)) := by
  have hvalue : (Dictionary.find? "value" (Json.mapMembers f members)).getD .null =
      ((Dictionary.find? "value" members).getD .null).mapStrings f := by
    rw [Json.find?_mapMembers]
    cases Dictionary.find? "value" members <;> rfl
  rw [ofMembers, ofMembers, textMember_mapMembers h (by decide), operatorMember_mapMembers h,
    readValueType_getD h (by decide), hvalue]
  cases textMember "column" members with
  | error e => rfl
  | ok column =>
    cases operatorMember members with
    | error e => rfl
    | ok operator =>
      cases readValueType ((Dictionary.find? "valueType" members).getD .null) with
      | error e => rfl
      | ok valueType => cases column <;> cases operator <;> rfl

/-- Of a leaf that is an array only the value changes. -/
theorem ofItems_mapItems {items : List Json} (h : ∀ j ∈ items, ChangesValues f j)
    (t : ScalarType) :
    ofItems t (Json.mapItems f items) = (ofItems t items).map (mapValue (Json.mapStrings f)) := by
  match items with
  | [] => rfl
  | [column] =>
    rw [Json.mapItems, Json.mapItems, ofItems, ofItems, readText_mapStrings (h column (by simp))]
    cases readText column <;> rfl
  | column :: operator :: rest =>
    rw [Json.mapItems, Json.mapItems, ofItems, ofItems, readText_mapStrings (h column (by simp)),
      readText_mapStrings (h operator (by simp))]
    cases readText column with
    | error e => rfl
    | ok column =>
      cases readText operator with
      | error e => rfl
      | ok operator =>
        match rest with
        | [] => rfl
        | [value] => rfl
        | value :: valueType :: surplus =>
          simp only [Json.mapItems]
          rw [readValueType_mapStrings (h valueType (by simp)), Json.length_mapItems]
          cases readValueType valueType with
          | error e => rfl
          | ok valueType => cases surplus <;> rfl

end Leaf

namespace Query

mutual

/-- Of a query only values change, whatever else the reader finds or refuses. -/
theorem readNode_mapStrings : {j : Json} → ChangesValues f j →
    (kindOf : Json → Except Malformation NodeKind) →
    (∀ k, ChangesValues f k → kindOf (k.mapStrings f) = kindOf k) →
    readNode kindOf (j.mapStrings f) =
      (readNode kindOf j).map (mapLeaves (Leaf.mapValue (Json.mapStrings f)))
  | .object members, h, kindOf, hkind => by
    rw [Json.mapStrings, readNode, readNode, Json.find?_mapMembers]
    cases htag : Dictionary.find? "type" members with
    | none => rfl
    | some tag =>
      rw [Option.map_some]
      simp only [hkind tag (h.member (by decide) htag)]
      cases kindOf tag with
      | error e => rfl
      | ok kind =>
        cases kind with
        | leaf t =>
          simp only [Leaf.ofMembers_mapMembers h]
          cases Leaf.ofMembers t members <;> rfl
        | join k =>
          simp only [readChildrenMember_mapMembers members fun j hj => h.member (by decide) hj]
          cases readChildrenMember members <;> rfl
  | .array [], _, _, _ => rfl
  | .array (tag :: items), h, kindOf, hkind => by
    have hitems : ∀ j ∈ items, ChangesValues f j :=
      fun j hj => h.item (List.mem_cons_of_mem tag hj)
    rw [Json.mapStrings, Json.mapItems, readNode, readNode]
    simp only [hkind tag (h.item List.mem_cons_self)]
    cases kindOf tag with
    | error e => rfl
    | ok kind =>
      cases kind with
      | leaf t =>
        simp only [Leaf.ofItems_mapItems hitems]
        cases Leaf.ofItems t items <;> rfl
      | join k =>
        simp only [readChildrenItem_mapItems k items hitems]
        cases readChildrenItem k items <;> rfl
  | .string _, h, _, _ => by rw [h.mapStrings_string rfl]; rfl
  | .null, _, _, _ | .bool _, _, _, _ | .number _, _, _, _ => rfl

theorem readChildrenMember_mapMembers : (members : List (String × Json)) →
    (∀ j, Dictionary.find? "children" members = some j → ChangesValues f j) →
    readChildrenMember (Json.mapMembers f members) =
      (readChildrenMember members).map (mapLeavesOfAll (Leaf.mapValue (Json.mapStrings f)))
  | [], _ => rfl
  | (key, j) :: rest, h => by
    rw [Json.mapMembers, readChildrenMember, readChildrenMember]
    by_cases hkey : key = "children"
    · rw [if_pos hkey, if_pos hkey]
      exact readChildren_mapStrings (h j (by rw [Dictionary.find?, if_pos hkey]))
    · rw [if_neg hkey, if_neg hkey]
      refine readChildrenMember_mapMembers rest fun j hj => h j ?_
      rw [Dictionary.find?, if_neg hkey, hj]

theorem readChildrenItem_mapItems (k : Connective) : (items : List Json) →
    (∀ j ∈ items, ChangesValues f j) →
    readChildrenItem k (Json.mapItems f items) =
      (readChildrenItem k items).map (mapLeavesOfAll (Leaf.mapValue (Json.mapStrings f)))
  | [], _ => rfl
  | j :: surplus, h => by
    rw [Json.mapItems, readChildrenItem, readChildrenItem,
      readChildren_mapStrings (h j List.mem_cons_self), Json.length_mapItems]
    cases readChildren j with
    | error e => rfl
    | ok children => cases surplus <;> rfl

theorem readChildren_mapStrings : {j : Json} → ChangesValues f j →
    readChildren (j.mapStrings f) =
      (readChildren j).map (mapLeavesOfAll (Leaf.mapValue (Json.mapStrings f)))
  | .array items, h => by
    rw [Json.mapStrings, readChildren, readChildren]
    exact readAll_mapItems items fun j hj => h.item hj
  | .string _, h => by rw [h.mapStrings_string rfl]; rfl
  | .null, _ | .bool _, _ | .number _, _ | .object _, _ => rfl

theorem readAll_mapItems : (items : List Json) → (∀ j ∈ items, ChangesValues f j) →
    readAll (Json.mapItems f items) =
      (readAll items).map (mapLeavesOfAll (Leaf.mapValue (Json.mapStrings f)))
  | [], _ => rfl
  | j :: rest, h => by
    rw [Json.mapItems, readAll, readAll, readNode_mapStrings (h j List.mem_cons_self)
      NodeKind.ofChild fun k hk => NodeKind.ofChild_mapStrings hk]
    cases readNode NodeKind.ofChild j with
    | error e => rfl
    | ok q =>
      have hrest := readAll_mapItems rest fun k hk => h k (List.mem_cons_of_mem j hk)
      change (readAll (Json.mapItems f rest)).map _ = ((readAll rest).map _).map _
      rw [hrest]
      cases readAll rest <;> rfl

end

/-- Changing values commutes with the whole way from JSON to a query, refusals included. -/
theorem ofJson_mapStrings {j : Json} (h : ChangesValues f j) :
    ofJson (j.mapStrings f) = (ofJson j).map (mapLeaves (Leaf.mapValue (Json.mapStrings f))) := by
  have hnests : Json.nestsWithin maxNesting [(j.mapStrings f, 1)] =
      Json.nestsWithin maxNesting [(j, 1)] := by
    rw [Bool.eq_iff_iff, Json.nestsWithin_root_iff, Json.nestsWithin_root_iff,
      Json.depth_mapStrings]
  have hread := readNode_mapStrings h NodeKind.ofRoot fun k hk => NodeKind.ofRoot_mapStrings hk
  rw [ofJson, ofJson, hnests, read, read, hread]
  split
  · cases readNode NodeKind.ofRoot j with
    | error e => rfl
    | ok q =>
      simp only [Except.map, validate, malformationAt?_mapLeaves]
      cases q.malformationAt? 1 <;> rfl
  · rfl

/-- Two queries differ at most in the values of leaves, and there only where a query that was
written has a placeholder, given the values of placeholders for both of them. -/
structure DifferAtPlaceholders (value value' : String → Option String)
    (written q q' : Query) : Prop where
  /-- The first one has the structure of the written one. -/
  skeleton : q.skeleton = written.skeleton
  /-- So has the second one. -/
  skeleton' : q'.skeleton = written.skeleton
  /-- A leaf has the written value in both of them, unless that is a placeholder; then it has two
  strings, each the value of the placeholder or the placeholder itself. -/
  leaf : ∀ (i : Nat) (l₀ l l' : Leaf), written.leaves[i]? = some l₀ → q.leaves[i]? = some l →
    q'.leaves[i]? = some l' →
      (l.value = l₀.value ∧ l'.value = l₀.value) ∨
      ∃ s name, l₀.value = .string s ∧ IsPlaceholder s name ∧
        l.value = .string ((value name).getD s) ∧ l'.value = .string ((value' name).getD s)

end Query

/-- Every placeholder in a JSON value is a member `value` of an object. -/
def PlaceholdersAreValues (j : Json) : Prop :=
  ∀ place s name, j.at? place = some (.string s) → IsPlaceholder s name →
    ∃ parent, place = parent ++ [Json.Step.member "value"]

/-- The listed strings tell whether every placeholder is a value. -/
theorem placeholdersAreValues_of_texts {j : Json} (hj : j.WellFormed)
    (h : ∀ t ∈ j.texts, (Placeholder.name? t.2).isSome →
      t.1.getLast? = some (Json.Step.member "value")) :
    PlaceholdersAreValues j := by
  intro place s name hs hname
  have hsome : (Placeholder.name? s).isSome := by
    rw [Placeholder.name?_eq_some_iff.mpr hname]
    rfl
  have hlast := h (place, s) ((Json.mem_texts_iff hj).mpr hs) hsome
  exact (List.getLast?_eq_some_iff.mp hlast)

/-- Filling placeholders then changes nothing but values. -/
theorem PlaceholdersAreValues.changesValues {j : Json} (h : PlaceholdersAreValues j)
    (value : String → Option String) : ChangesValues (fill value) j := by
  intro place s hs hne
  by_cases hname : ∃ name, IsPlaceholder s name
  · obtain ⟨name, hname⟩ := hname
    exact h place s name hs hname
  · exact absurd (Placeholder.fill_of_no_value fun name hs => absurd ⟨name, hs⟩ hname) hne

namespace Query

/-- A single value is filled or stays. -/
theorem mapStrings_fill_cases (value value' : String → Option String) {j : Json}
    (hj : j.isScalar) :
    (j.mapStrings (fill value) = j ∧ j.mapStrings (fill value') = j) ∨
    ∃ s name, j = .string s ∧ IsPlaceholder s name ∧
      j.mapStrings (fill value) = .string ((value name).getD s) ∧
        j.mapStrings (fill value') = .string ((value' name).getD s) := by
  cases j with
  | array | object => cases hj
  | null | bool | number => exact .inl ⟨rfl, rfl⟩
  | string s =>
    by_cases hname : ∃ name, IsPlaceholder s name
    · obtain ⟨name, hname⟩ := hname
      refine .inr ⟨s, name, rfl, hname, ?_, ?_⟩
      · rw [Json.mapStrings, Placeholder.fill_of_isPlaceholder hname]
      · rw [Json.mapStrings, Placeholder.fill_of_isPlaceholder hname]
    · have hnone : ∀ v : String → Option String, fill v s = s := fun v =>
        Placeholder.fill_of_no_value fun name hs => absurd ⟨name, hs⟩ hname
      rw [Json.mapStrings, Json.mapStrings, hnone, hnone]
      exact .inl ⟨rfl, rfl⟩

/-- A query whose leaves have single values, filled in two ways. -/
theorem differAtPlaceholders_mapLeaves (value value' : String → Option String) {q : Query}
    (hq : ∀ l ∈ q.leaves, l.WellFormed) :
    DifferAtPlaceholders value value' q
      (q.mapLeaves (Leaf.mapValue (Json.mapStrings (fill value))))
      (q.mapLeaves (Leaf.mapValue (Json.mapStrings (fill value')))) := by
  refine ⟨skeleton_mapLeaves _ q, skeleton_mapLeaves _ q, ?_⟩
  intro i l₀ l l' hl₀ hl hl'
  rw [leaves_mapLeaves, List.getElem?_map, hl₀] at hl hl'
  cases hl
  cases hl'
  exact mapStrings_fill_cases value value' (hq l₀ (List.mem_of_getElem? hl₀)).value

end Query

namespace Engine

variable {m m' : Type → Type} {Condition Condition' : Type}

/-- An engine reads the query that was written and fills the values of its leaves. -/
theorem ofJson_eq_map (e : Engine m Condition) (c : Placeholder.Context) {j : Json}
    (hj : PlaceholdersAreValues j) (hsubst : ∃ j', e.substitution.apply c j = .ok j') :
    e.ofJson c j = (Query.ofJson j).map
      (Query.mapLeaves (Leaf.mapValue
        (Json.mapStrings (fill (e.substitution.registry.lookup? c))))) := by
  obtain ⟨j', hj'⟩ := hsubst
  rw [← Query.ofJson_mapStrings (hj.changesValues _), ← e.substitution.eq_mapStrings_of_apply hj',
    ofJson, hj']
  rfl

/-- Two requests for one JSON value, with engines and contexts of their own: where every placeholder
is a value and substitution succeeds for both, either both get a query or none does, and the two
queries differ at most in the values of leaves that were written as placeholders. -/
theorem ofJson_differAtPlaceholders (e : Engine m Condition) (e' : Engine m' Condition')
    (c c' : Placeholder.Context) (j : Json) (hj : PlaceholdersAreValues j)
    (hsubst : ∃ k, e.substitution.apply c j = .ok k)
    (hsubst' : ∃ k, e'.substitution.apply c' j = .ok k) :
    ((∃ q, e.ofJson c j = .ok q) ↔ ∃ q', e'.ofJson c' j = .ok q') ∧
    ∀ q q', e.ofJson c j = .ok q → e'.ofJson c' j = .ok q' →
      ∃ written, Query.ofJson j = .ok written ∧
        Query.DifferAtPlaceholders (e.substitution.registry.lookup? c)
          (e'.substitution.registry.lookup? c') written q q' := by
  rw [e.ofJson_eq_map c hj hsubst, e'.ofJson_eq_map c' hj hsubst']
  cases hwritten : Query.ofJson j with
  | error err =>
    constructor
    · simp [Except.map]
    · intro q q' hq
      cases hq
  | ok written =>
    constructor
    · simp [Except.map]
    · rintro q q' ⟨⟩ ⟨⟩
      have hleaf := (Query.ofJson_eq_ok_iff.mp hwritten).2.2.leaf
      exact ⟨written, rfl, Query.differAtPlaceholders_mapLeaves _ _ hleaf⟩

/-- A user whose name reads like the rest of a query and one that looks like a placeholder; the
second engine lets unknown placeholders stand, the first one has a value for them. -/
theorem ofJson_differAtPlaceholders_hostile_user :
    let j := Json.object [("children", .array [
        .object [("column", .string "owner"), ("operator", .string "equals"),
          ("type", .string "StringQuery"), ("value", .string "[me]")],
        .object [("column", .string "region"), ("operator", .string "equals"),
          ("type", .string "StringQuery"), ("value", .string "[region]")]]),
      ("type", .string "AndQuery")]
    let user := "\"\x7d],\"type\":\"OrQuery\""
    let e : Engine Id Sql.Condition := .builtin Sql.Dialect.postgres.backend
    let e' : Engine Id Sql.Condition := { e with substitution := ⟨.builtin, .lenient⟩ }
    let c := (Placeholder.Context.of user .dayOne).withOverride "region" "[me]"
    let c' := Placeholder.Context.of "[region]" .dayOne
    let query (owner region : String) := Query.join .and [
      .leaf ⟨.string, "owner", "equals", .string owner, none⟩,
      .leaf ⟨.string, "region", "equals", .string region, none⟩]
    PlaceholdersAreValues j ∧
    e.ofJson c j = .ok (query user "[me]") ∧
    e'.ofJson c' j = .ok (query "[region]" "[region]") ∧
    (query user "[me]").skeleton = (query "[region]" "[region]").skeleton := by
  intro j user e e' c c' query
  have hkeys : ["children", "type"].Pairwise (· < ·) := by decide
  have hleaf : ["column", "operator", "type", "value"].Pairwise (· < ·) := by decide
  have hj : j.WellFormed :=
    ⟨hkeys, ⟨⟨hleaf, trivial, trivial, trivial, trivial, trivial⟩,
      ⟨hleaf, trivial, trivial, trivial, trivial, trivial⟩, trivial⟩, trivial, trivial⟩
  have hplaces : PlaceholdersAreValues j := placeholdersAreValues_of_texts hj (by decide)
  have hwritten : Query.ofJson j = .ok (query "[me]" "[region]") := by
    rw [Query.ofJson, if_pos ((Json.nestsWithin_root_iff _ _).mpr (by decide))]
    rfl
  have h : e.ofJson c j = .ok (query user "[me]") := by
    rw [e.ofJson_eq_map c hplaces ⟨_, rfl⟩, hwritten]
    rfl
  have h' : e'.ofJson c' j = .ok (query "[region]" "[region]") := by
    rw [e'.ofJson_eq_map c' hplaces ⟨_, rfl⟩, hwritten]
    rfl
  obtain ⟨-, hdiffer⟩ := ofJson_differAtPlaceholders e e' c c' j hplaces ⟨_, rfl⟩ ⟨_, rfl⟩
  obtain ⟨written, -, hq⟩ := hdiffer _ _ h h'
  exact ⟨hplaces, h, h', hq.skeleton.trans hq.skeleton'.symm⟩

end Engine

end FilterQuery
