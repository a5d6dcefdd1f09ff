import FilterQuery.Proofs.Query.Encoding
import FilterQuery.Proofs.Query.Structure
import FilterQuery.Proofs.Query.Text

/-!
# The query of a text whose placeholders are filled

No name of a kind or of a type is a placeholder, so a JSON value that spells out a query still does
so when its strings are filled, wherever in the query they stand. The query of a request is then the
written one with its columns, operators and values filled, and there is one exactly where the leaves
that come of it are well formed.
-/

namespace FilterQuery

open Placeholder (fill fill_of_name?_eq_none)

/-- A leaf with each of its strings changed by a function. -/
def Leaf.mapStrings (f : String → String) (l : Leaf) : Leaf :=
  { l with column := f l.column, operator := f l.operator, value := l.value.mapStrings f }

/-- A function keeps the strings that a grammar knows by name. -/
structure KeepsNames (f : String → String) : Prop where
  /-- The names of the kinds of nodes. -/
  kind : ∀ e ∈ NodeKind.known, f e.1 = e.1
  /-- The names of the types of values. -/
  type : ∀ t : ScalarType, f t.name = t.name

/-- Filling keeps the names, whatever placeholders stand for. -/
theorem keepsNames_fill (value : String → Option String) : KeepsNames (fill value) where
  kind := by
    have hnone : ∀ e ∈ NodeKind.known, Placeholder.name? e.1 = none := by decide
    exact fun e he => fill_of_name?_eq_none (hnone e he) value
  type := by
    have hnone (t : ScalarType) : Placeholder.name? t.name = none := by cases t <;> decide
    exact fun t => fill_of_name?_eq_none (hnone t) value

/-! ### Spelling -/

namespace Grammar

variable {f : String → String}

theorem tells_mapStrings (hf : KeepsNames f) {root : Bool} {tag : Json} {kind : NodeKind}
    (h : accepted.Tells root tag kind) : accepted.Tells root (tag.mapStrings f) kind := by
  cases h with
  | @name s kind h =>
    have hs : f s = s := hf.kind (s, kind) h
    rw [Json.mapStrings, hs]
    exact .name h
  | number hg hroot h => exact .number hg hroot h

theorem fixes_mapStrings (hf : KeepsNames f) {tag : Json} {t : Option ScalarType}
    (h : accepted.Fixes tag t) : accepted.Fixes (tag.mapStrings f) t := by
  cases h with
  | null => exact .null
  | name t =>
    rw [Json.mapStrings, hf.type]
    exact .name t
  | @wrapped hg t content h =>
    -- The name is a key here, and keys are not filled.
    refine .wrapped hg t ?_
    rcases h with rfl | rfl
    · exact .inl rfl
    · exact .inr rfl

/-- A member is found by its key as before, and null where it is missing. -/
theorem getD_find?_mapMembers (key : String) (members : List (String × Json)) :
    (Dictionary.find? key (Json.mapMembers f members)).getD .null =
      ((Dictionary.find? key members).getD .null).mapStrings f := by
  rw [Json.find?_mapMembers]
  exact Option.getD_map (Json.mapStrings f) Json.null (Dictionary.find? key members)

theorem leafMembers_mapStrings (hf : KeepsNames f) {members : List (String × Json)} {l : Leaf}
    (h : accepted.LeafMembers members l) :
    accepted.LeafMembers (Json.mapMembers f members) (l.mapStrings f) where
  column := by
    rw [Json.find?_mapMembers, h.column]
    rfl
  operator := by
    rw [Json.find?_mapMembers, Json.find?_mapMembers]
    rcases h.operator with ⟨hoperator, hother⟩ | ⟨hoperator, hother⟩
    · rw [hoperator, hother]
      exact .inl ⟨rfl, rfl⟩
    · rw [hoperator, hother]
      exact .inr ⟨rfl, rfl⟩
  value := by
    rw [getD_find?_mapMembers, h.value]
    rfl
  valueType := by
    rw [getD_find?_mapMembers]
    exact fixes_mapStrings hf h.valueType
  others := ignores_accepted leafKeys _

theorem leafItems_mapStrings (hf : KeepsNames f) {t : ScalarType} {items : List Json} {l : Leaf}
    (h : accepted.LeafItems t items l) :
    accepted.LeafItems t (Json.mapItems f items) (l.mapStrings f) := by
  cases h with
  | two column operator => exact .two _ _
  | three column operator value => exact .three _ _ _
  | four column operator value h => exact .four _ _ _ (fixes_mapStrings hf h)

mutual

/-- What spells out a query spells out the filled query when its strings are filled. -/
theorem spells_mapStrings (hf : KeepsNames f) {root : Bool} {j : Json} {q : Query} :
    accepted.Spells root j q →
      accepted.Spells root (j.mapStrings f) (q.mapLeaves (Leaf.mapStrings f))
  | .leaf htag hkind hleaf => by
    refine .leaf ?_ (tells_mapStrings hf hkind) (leafMembers_mapStrings hf hleaf)
    rw [Json.find?_mapMembers, htag]
    rfl
  | .join htag hkind hitems hchildren _ => by
    refine .join ?_ (tells_mapStrings hf hkind) ?_ (spellsAll_mapStrings hf hchildren)
      (ignores_accepted joinKeys _)
    · rw [Json.find?_mapMembers, htag]
      rfl
    · rw [Json.find?_mapMembers, hitems]
      rfl
  | .leafItems hg hkind hleaf =>
    .leafItems hg (tells_mapStrings hf hkind) (leafItems_mapStrings hf hleaf)
  | .joinItems hg hkind hchildren =>
    .joinItems hg (tells_mapStrings hf hkind) (spellsAll_mapStrings hf hchildren)

/-- What spells out queries one by one spells out the filled ones. -/
theorem spellsAll_mapStrings (hf : KeepsNames f) {items : List Json} {children : List Query} :
    accepted.SpellsAll items children →
      accepted.SpellsAll (Json.mapItems f items) (Query.mapLeavesOfAll (Leaf.mapStrings f) children)
  | .nil => .nil
  | .cons hfirst hrest => .cons (spells_mapStrings hf hfirst) (spellsAll_mapStrings hf hrest)

end

end Grammar

/-! ### Reading -/

namespace Query

mutual

/-- Changing leaves keeps the levels. -/
theorem depth_mapLeaves {g : Leaf → Leaf} : (q : Query) → (q.mapLeaves g).depth = q.depth
  | .leaf _ => rfl
  | .join _ children => by rw [mapLeaves, depth, depth, depthOfAll_mapLeavesOfAll children]

theorem depthOfAll_mapLeavesOfAll {g : Leaf → Leaf} : (qs : List Query) →
    depthOfAll (mapLeavesOfAll g qs) = depthOfAll qs
  | [] => rfl
  | q :: rest => by
    rw [mapLeavesOfAll, depthOfAll, depthOfAll, depth_mapLeaves q, depthOfAll_mapLeavesOfAll rest]

end

/-- Where a JSON value gives a query, its filled strings give the filled query, if the leaves of
that are well formed. -/
theorem ofJson_mapStrings_iff {f : String → String} (hf : KeepsNames f) {j : Json} {q q' : Query}
    (h : ofJson j = .ok q) :
    ofJson (j.mapStrings f) = .ok q' ↔
      q' = q.mapLeaves (Leaf.mapStrings f) ∧ ∀ l ∈ q.leaves, (l.mapStrings f).WellFormed := by
  obtain ⟨hdepth, hspells, hq⟩ := ofJson_eq_ok_iff.mp h
  have hfilled := Grammar.spells_mapStrings hf hspells
  have hleaves : (∀ l ∈ (q.mapLeaves (Leaf.mapStrings f)).leaves, l.WellFormed) ↔
      ∀ l ∈ q.leaves, (l.mapStrings f).WellFormed := by
    rw [leaves_mapLeaves, List.forall_mem_map]
  rw [ofJson_eq_ok_iff, Json.depth_mapStrings]
  constructor
  · rintro ⟨-, hspells', hq'⟩
    -- A JSON value spells out one query only, because it is read as that query.
    have hread := read_eq_ok_iff.mpr hfilled
    rw [read_eq_ok_iff.mpr hspells'] at hread
    obtain rfl := Except.ok.inj hread
    exact ⟨rfl, hleaves.mp hq'.leaf⟩
  · rintro ⟨rfl, hwell⟩
    exact ⟨hdepth, hfilled, (depth_mapLeaves q).trans_le hq.depth_le, hleaves.mpr hwell⟩

end Query

/-! ### Canonical forms of leaves -/

/-- The strings of a leaf that leaves the type of its value open, in its canonical form. -/
theorem Leaf.texts_encode {l : Leaf} (hopen : l.valueType = none) : l.encode.texts =
    [([.member "column"], l.column), ([.member "operator"], l.operator),
      ([.member "type"], l.fieldType.nodeName)] ++
        l.value.texts.map fun t => (.member "value" :: t.1, t.2) := by
  simp [encode, hopen, Json.texts, Json.textsOfMembers]

theorem Leaf.wellFormed_encode {l : Leaf} (hopen : l.valueType = none)
    (hvalue : l.value.WellFormed) : l.encode.WellFormed := by
  have hkeys : ["column", "operator", "type", "value"].Pairwise (· < ·) := by decide
  rw [encode, hopen]
  exact ⟨hkeys, trivial, trivial, trivial, hvalue, trivial⟩

namespace Query

variable {l : Leaf}

theorem ofJson_encode_leaf (hl : l.WellFormed) : ofJson l.encode = .ok (.leaf l) := by
  have hdepth : 1 ≤ maxDepth := by decide
  have hq : (leaf l).WellFormed := ⟨hdepth, List.forall_mem_singleton.mpr hl⟩
  exact (readsBackFrom_of_spells (Grammar.spells_encode_leaf true l)).1
    ((leaf l).validate_eq_ok_iff.mpr hq)

theorem decode_text_encode_leaf (hl : l.WellFormed) (hj : l.encode.WellFormed) :
    decode l.encode.text = .ok l.encode := by
  rw [decode_text hj, if_pos (nesting_le_of_ofJson (ofJson_encode_leaf hl))]

/-- A well-formed leaf is read from the text of its canonical form. -/
theorem parse_text_encode_leaf (hl : l.WellFormed) (hj : l.encode.WellFormed) :
    parse l.encode.text = .ok (.leaf l) :=
  (parse_text_agrees hj).1 _ (ofJson_encode_leaf hl)

end Query

/-! ### Requests -/

namespace Engine

variable {m : Type → Type} {Condition : Type} (e : Engine m Condition)

/-- What a request puts in the place of a string. -/
def filling (c : Placeholder.Context) : String → String :=
  fill (e.substitution.registry.lookup? c)

theorem filling_eq_self (c : Placeholder.Context) {s : String} (h : Placeholder.name? s = none) :
    e.filling c s = s :=
  fill_of_name?_eq_none h _

/-- Each placeholder of a text has a value in a context, or may stay without one. -/
def Fills (c : Placeholder.Context) (text : String) : Prop :=
  ∃ j j', Query.decode text = .ok j ∧ e.substitution.apply c j = .ok j'

/-- The query of a request is the written one with its strings filled. -/
theorem parse_eq_ok_iff (c : Placeholder.Context) {text : String} {q q' : Query}
    (h : Query.parse text = .ok q) :
    e.parse c text = .ok q' ↔ e.Fills c text ∧ q' = q.mapLeaves (Leaf.mapStrings (e.filling c)) ∧
      ∀ l ∈ q.leaves, (l.mapStrings (e.filling c)).WellFormed := by
  obtain ⟨j, hdecode, hj⟩ := bind_eq_ok_iff.mp h
  have hnames : KeepsNames (e.filling c) := keepsNames_fill _
  rw [← Query.ofJson_mapStrings_iff hnames hj]
  constructor
  · intro hparse
    obtain ⟨_, hdecode', hrequest⟩ := bind_eq_ok_iff.mp hparse
    obtain rfl := Except.ok.inj (hdecode.symm.trans hdecode')
    obtain ⟨j', happly, hj'⟩ := bind_eq_ok_iff.mp hrequest
    obtain rfl := e.substitution.eq_mapStrings_of_apply happly
    exact ⟨⟨j, _, hdecode, happly⟩, hj'⟩
  · rintro ⟨⟨_, j', hdecode', happly⟩, hj'⟩
    obtain rfl := Except.ok.inj (hdecode.symm.trans hdecode')
    obtain rfl := e.substitution.eq_mapStrings_of_apply happly
    exact bind_eq_ok_iff.mpr ⟨j, hdecode, bind_eq_ok_iff.mpr ⟨_, happly, hj'⟩⟩

/-- The canonical form of a leaf is filled where its value is, if nothing else is a placeholder. -/
theorem fills_encode {c : Placeholder.Context} {l : Leaf} (hl : l.WellFormed)
    (hopen : l.valueType = none) (hvalue : l.value.WellFormed)
    (hcolumn : Placeholder.name? l.column = none)
    (hoperator : Placeholder.name? l.operator = none)
    (htexts : ∀ t ∈ l.value.texts,
      Placeholder.unresolved? (e.substitution.registry.lookup? c) t.2 = none) :
    e.Fills c l.encode.text := by
  have hname {s : String} (h : Placeholder.name? s = none) :
      Placeholder.unresolved? (e.substitution.registry.lookup? c) s = none := by
    rw [Placeholder.unresolved?, h]
    rfl
  have hkind : Placeholder.name? l.fieldType.nodeName = none := by
    cases l.fieldType <;> decide
  have hj := Leaf.wellFormed_encode hopen hvalue
  obtain ⟨j', hj'⟩ : ∃ j', e.substitution.apply c l.encode = .ok j' := by
    refine e.substitution.exists_apply ?_
    simp only [Leaf.texts_encode hopen, List.forall_mem_append, List.forall_mem_cons,
      List.forall_mem_map]
    exact ⟨⟨hname hcolumn, hname hoperator, hname hkind, nofun⟩, htexts⟩
  exact ⟨l.encode, j', Query.decode_text_encode_leaf hl hj, hj'⟩

end Engine

end FilterQuery
