import FilterQuery.Proofs.Query.Reading

/-!
# Reading back what has been written

Every query has a canonical form in the wire format, and other forms of the same content. A level of
a query takes two levels of JSON in all of them: an object, and an array or members without parts
below it. The bound on the nesting of JSON therefore keeps out no query that validation accepts.
-/

namespace FilterQuery

open Grammar

/-- The canonical form of a leaf. -/
def Leaf.encode (l : Leaf) : Json :=
  .object ([("column", .string l.column), ("operator", .string l.operator),
    ("type", .string l.fieldType.nodeName), ("value", l.value)] ++
      (l.valueType.map fun t => ("valueType", Json.string t.name)).toList)

namespace Query

mutual

/-- The canonical form of a query: objects with their members in the order of the keys. -/
def encode : Query → Json
  | .leaf l => l.encode
  | .join k children =>
    .object [("children", .array (encodeAll children)), ("type", .string k.nodeName)]

/-- The canonical forms of some queries. -/
def encodeAll : List Query → List Json
  | [] => []
  | q :: rest => encode q :: encodeAll rest

end

end Query

namespace Grammar

/-- A member that its key finds is ignored or read. -/
theorem plain_ignores_of_find? {keys : List String} {members : List (String × Json)}
    (h : ∀ m ∈ members, m.1 ∈ keys ∧ Dictionary.find? m.1 members = some m.2) :
    plain.Ignores keys members := fun m hm => .inl (h m hm)

/-- The canonical form of a leaf spells it out. -/
theorem spells_encode_leaf (root : Bool) (l : Leaf) : plain.Spells root l.encode (.leaf l) := by
  obtain ⟨fieldType, column, operator, value, valueType⟩ := l
  have hkind : plain.Tells root (.string fieldType.nodeName) (.leaf fieldType) :=
    .name (by cases fieldType <;> decide)
  cases valueType with
  | none =>
    refine .leaf rfl hkind ⟨rfl, .inl ⟨rfl, rfl⟩, rfl, .null, plain_ignores_of_find? ?_⟩
    simp [leafKeys, Dictionary.find?]
  | some t =>
    refine .leaf rfl hkind ⟨rfl, .inl ⟨rfl, rfl⟩, rfl, .name t, plain_ignores_of_find? ?_⟩
    simp [leafKeys, Dictionary.find?]

mutual

/-- The canonical form of a query spells it out. -/
theorem spells_encode : (root : Bool) → (q : Query) → plain.Spells root q.encode q
  | root, .leaf l => spells_encode_leaf root l
  | root, .join k children => by
    have hkind : plain.Tells root (.string k.nodeName) (.join k) :=
      .name (by cases k <;> decide)
    refine .join rfl hkind rfl (spellsAll_encodeAll children) (plain_ignores_of_find? ?_)
    simp [joinKeys, Dictionary.find?]

/-- The canonical forms of some queries spell them out. -/
theorem spellsAll_encodeAll : (qs : List Query) → plain.SpellsAll (Query.encodeAll qs) qs
  | [] => .nil
  | q :: rest => .cons (spells_encode false q) (spellsAll_encodeAll rest)

end

theorem Tells.isScalar {g : Grammar} {root : Bool} {j : Json} {kind : NodeKind}
    (h : g.Tells root j kind) : j.isScalar := by
  cases h <;> rfl

theorem isScalar_of_fixes_plain {j : Json} {t : Option ScalarType} (h : plain.Fixes j t) :
    j.isScalar := by
  cases h with
  | null | name => rfl
  | wrapped hg => cases hg

/-- No member that a plain leaf reads has parts if its value has none. -/
theorem LeafMembers.isScalar {root : Bool} {members : List (String × Json)} {l : Leaf} {tag : Json}
    (h : plain.LeafMembers members l) (htag : Dictionary.find? "type" members = some tag)
    (hkind : plain.Tells root tag (.leaf l.fieldType)) (hvalue : l.value.isScalar) :
    ∀ key ∈ leafKeys, ∀ j, Dictionary.find? key members = some j → j.isScalar := by
  simp only [leafKeys, List.forall_mem_cons]
  refine ⟨?type, ?column, ?operator, ?operatorName, ?value, ?valueType, nofun⟩
  case type =>
    intro j hfound
    cases htag.symm.trans hfound
    exact hkind.isScalar
  case column =>
    intro j hfound
    cases h.column.symm.trans hfound
    rfl
  case operator =>
    intro j hfound
    rcases h.operator with ⟨hfirst, -⟩ | ⟨hmissing, -⟩
    · cases hfirst.symm.trans hfound
      rfl
    · cases hmissing.symm.trans hfound
  case operatorName =>
    intro j hfound
    rcases h.operator with ⟨-, hmissing⟩ | ⟨-, hsecond⟩
    · cases hmissing.symm.trans hfound
    · cases hsecond.symm.trans hfound
      rfl
  case value =>
    intro j hfound
    have hcarried := h.value
    rw [hfound, Option.getD_some] at hcarried
    exact hcarried ▸ hvalue
  case valueType =>
    intro j hfound
    have hfixes := h.valueType
    rw [hfound, Option.getD_some] at hfixes
    exact isScalar_of_fixes_plain hfixes

/-- An object is as deep as the members that are read from it: the others have no parts. -/
theorem Ignores.depth_le {keys : List String} {members : List (String × Json)} {n : Nat}
    (h : plain.Ignores keys members) (hpos : 0 < n)
    (hread : ∀ key ∈ keys, ∀ j, Dictionary.find? key members = some j → j.depth ≤ n) :
    (Json.object members).depth ≤ 1 + n := by
  have hmembers : ∀ m ∈ members, m.2.depth ≤ n := by
    intro m hm
    rcases h m hm with ⟨hkey, hfound⟩ | hignored
    · exact hread m.1 hkey m.2 hfound
    · rw [Json.depth_eq_one_of_isScalar hignored]
      exact hpos
  rw [Json.depth]
  exact Nat.add_le_add_left ((Json.depthOfMembers_le_iff members n).mpr hmembers) 1

mutual

/-- A query whose values have no parts takes two levels of JSON a level. -/
theorem Spells.depth_le {root : Bool} {j : Json} {q : Query} :
    plain.Spells root j q → (∀ l ∈ q.leaves, l.value.isScalar) → j.depth ≤ 2 * q.depth
  | @Spells.leaf _ _ members _ l htag hkind hleaf, hvalues => by
    have hvalue : l.value.isScalar := hvalues l (List.mem_singleton.mpr rfl)
    refine hleaf.others.depth_le Nat.one_pos fun key hkey j hfound => Nat.le_of_eq ?_
    exact Json.depth_eq_one_of_isScalar (hleaf.isScalar htag hkind hvalue key hkey j hfound)
  | @Spells.join _ _ members tag k items children htag hkind hitems hchildren hothers, hvalues => by
    have hall : Json.depthOfItems items ≤ 2 * Query.depthOfAll children :=
      hchildren.depthOfItems_le hvalues
    -- The object is one level, and the array of the children the other one.
    have hdepth : (Json.object members).depth ≤ 1 + (1 + 2 * Query.depthOfAll children) := by
      refine hothers.depth_le (by omega) ?_
      simp only [joinKeys, List.forall_mem_cons]
      refine ⟨?type, ?children, nofun⟩
      case type =>
        intro j hfound
        cases htag.symm.trans hfound
        rw [Json.depth_eq_one_of_isScalar hkind.isScalar]
        omega
      case children =>
        intro j hfound
        cases hitems.symm.trans hfound
        rw [Json.depth]
        omega
    rw [Query.depth]
    omega
  | .leafItems hg _ _, _ => nomatch hg
  | .joinItems hg _ _, _ => nomatch hg

/-- Queries in a row whose values have no parts take two levels of JSON a level. -/
theorem SpellsAll.depthOfItems_le {items : List Json} {children : List Query} :
    plain.SpellsAll items children → (∀ l ∈ Query.leavesOfAll children, l.value.isScalar) →
      Json.depthOfItems items ≤ 2 * Query.depthOfAll children
  | .nil, _ => Nat.zero_le _
  | .cons hfirst hrest, hvalues => by
    rw [Query.leavesOfAll, List.forall_mem_append] at hvalues
    have hle := hfirst.depth_le hvalues.1
    have hles := hrest.depthOfItems_le hvalues.2
    rw [Json.depthOfItems, Query.depthOfAll]
    omega

end

end Grammar

namespace Query

/-- A JSON value gives a query back if the query is valid, and is malformed if not. -/
def ReadsBackFrom (q : Query) (j : Json) : Prop :=
  (q.validate = .ok () → ofJson j = .ok q) ∧
    (q.validate ≠ .ok () → ∃ m, ofJson j = .error (.malformed m))

theorem readsBackFrom_of_spells {q : Query} {j : Json} (h : plain.Spells true j q) :
    q.ReadsBackFrom j := by
  constructor
  · intro hvalid
    have hq := q.validate_eq_ok_iff.mp hvalid
    have hdepth : j.depth ≤ 2 * q.depth := h.depth_le fun l hl => (hq.leaf l hl).value
    have hmax : q.depth ≤ maxDepth := hq.depth_le
    have hnesting : j.depth ≤ maxNesting := Nat.le_trans hdepth (Nat.mul_le_mul_left 2 hmax)
    exact ofJson_eq_ok_iff.mpr ⟨hnesting, h.accepted, hq⟩
  · intro hinvalid
    refine (ofJson_eq_ok_or_malformed j).resolve_left ?_
    rintro ⟨q', hread⟩
    obtain ⟨-, hspells, hq'⟩ := ofJson_eq_ok_iff.mp hread
    -- Reading is a function, so the query that was read is the one that was written.
    have heq : q = q' :=
      Except.ok.inj ((read_eq_ok_iff.mpr h.accepted).symm.trans (read_eq_ok_iff.mpr hspells))
    exact hinvalid (heq ▸ q'.validate_eq_ok_iff.mpr hq')

/-- Valid queries are the well-formed ones, and every query reads back from its canonical form and
from every other plain form that spells it out: with any name of its leaves' kinds, with the
operator under either key, with or without a null value, in any order of members and among others
that have no parts. -/
theorem ofJson_reads_back (q : Query) :
    (q.validate = .ok () ↔ q.WellFormed) ∧ q.ReadsBackFrom q.encode ∧
      ∀ j, plain.Spells true j q → q.ReadsBackFrom j :=
  ⟨q.validate_eq_ok_iff, readsBackFrom_of_spells (spells_encode true q),
    fun _ h => readsBackFrom_of_spells h⟩

/-- Another name of a kind, the other key of the operator, no value, and members that nobody
reads. -/
theorem ofJson_reads_back_variant :
    let leaf : Leaf := ⟨.numeric, "age", "isNull", .null, none⟩
    let members := [("column", Json.string "age"), ("note", .bool true),
      ("operatorName", .string "isNull"), ("type", .string "IntQuery")]
    let j := Json.object [("children", .array [.object members]), ("note", .null),
      ("type", .string "OrQuery")]
    plain.Spells true j (.join .or [.leaf leaf]) ∧ ofJson j = .ok (.join .or [.leaf leaf]) := by
  intro leaf members j
  have hleaf : plain.Spells false (.object members) (.leaf leaf) := by
    refine .leaf rfl (.name (by decide)) ⟨rfl, .inr ⟨rfl, rfl⟩, rfl, .null, ?_⟩
    simp [members, Grammar.Ignores, leafKeys, plain, Json.isScalar, Dictionary.find?]
  have hspells : plain.Spells true j (.join .or [.leaf leaf]) := by
    refine .join rfl (.name (by decide)) rfl (.cons hleaf .nil) ?_
    simp [Grammar.Ignores, joinKeys, plain, Json.isScalar, Dictionary.find?]
  have hwell : (join .or [.leaf leaf]).WellFormed :=
    ⟨by decide, List.forall_mem_singleton.mpr ⟨by decide, by decide, rfl⟩⟩
  obtain ⟨hvalid, -, hreads⟩ := ofJson_reads_back (join .or [.leaf leaf])
  exact ⟨hspells, (hreads j hspells).1 (hvalid.mpr hwell)⟩

end Query

end FilterQuery
