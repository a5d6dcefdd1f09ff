import FilterQuery.Proofs.Json.Depth
import FilterQuery.Proofs.Outcome
import FilterQuery.Proofs.Query.Grammar
import FilterQuery.Proofs.Query.WellFormed
import FilterQuery.Query.Parsing

/-!
# What the reader reads

The reader gives a query exactly for the JSON values that spell it out in the accepted grammar. Each
part of the reader has its own equivalence with the part of the grammar that it decides; the
recursion is on the query that comes out.
-/

namespace FilterQuery

open Grammar

namespace NodeKind

/-- A name belongs to a kind exactly when it is listed with it. -/
theorem ofName_eq_ok_iff {s : String} {kind : NodeKind} :
    ofName s = .ok kind ↔ (s, kind) ∈ known := by
  have hlookup : known.lookup s = some kind ↔ (s, kind) ∈ known := by
    constructor
    · intro h
      obtain ⟨before, behind, hknown, -⟩ := List.lookup_eq_some_iff.mp h
      rw [hknown]
      exact List.mem_append_right before List.mem_cons_self
    · intro h
      have hfirst : ∀ entry ∈ known, known.lookup entry.1 = some entry.2 := by decide
      exact hfirst _ h
  rw [ofName, ← hlookup]
  split
  · rename_i found hfound
    rw [hfound, Except.ok.injEq, Option.some.injEq]
  · rename_i hnone
    simp [hnone]

theorem ofRoot_eq_ok_iff {j : Json} {kind : NodeKind} :
    ofRoot j = .ok kind ↔ accepted.Tells true j kind := by
  constructor
  · intro h
    cases j with
    | string s => exact .name (ofName_eq_ok_iff.mp h)
    | _ => cases h
  · intro h
    cases h with
    | name h => exact ofName_eq_ok_iff.mpr h
    | number _ hroot _ => cases hroot

theorem ofChild_eq_ok_iff {j : Json} {kind : NodeKind} :
    ofChild j = .ok kind ↔ accepted.Tells false j kind := by
  constructor
  · intro h
    unfold ofChild at h
    split at h
    · exact .name (ofName_eq_ok_iff.mp h)
    · split at h
      · rename_i n _ hkind
        cases h
        exact .number rfl rfl hkind
      · cases h
    · cases h
  · intro h
    cases h with
    | name h => exact ofName_eq_ok_iff.mpr h
    | @number n _ _ _ h =>
      unfold ofChild
      split
      · rename_i heq
        cases heq
      · rename_i heq
        cases heq
        rw [h]
      · rename_i hother
        exact absurd rfl (hother n)

/-- The reading of a kind at the root or below it. -/
def reader (root : Bool) : Json → Except Malformation NodeKind := if root then ofRoot else ofChild

/-- A kind is read from the JSON values that tell it. -/
theorem reader_eq_ok_iff {root : Bool} {j : Json} {kind : NodeKind} :
    reader root j = .ok kind ↔ accepted.Tells root j kind := by
  cases root with
  | true => exact ofRoot_eq_ok_iff
  | false => exact ofChild_eq_ok_iff

end NodeKind

theorem readText_eq_ok_iff {j : Json} {s : String} : readText j = .ok s ↔ j = .string s := by
  cases j <;> simp [readText]

/-- A type has one exact name. -/
theorem ScalarType.ofExactName_eq_ok_iff {s : String} {t : ScalarType} :
    ofExactName s = .ok t ↔ s = t.name := by
  rw [ofExactName]
  constructor
  · intro h
    split at h
    · rename_i hfound
      cases h
      have hname : decide (t.name = s) = true :=
        List.find?_some (p := fun t : ScalarType => decide (t.name = s)) hfound
      exact (of_decide_eq_true hname).symm
    · cases h
  · rintro rfl
    cases t <;> rfl

/-- The type of a value is read from the JSON values that fix it. -/
theorem readValueType_eq_ok_iff {j : Json} {t : Option ScalarType} :
    readValueType j = .ok t ↔ accepted.Fixes j t := by
  constructor
  · intro h
    unfold readValueType at h
    split at h
    · cases h
      exact .null
    · obtain ⟨t, hname, rfl⟩ := map_eq_ok_iff.mp h
      rw [ScalarType.ofExactName_eq_ok_iff.mp hname]
      exact .name t
    · obtain ⟨t, hname, hcontent⟩ := bind_eq_ok_iff.mp h
      rw [ScalarType.ofExactName_eq_ok_iff.mp hname]
      split at hcontent
      · cases hcontent
        exact .wrapped rfl t (.inl rfl)
      · cases hcontent
        exact .wrapped rfl t (.inr rfl)
      · cases hcontent
    · cases h
    · cases h
  · intro h
    cases h with
    | null => rfl
    | name t => exact map_eq_ok_iff.mpr ⟨t, ScalarType.ofExactName_eq_ok_iff.mpr rfl, rfl⟩
    | wrapped _ t h =>
      refine bind_eq_ok_iff.mpr ⟨t, ScalarType.ofExactName_eq_ok_iff.mpr rfl, ?_⟩
      rcases h with rfl | rfl
      · rfl
      · rfl

namespace Leaf

/-- A text member is missing or a text. -/
theorem textMember_eq_ok_iff {key : String} {members : List (String × Json)} {s : Option String} :
    textMember key members = .ok s ↔ Dictionary.find? key members = s.map .string := by
  rw [textMember]
  cases Dictionary.find? key members with
  | none => cases s <;> simp
  | some j => cases s <;> simp [map_eq_ok_iff, readText_eq_ok_iff]

/-- The operator is found under one of its two keys, and not under both. -/
theorem operatorMember_eq_ok_iff {members : List (String × Json)} {s : String} :
    operatorMember members = .ok (some s) ↔
      (Dictionary.find? "operator" members = some (.string s) ∧
        Dictionary.find? "operatorName" members = none) ∨
      (Dictionary.find? "operator" members = none ∧
        Dictionary.find? "operatorName" members = some (.string s)) := by
  rw [operatorMember, bind_eq_ok_iff]
  constructor
  · rintro ⟨first, hfirst, h⟩
    rw [textMember_eq_ok_iff] at hfirst
    cases first with
    | none => exact .inr ⟨hfirst, textMember_eq_ok_iff.mp h⟩
    | some operator =>
      dsimp only at h
      split at h
      · cases h
      · rename_i hother
        cases h
        exact .inl ⟨hfirst, by simpa [Dictionary.contains] using hother⟩
  · rintro (⟨hfirst, hother⟩ | ⟨hfirst, hother⟩)
    · refine ⟨some s, textMember_eq_ok_iff.mpr hfirst, ?_⟩
      dsimp only
      rw [if_neg (by simp [Dictionary.contains, hother])]
      rfl
    · exact ⟨none, textMember_eq_ok_iff.mpr hfirst, textMember_eq_ok_iff.mpr hother⟩

/-- A leaf is read from the members that spell it out. -/
theorem ofMembers_eq_ok_iff {t : ScalarType} {members : List (String × Json)} {l : Leaf} :
    ofMembers t members = .ok l ↔ l.fieldType = t ∧ accepted.LeafMembers members l := by
  rw [ofMembers]
  constructor
  · intro h
    obtain ⟨column, hcolumn, h⟩ := bind_eq_ok_iff.mp h
    obtain ⟨operator, hoperator, h⟩ := bind_eq_ok_iff.mp h
    obtain ⟨valueType, hvalueType, h⟩ := bind_eq_ok_iff.mp h
    rw [textMember_eq_ok_iff] at hcolumn
    rw [readValueType_eq_ok_iff] at hvalueType
    split at h
    · cases h
      exact ⟨rfl, hcolumn, operatorMember_eq_ok_iff.mp hoperator, rfl, hvalueType,
        ignores_accepted leafKeys members⟩
    · cases h
    · cases h
  · rintro ⟨rfl, h⟩
    refine bind_eq_ok_iff.mpr ⟨some l.column, textMember_eq_ok_iff.mpr h.column, ?_⟩
    refine bind_eq_ok_iff.mpr ⟨some l.operator, operatorMember_eq_ok_iff.mpr h.operator, ?_⟩
    refine bind_eq_ok_iff.mpr ⟨l.valueType, readValueType_eq_ok_iff.mpr h.valueType, ?_⟩
    rw [h.value]
    rfl

/-- A leaf is read from the items that spell it out. -/
theorem ofItems_eq_ok_iff {t : ScalarType} {items : List Json} {l : Leaf} :
    ofItems t items = .ok l ↔ l.fieldType = t ∧ accepted.LeafItems t items l := by
  constructor
  · intro h
    unfold ofItems at h
    split at h
    · cases h
    · obtain ⟨_, -, h⟩ := bind_eq_ok_iff.mp h
      cases h
    · obtain ⟨column, hcolumn, hbehind⟩ := bind_eq_ok_iff.mp h
      obtain ⟨operator, hoperator, hrest⟩ := bind_eq_ok_iff.mp hbehind
      obtain rfl := readText_eq_ok_iff.mp hcolumn
      obtain rfl := readText_eq_ok_iff.mp hoperator
      clear h hbehind
      split at hrest
      · cases hrest
        exact ⟨rfl, .two column operator⟩
      · cases hrest
        exact ⟨rfl, .three column operator _⟩
      · obtain ⟨valueType, hvalueType, hlength⟩ := bind_eq_ok_iff.mp hrest
        split at hlength
        · rename_i hsurplus
          cases hlength
          rw [List.isEmpty_iff.mp hsurplus]
          exact ⟨rfl, .four column operator _ (readValueType_eq_ok_iff.mp hvalueType)⟩
        · cases hlength
  · rintro ⟨-, h⟩
    cases h with
    | two column operator => rfl
    | three column operator value => rfl
    | four column operator value h =>
      refine bind_eq_ok_iff.mpr ⟨column, rfl, bind_eq_ok_iff.mpr ⟨operator, rfl, ?_⟩⟩
      exact bind_eq_ok_iff.mpr ⟨_, readValueType_eq_ok_iff.mpr h, rfl⟩

end Leaf

namespace Query

/-- Children are read from an array. -/
theorem readChildren_eq_ok_iff {j : Json} {children : List Query} :
    readChildren j = .ok children ↔ ∃ items, j = .array items ∧ readAll items = .ok children := by
  cases j <;> simp [readChildren]

/-- The children of an object are read from the array under their key. -/
theorem readChildrenMember_eq_ok_iff {members : List (String × Json)} {children : List Query} :
    readChildrenMember members = .ok children ↔
      ∃ items, Dictionary.find? "children" members = some (.array items) ∧
        readAll items = .ok children := by
  induction members with
  | nil => simp [readChildrenMember, Dictionary.find?]
  | cons m rest ih =>
    obtain ⟨key, j⟩ := m
    rw [readChildrenMember, Dictionary.find?]
    split
    · simp [readChildren_eq_ok_iff]
    · exact ih

/-- The children of an array are its only item, an array. -/
theorem readChildrenItem_eq_ok_iff {k : Connective} {items : List Json} {children : List Query} :
    readChildrenItem k items = .ok children ↔
      ∃ inner, items = [.array inner] ∧ readAll inner = .ok children := by
  constructor
  · intro h
    unfold readChildrenItem at h
    split at h
    · cases h
    · split at h
      · cases h
      · rename_i surplus _ found hfound
        obtain ⟨inner, rfl, hinner⟩ := readChildren_eq_ok_iff.mp hfound
        cases surplus with
        | nil =>
          cases h
          exact ⟨inner, rfl, hinner⟩
        | cons => cases h
  · rintro ⟨inner, rfl, hinner⟩
    simp [readChildrenItem, readChildren, hinner]

variable {kindOf : Json → Except Malformation NodeKind} {q : Query}

/-- An object is read by the kind under its key. -/
theorem readNode_object_eq_ok_iff {members : List (String × Json)} :
    readNode kindOf (.object members) = .ok q ↔
      ∃ tag, Dictionary.find? "type" members = some tag ∧
        ((∃ t l, kindOf tag = .ok (.leaf t) ∧ Leaf.ofMembers t members = .ok l ∧ q = .leaf l) ∨
          ∃ k children, kindOf tag = .ok (.join k) ∧
            readChildrenMember members = .ok children ∧ q = .join k children) := by
  rw [readNode]
  constructor
  · intro h
    split at h
    · cases h
    · rename_i tag htag
      refine ⟨tag, htag, ?_⟩
      split at h
      · cases h
      · rename_i t hkind
        obtain ⟨l, hl, rfl⟩ := map_eq_ok_iff.mp h
        exact .inl ⟨t, l, hkind, hl, rfl⟩
      · rename_i k hkind
        obtain ⟨children, hchildren, rfl⟩ := map_eq_ok_iff.mp h
        exact .inr ⟨k, children, hkind, hchildren, rfl⟩
  · rintro ⟨tag, htag, ⟨t, l, hkind, hl, rfl⟩ | ⟨k, children, hkind, hchildren, rfl⟩⟩
    · simp only [htag, hkind, hl, Except.map]
    · simp only [htag, hkind, hchildren, Except.map]

/-- An array is read by the kind in front. -/
theorem readNode_array_eq_ok_iff {items : List Json} :
    readNode kindOf (.array items) = .ok q ↔
      ∃ tag rest, items = tag :: rest ∧
        ((∃ t l, kindOf tag = .ok (.leaf t) ∧ Leaf.ofItems t rest = .ok l ∧ q = .leaf l) ∨
          ∃ k children, kindOf tag = .ok (.join k) ∧
            readChildrenItem k rest = .ok children ∧ q = .join k children) := by
  constructor
  · intro h
    cases items with
    | nil => cases h
    | cons tag rest =>
      refine ⟨tag, rest, rfl, ?_⟩
      rw [readNode] at h
      split at h
      · cases h
      · rename_i t hkind
        obtain ⟨l, hl, rfl⟩ := map_eq_ok_iff.mp h
        exact .inl ⟨t, l, hkind, hl, rfl⟩
      · rename_i k hkind
        obtain ⟨children, hchildren, rfl⟩ := map_eq_ok_iff.mp h
        exact .inr ⟨k, children, hkind, hchildren, rfl⟩
  · rintro ⟨tag, rest, rfl, ⟨t, l, hkind, hl, rfl⟩ | ⟨k, children, hkind, hchildren, rfl⟩⟩
    · simp only [readNode, hkind, hl, Except.map]
    · simp only [readNode, hkind, hchildren, Except.map]

/-- Nothing is read from a value without parts. -/
theorem isScalar_eq_false_of_readNode {j : Json} (h : readNode kindOf j = .ok q) :
    j.isScalar = false := by
  cases j with
  | array | object => rfl
  | _ => cases h

/-- A leaf is read exactly from the JSON values that spell it out. -/
theorem readNode_leaf_iff (root : Bool) (j : Json) (l : Leaf) :
    readNode (NodeKind.reader root) j = .ok (.leaf l) ↔ accepted.Spells root j (.leaf l) := by
  constructor
  · intro h
    cases j with
    | object members =>
      obtain ⟨tag, htag, ⟨t, _, hkind, hl, ⟨⟩⟩ | ⟨_, _, -, -, ⟨⟩⟩⟩ := readNode_object_eq_ok_iff.mp h
      obtain ⟨rfl, hleaf⟩ := Leaf.ofMembers_eq_ok_iff.mp hl
      exact .leaf htag (NodeKind.reader_eq_ok_iff.mp hkind) hleaf
    | array items =>
      obtain ⟨tag, rest, rfl, ⟨t, _, hkind, hl, ⟨⟩⟩ | ⟨_, _, -, -, ⟨⟩⟩⟩ :=
        readNode_array_eq_ok_iff.mp h
      obtain ⟨rfl, hleaf⟩ := Leaf.ofItems_eq_ok_iff.mp hl
      exact .leafItems rfl (NodeKind.reader_eq_ok_iff.mp hkind) hleaf
    | _ => cases isScalar_eq_false_of_readNode h
  · intro h
    cases h with
    | leaf htag hkind hleaf =>
      have hl := Leaf.ofMembers_eq_ok_iff.mpr ⟨rfl, hleaf⟩
      exact readNode_object_eq_ok_iff.mpr
        ⟨_, htag, .inl ⟨_, l, NodeKind.reader_eq_ok_iff.mpr hkind, hl, rfl⟩⟩
    | leafItems _ hkind hleaf =>
      have hl := Leaf.ofItems_eq_ok_iff.mpr ⟨rfl, hleaf⟩
      exact readNode_array_eq_ok_iff.mpr
        ⟨_, _, rfl, .inl ⟨_, l, NodeKind.reader_eq_ok_iff.mpr hkind, hl, rfl⟩⟩

/-- A node that joins others is read exactly from the JSON values that spell it out, if its children
are. -/
theorem readNode_join_iff (root : Bool) (j : Json) (k : Connective) {children : List Query}
    (hall : ∀ items, readAll items = .ok children ↔ accepted.SpellsAll items children) :
    readNode (NodeKind.reader root) j = .ok (.join k children) ↔
      accepted.Spells root j (.join k children) := by
  constructor
  · intro h
    cases j with
    | object members =>
      obtain ⟨tag, htag, ⟨_, _, -, -, ⟨⟩⟩ | ⟨_, _, hkind, hread, ⟨⟩⟩⟩ :=
        readNode_object_eq_ok_iff.mp h
      obtain ⟨items, hitems, hchildren⟩ := readChildrenMember_eq_ok_iff.mp hread
      exact .join htag (NodeKind.reader_eq_ok_iff.mp hkind) hitems ((hall items).mp hchildren)
        (ignores_accepted joinKeys members)
    | array items =>
      obtain ⟨tag, rest, rfl, ⟨_, _, -, -, ⟨⟩⟩ | ⟨_, _, hkind, hread, ⟨⟩⟩⟩ :=
        readNode_array_eq_ok_iff.mp h
      obtain ⟨inner, rfl, hchildren⟩ := readChildrenItem_eq_ok_iff.mp hread
      exact .joinItems rfl (NodeKind.reader_eq_ok_iff.mp hkind) ((hall inner).mp hchildren)
    | _ => cases isScalar_eq_false_of_readNode h
  · intro h
    cases h with
    | join htag hkind hitems hchildren _ =>
      have hread := readChildrenMember_eq_ok_iff.mpr ⟨_, hitems, (hall _).mpr hchildren⟩
      exact readNode_object_eq_ok_iff.mpr
        ⟨_, htag, .inr ⟨k, children, NodeKind.reader_eq_ok_iff.mpr hkind, hread, rfl⟩⟩
    | joinItems _ hkind hchildren =>
      have hread := (readChildrenItem_eq_ok_iff (k := k)).mpr ⟨_, rfl, (hall _).mpr hchildren⟩
      exact readNode_array_eq_ok_iff.mpr
        ⟨_, _, rfl, .inr ⟨k, children, NodeKind.reader_eq_ok_iff.mpr hkind, hread, rfl⟩⟩

/-- Only the empty list reads as no queries. -/
theorem readAll_nil_iff {items : List Json} :
    readAll items = .ok [] ↔ accepted.SpellsAll items [] := by
  constructor
  · intro h
    cases items with
    | nil => exact .nil
    | cons j rest =>
      rw [readAll] at h
      split at h
      · cases h
      · obtain ⟨others, -, heq⟩ := map_eq_ok_iff.mp h
        cases heq
  · rintro ⟨⟩
    rfl

/-- The first item reads as the first query. -/
theorem readAll_cons_iff {items : List Json} {qs : List Query} :
    readAll items = .ok (q :: qs) ↔ ∃ j rest, items = j :: rest ∧
      readNode (NodeKind.reader false) j = .ok q ∧ readAll rest = .ok qs := by
  constructor
  · intro h
    cases items with
    | nil => cases h
    | cons j rest =>
      rw [readAll] at h
      split at h
      · cases h
      · rename_i first hfirst
        obtain ⟨others, hothers, heq⟩ := map_eq_ok_iff.mp h
        cases heq
        exact ⟨j, rest, rfl, hfirst, hothers⟩
  · rintro ⟨j, rest, rfl, hfirst, hothers⟩
    change readNode NodeKind.ofChild j = .ok q at hfirst
    simp only [readAll, hfirst, hothers, Except.map]

mutual

-- The recursion is on the query: the JSON values of its children are only known from reading them.

/-- A query is read exactly from the JSON values that spell it out. -/
theorem readNode_eq_ok_iff : (q : Query) → (root : Bool) → (j : Json) →
    (readNode (NodeKind.reader root) j = .ok q ↔ accepted.Spells root j q)
  | .leaf l, root, j => readNode_leaf_iff root j l
  | .join k children, root, j => readNode_join_iff root j k (readAll_eq_ok_iff children)

/-- Queries in a row are read exactly from the JSON values that spell them out. -/
theorem readAll_eq_ok_iff : (qs : List Query) → (items : List Json) →
    (readAll items = .ok qs ↔ accepted.SpellsAll items qs)
  | [], items => readAll_nil_iff
  | q :: qs, items => by
    rw [readAll_cons_iff]
    constructor
    · rintro ⟨j, rest, rfl, hfirst, hothers⟩
      exact .cons ((readNode_eq_ok_iff q false j).mp hfirst)
        ((readAll_eq_ok_iff qs rest).mp hothers)
    · rintro (_ | ⟨hfirst, hothers⟩)
      exact ⟨_, _, rfl, (readNode_eq_ok_iff q false _).mpr hfirst,
        (readAll_eq_ok_iff qs _).mpr hothers⟩

end

/-- The JSON values that spell a query out in the accepted grammar are those that it is read
from. -/
theorem read_eq_ok_iff {j : Json} : read j = .ok q ↔ accepted.Spells true j q :=
  readNode_eq_ok_iff q true j

/-- A query is made of the JSON values of bounded depth that spell it out, if it is well formed. -/
theorem ofJson_eq_ok_iff {j : Json} :
    ofJson j = .ok q ↔ j.depth ≤ maxNesting ∧ accepted.Spells true j q ∧ q.WellFormed := by
  rw [ofJson, ← Json.nestsWithin_root_iff, ← read_eq_ok_iff]
  by_cases hdepth : Json.nestsWithin maxNesting [(j, 1)] = true
  · rw [if_pos hdepth]
    cases hread : read j with
    | error e => simp
    | ok q' =>
      rw [map_eq_ok_iff]
      constructor
      · rintro ⟨⟨⟩, hvalid, rfl⟩
        exact ⟨hdepth, rfl, q'.validate_eq_ok_iff.mp hvalid⟩
      · rintro ⟨-, ⟨⟩, hq⟩
        exact ⟨(), q.validate_eq_ok_iff.mpr hq, rfl⟩
  · simp [hdepth]

/-- What gives no query is malformed. -/
theorem ofJson_eq_ok_or_malformed (j : Json) :
    (∃ q, ofJson j = .ok q) ∨ ∃ m, ofJson j = .error (.malformed m) := by
  rw [ofJson]
  split
  · split
    · exact .inr ⟨_, rfl⟩
    · rename_i q _
      rcases q.validate_eq_ok_or_malformed with hvalid | ⟨m, hm⟩
      · exact .inl ⟨q, by rw [hvalid]; rfl⟩
      · exact .inr ⟨m, by rw [hm]; rfl⟩
  · exact .inr ⟨_, rfl⟩

/-- A JSON value gives the well-formed queries that it spells out in the wire format, and those that
it spells out in the accepted grammar where a node leaves the wire format; any other value is
malformed. -/
theorem ofJson_accepts_grammar (j : Json) :
    (∀ q, ofJson j = .ok q ↔ j.depth ≤ maxNesting ∧ q.WellFormed ∧
      (documented.Spells true j q ∨ (accepted.Spells true j q ∧ Departs j q))) ∧
    ((∃ q, ofJson j = .ok q) ∨ ∃ m, ofJson j = .error (.malformed m)) := by
  refine ⟨fun q => ?_, ofJson_eq_ok_or_malformed j⟩
  have hsplit : accepted.Spells true j q ↔ (accepted.Spells true j q ∧ ¬ Departs j q) ∨
      (accepted.Spells true j q ∧ Departs j q) := by
    rw [← and_or_left]
    exact (and_iff_left (Classical.em _).symm).symm
  rw [ofJson_eq_ok_iff, spells_documented_iff, ← hsplit, and_comm (a := q.WellFormed)]

/-- An array that gives a query, though the wire format has only objects. -/
theorem ofJson_accepts_array :
    let j := Json.array [.string "StringQuery", .string "c", .string "equals", .string "x"]
    ofJson j = .ok (.leaf ⟨.string, "c", "equals", .string "x", none⟩) ∧
      ∀ q, ¬ documented.Spells true j q := by
  intro j
  constructor
  · have hspells : accepted.Spells true j (.leaf ⟨.string, "c", "equals", .string "x", none⟩) :=
      .leafItems rfl (.name (by decide)) (.three "c" "equals" (.string "x"))
    refine ofJson_eq_ok_iff.mpr ⟨by decide, hspells, by decide, ?_⟩
    exact List.forall_mem_singleton.mpr ⟨by decide, by decide, rfl⟩
  · intro q
    exact (Departs.items _ q).not_documented true

end Query

end FilterQuery
