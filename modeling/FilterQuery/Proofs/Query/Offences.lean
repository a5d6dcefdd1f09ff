import FilterQuery.Proofs.Condition.Faults
import FilterQuery.Proofs.Query.Depth
import FilterQuery.Proofs.Query.WellFormed

/-!
# The first offence

Validation goes through the nodes of a query in depth-first order, each before its children, and
reports the first one that offends. A node offends by standing beyond the last level, whatever it
is, and a leaf on one of the levels offends by its column, its operator or its value, in this order.
Nodes that join others have no other offence, with or without children.
-/

namespace FilterQuery

/-- What is wrong with a leaf by itself. A later fault counts only where the earlier ones are
missing. -/
inductive Leaf.Offends (l : Leaf) : Malformation → Prop
  /-- The column is blank. -/
  | column (h : Text.isBlankText l.column = true) :
    l.Offends (.blankColumn l.fieldType.nodeName)
  /-- The operator is blank. -/
  | operator (hcolumn : Text.isBlankText l.column = false)
    (h : Text.isBlankText l.operator = true) :
    l.Offends (.blankOperator l.fieldType.nodeName l.column)
  /-- The value is an array or an object. -/
  | value (hcolumn : Text.isBlankText l.column = false)
    (hoperator : Text.isBlankText l.operator = false) (h : l.value.isScalar = false) :
    l.Offends (.valueNotScalar l.fieldType.nodeName l.column)

theorem Leaf.malformation?_eq_some_iff {l : Leaf} {m : Malformation} :
    l.malformation? = some m ↔ l.Offends m := by
  rw [malformation?]
  constructor
  · intro h
    split at h
    · rename_i hcolumn
      cases h
      exact .column hcolumn
    · rename_i hcolumn
      have hcolumn : Text.isBlankText l.column = false := by simpa using hcolumn
      split at h
      · rename_i hoperator
        cases h
        exact .operator hcolumn hoperator
      · rename_i hoperator
        have hoperator : Text.isBlankText l.operator = false := by simpa using hoperator
        split at h
        · rename_i hvalue
          cases h
          exact .value hcolumn hoperator (by simpa using hvalue)
        · cases h
  · rintro (h | ⟨hcolumn, h⟩ | ⟨hcolumn, hoperator, h⟩)
    · simp [h]
    · simp [hcolumn, h]
    · simp [hcolumn, hoperator, h]

namespace Query

mutual

/-- The nodes in depth-first order, each before its children, with their levels. -/
def placed (level : Nat) : Query → List (Nat × Query)
  | .leaf l => [(level, .leaf l)]
  | .join connective children =>
    (level, .join connective children) :: placedOfAll (level + 1) children

/-- The nodes of some queries on a level, each before its children, with their levels. -/
def placedOfAll (level : Nat) : List Query → List (Nat × Query)
  | [] => []
  | q :: rest => placed level q ++ placedOfAll level rest

end

mutual

/-- Without the levels these are the nodes in preorder. -/
theorem map_placed : (q : Query) → (level : Nat) → (placed level q).map (·.2) = q.preorder
  | .leaf _, _ => rfl
  | .join k children, level => by
    rw [placed, List.map_cons, map_placedOfAll children (level + 1), preorder]

theorem map_placedOfAll : (qs : List Query) → (level : Nat) →
    (placedOfAll level qs).map (·.2) = preorderOfAll qs
  | [], _ => rfl
  | q :: rest, level => by
    rw [placedOfAll, List.map_append, map_placed q level, map_placedOfAll rest level,
      preorderOfAll]

end

/-- What is wrong with a node on a level, whatever stands below it. -/
inductive Offends : Nat → Query → Malformation → Prop
  /-- The level is beyond the last one. -/
  | tooDeep {level : Nat} {q : Query} (h : maxDepth < level) : Offends level q (.tooDeep maxDepth)
  /-- The level is one of them, and the node is a leaf with a fault of its own. -/
  | leaf {level : Nat} {l : Leaf} {m : Malformation} (hlevel : level ≤ maxDepth)
    (h : l.Offends m) : Offends level (.leaf l) m

/-- Standing too deep is the offence of the nodes beyond the last level and of no other ones. -/
theorem Offends.eq_tooDeep_iff {level : Nat} {q : Query} {m : Malformation}
    (h : Offends level q m) : m = .tooDeep maxDepth ↔ maxDepth < level := by
  cases h with
  | tooDeep hdeep => exact ⟨fun _ => hdeep, fun _ => rfl⟩
  | @leaf l _ hlevel hl =>
    constructor
    · rintro rfl
      exact absurd (Leaf.malformation?_eq_some_iff.mpr hl) (l.malformation?_ne_tooDeep maxDepth)
    · exact fun hdeep => absurd hdeep (Nat.not_lt.mpr hlevel)

/-- A node that joins others has no other offence, whatever it joins. -/
theorem Offends.lt_of_join {level : Nat} {k : Connective} {children : List Query}
    {m : Malformation} (h : Offends level (.join k children) m) : maxDepth < level := by
  cases h with
  | tooDeep hdeep => exact hdeep

/-- The offence of a node on a level. -/
def offence? : Nat × Query → Option Malformation
  | (level, .leaf l) => if maxDepth < level then some (.tooDeep maxDepth) else l.malformation?
  | (level, .join _ _) => if maxDepth < level then some (.tooDeep maxDepth) else none

theorem offence?_eq_some_iff {p : Nat × Query} {m : Malformation} :
    offence? p = some m ↔ Offends p.1 p.2 m := by
  obtain ⟨level, q⟩ := p
  by_cases hlevel : maxDepth < level
  · have hdeep : offence? (level, q) = some (.tooDeep maxDepth) := by
      cases q <;> exact if_pos hlevel
    rw [hdeep]
    constructor
    · rintro ⟨⟩
      exact .tooDeep hlevel
    · rintro (_ | ⟨hle, -⟩)
      · rfl
      · exact absurd hlevel (Nat.not_lt.mpr hle)
  · cases q with
    | leaf l =>
      rw [offence?, if_neg hlevel, Leaf.malformation?_eq_some_iff]
      constructor
      · exact fun h => .leaf (Nat.not_lt.mp hlevel) h
      · rintro (h | ⟨-, h⟩)
        · exact absurd h hlevel
        · exact h
    | join k children =>
      rw [offence?, if_neg hlevel]
      constructor
      · intro h
        cases h
      · rintro (h | _)
        exact absurd h hlevel

theorem offence?_eq_none_iff {p : Nat × Query} :
    offence? p = none ↔ ∀ m, ¬ Offends p.1 p.2 m := by
  simp only [← offence?_eq_some_iff, Option.eq_none_iff_forall_ne_some, ne_eq]

mutual

/-- Validation from a level finds the first offence among the nodes. -/
theorem malformationAt?_eq_findSome? : (level : Nat) → (q : Query) →
    malformationAt? level q = (placed level q).findSome? offence?
  | level, .leaf l => by rw [malformationAt?, placed, List.findSome?_singleton, offence?]
  | level, .join k children => by
    rw [malformationAt?, placed, List.findSome?_cons, offence?,
      malformationOfAllAt?_eq_findSome? (level + 1) children]
    by_cases hlevel : maxDepth < level
    · rw [if_pos hlevel, if_pos hlevel]
    · rw [if_neg hlevel, if_neg hlevel]

theorem malformationOfAllAt?_eq_findSome? : (level : Nat) → (qs : List Query) →
    malformationOfAllAt? level qs = (placedOfAll level qs).findSome? offence?
  | _, [] => rfl
  | level, q :: rest => by
    rw [malformationOfAllAt?, placedOfAll, List.findSome?_append,
      malformationAt?_eq_findSome? level q, malformationOfAllAt?_eq_findSome? level rest]
    cases (placed level q).findSome? offence? <;> rfl

end

mutual

/-- A node stands at most one level below all those that come before it. -/
theorem level_le_of_placed {limit : Nat} {p : Nat × Query} : {level : Nat} → (q : Query) →
    {before after : List (Nat × Query)} → level ≤ limit + 1 →
    placed level q = before ++ p :: after → (∀ x ∈ before, x.1 ≤ limit) → p.1 ≤ limit + 1
  | level, .leaf l, before, after, hlevel, heq, hbefore => by
    rw [placed, eq_comm, List.append_eq_singleton_iff] at heq
    obtain ⟨-, ⟨⟩⟩ | ⟨-, ⟨⟩⟩ := heq
    exact hlevel
  | level, .join k children, before, after, hlevel, heq, hbefore => by
    rw [placed, List.cons_eq_append_iff] at heq
    obtain ⟨rfl, ⟨⟩⟩ | ⟨before, rfl, heq⟩ := heq
    · exact hlevel
    · obtain ⟨hroot, hbefore⟩ := List.forall_mem_cons.mp hbefore
      exact level_le_of_placedOfAll children (Nat.succ_le_succ hroot) heq hbefore

theorem level_le_of_placedOfAll {limit : Nat} {p : Nat × Query} : {level : Nat} →
    (qs : List Query) → {before after : List (Nat × Query)} → level ≤ limit + 1 →
    placedOfAll level qs = before ++ p :: after → (∀ x ∈ before, x.1 ≤ limit) →
    p.1 ≤ limit + 1
  | level, [], before, after, _, heq, _ => by simp [placedOfAll] at heq
  | level, q :: rest, before, after, hlevel, heq, hbefore => by
    rw [placedOfAll, List.append_eq_append_iff] at heq
    obtain ⟨others, rfl, heq⟩ | ⟨others, heq, hafter⟩ := heq
    · exact level_le_of_placedOfAll rest hlevel heq
        fun x hx => hbefore x (List.mem_append_right _ hx)
    · rw [List.cons_eq_append_iff] at hafter
      obtain ⟨rfl, hafter⟩ | ⟨others, rfl, -⟩ := hafter
      · exact level_le_of_placedOfAll rest hlevel (hafter.trans (List.nil_append _).symm) nofun
      · exact level_le_of_placed q hlevel heq hbefore

end

/-- A node of a query offends, and none does before it. -/
structure OffendsFirst (q : Query) (level : Nat) (node : Query) (m : Malformation) : Prop where
  /-- It has an offence on its level. -/
  offends : Offends level node m
  /-- No node before it in depth-first order has one. -/
  first : ∃ before after, q.placed 1 = before ++ (level, node) :: after ∧
    ∀ p ∈ before, ∀ m', ¬ Offends p.1 p.2 m'

/-- The first node that offends stands on one of the levels or on the one behind them. -/
theorem OffendsFirst.level_le {q node : Query} {level : Nat} {m : Malformation}
    (h : q.OffendsFirst level node m) : level ≤ maxDepth + 1 := by
  obtain ⟨before, after, hplaced, hbefore⟩ := h.first
  have hroot : 1 ≤ maxDepth + 1 := Nat.le_add_left 1 maxDepth
  refine level_le_of_placed q hroot hplaced fun p hp => ?_
  by_contra hlevel
  exact hbefore p hp _ (.tooDeep (Nat.not_le.mp hlevel))

/-- Validation reports the offence of the first node that has one. -/
theorem validate_eq_error_iff {q : Query} {e : QueryError} :
    q.validate = .error e ↔
      ∃ level node m, q.OffendsFirst level node m ∧ e = .malformed m := by
  have hvalidate : q.validate = .error e ↔ ∃ m, q.malformationAt? 1 = some m ∧ e = .malformed m := by
    rw [validate]
    cases q.malformationAt? 1 <;> simp [eq_comm]
  rw [hvalidate, malformationAt?_eq_findSome?]
  constructor
  · rintro ⟨m, hm, rfl⟩
    obtain ⟨before, ⟨level, node⟩, after, hplaced, hnode, hbefore⟩ :=
      List.findSome?_eq_some_iff.mp hm
    refine ⟨level, node, m, ⟨offence?_eq_some_iff.mp hnode, before, after, hplaced, ?_⟩, rfl⟩
    exact fun p hp => offence?_eq_none_iff.mp (hbefore p hp)
  · rintro ⟨level, node, m, ⟨hnode, before, after, hplaced, hbefore⟩, rfl⟩
    refine ⟨m, List.findSome?_eq_some_iff.mpr ⟨before, _, after, hplaced, ?_, ?_⟩, rfl⟩
    · exact offence?_eq_some_iff.mpr hnode
    · exact fun p hp => offence?_eq_none_iff.mpr (hbefore p hp)

/-- What validation says about a query. -/
structure Validated (q : Query) : Prop where
  /-- It accepts queries of at most 63 levels whose leaves have a column and an operator and a
  single value. -/
  ok_iff : q.validate = .ok () ↔ q.depth ≤ 63 ∧ ∀ l ∈ q.leaves,
    Text.isBlankText l.column = false ∧ Text.isBlankText l.operator = false ∧ l.value.isScalar
  /-- It goes through the nodes in depth-first order, each before its children. -/
  order : (q.placed 1).map (·.2) = q.preorder
  /-- It refuses every other query for the first offence in this order. -/
  error_iff : ∀ e, q.validate = .error e ↔
    ∃ level node m, q.OffendsFirst level node m ∧ e = .malformed m
  /-- A node on level 64 is too deep, whatever it is, and no other one is reported as that. -/
  tooDeep_iff : ∀ level node m, q.OffendsFirst level node m →
    (m = .tooDeep 63 ↔ level = 64) ∧ level ≤ 64
  /-- Nodes that join others are never refused for their children or for having none. -/
  composite : ∀ level k children m, q.OffendsFirst level (.join k children) m → level = 64

/-- Validation is exact, and it reports the first offence: excessive nesting of a node before what
the node holds, the column of a leaf before its operator and that before its value. -/
theorem validate_reports_first_offence (q : Query) : q.Validated := by
  refine ⟨?ok_iff, q.map_placed 1, fun e => validate_eq_error_iff, ?tooDeep_iff, ?composite⟩
  case ok_iff =>
    rw [q.validate_eq_ok_iff]
    constructor
    · exact fun h => ⟨h.depth_le, fun l hl => ⟨(h.leaf l hl).1, (h.leaf l hl).2, (h.leaf l hl).3⟩⟩
    · rintro ⟨hdepth, hleaf⟩
      exact ⟨hdepth, fun l hl => ⟨(hleaf l hl).1, (hleaf l hl).2.1, (hleaf l hl).2.2⟩⟩
  case tooDeep_iff =>
    intro level node m h
    have hle : level ≤ 64 := h.level_le
    have hdeep : m = .tooDeep 63 ↔ 63 < level := h.offends.eq_tooDeep_iff
    exact ⟨hdeep.trans ⟨fun hlt => by omega, fun heq => by omega⟩, hle⟩
  case composite =>
    intro level k children m h
    have hle : level ≤ 64 := h.level_le
    have hdeep : 63 < level := h.offends.lt_of_join
    omega

/-- A node without children is passed over, and a blank operator reported before the blank column
behind it. -/
example : (Query.join .or [.join .and [], .leaf ⟨.string, "b", " ", .array [], none⟩,
    .leaf ⟨.date, "", "equals", .null, none⟩]).validate =
      .error (.malformed (.blankOperator "StringQuery" "b")) := rfl

end Query

end FilterQuery
