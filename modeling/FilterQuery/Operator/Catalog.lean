import FilterQuery.Operator.Basic

/-!
# Catalogs of operators

A catalog holds at most one operator of each name, in the order in which the names were first
registered. Registering a name again replaces its operator and keeps its place. Beside every
operator stands a table with its rule under each pair of types that it takes. The table is made when
the operator is registered, and what a pair of types finds is read from it.
-/

namespace FilterQuery

namespace Operator

/-- A way to make a comparison. -/
abbrev Rule := Input → Except QueryError Comparison

/-- Rules by the type of the column and the type of the value. -/
abbrev Table := List ((ScalarType × ScalarType) × Rule)

/-- The pairs of types that an operator takes. -/
def typePairs (op : Operator) : List (ScalarType × ScalarType) :=
  op.fieldTypes.flatMap fun f => op.valueTypes.map fun v => (f, v)

/-- The rule of an operator under each pair of types that it takes. -/
def table (op : Operator) : Table := op.typePairs.map fun types => (types, op.apply)

theorem mem_typePairs_iff {op : Operator} {fieldType valueType : ScalarType} :
    (fieldType, valueType) ∈ op.typePairs ↔ op.supports fieldType valueType = true := by
  simp [typePairs, supports]

/-- In a table with one rule for all its pairs a pair finds that rule. -/
private theorem lookup_map_rule (rule : Rule) (pairs : List (ScalarType × ScalarType))
    (types : ScalarType × ScalarType) :
    (pairs.map fun p => (p, rule)).lookup types = if types ∈ pairs then some rule else none := by
  induction pairs with
  | nil => rfl
  | cons p pairs ih =>
    rw [List.map_cons, List.lookup_cons, ih]
    by_cases h : types = p
    · simp [h]
    · have hbeq : (types == p) = false := beq_eq_false_iff_ne.mpr h
      simp [h, hbeq]

/-- A pair of types finds the rule exactly when the operator takes both. -/
theorem lookup_table (op : Operator) (fieldType valueType : ScalarType) :
    op.table.lookup (fieldType, valueType) =
      if op.supports fieldType valueType then some op.apply else none := by
  simp only [table, lookup_map_rule, mem_typePairs_iff]

end Operator

namespace Catalog

/-- An operator in a catalog with its table. -/
structure Entry where
  /-- The operator. -/
  operator : Operator
  /-- Its rule under each pair of types. -/
  table : Operator.Table
  /-- The table is the one of the operator. -/
  table_eq : table = operator.table

/-- The entry of an operator. -/
def Entry.of (op : Operator) : Entry := ⟨op, op.table, rfl⟩

/-- The name of an entry. -/
def Entry.name (e : Entry) : String := e.operator.name

@[simp] theorem Entry.operator_of (op : Operator) : (Entry.of op).operator = op := rfl

@[simp] theorem Entry.name_of (op : Operator) : (Entry.of op).name = op.name := rfl

/-- An entry put among others, in the place of the one of its name or at the end, and the entry
that it replaces. -/
def put (e : Entry) : List Entry → Option Entry × List Entry
  | [] => (none, [e])
  | first :: rest =>
    if first.name = e.name then (some first, e :: rest)
    else ((put e rest).1, first :: (put e rest).2)

/-- Putting an entry adds its name at the end or changes no name. -/
theorem map_name_put (e : Entry) (entries : List Entry) :
    (put e entries).2.map Entry.name =
      if e.name ∈ entries.map Entry.name then entries.map Entry.name
      else entries.map Entry.name ++ [e.name] := by
  induction entries with
  | nil => simp [put]
  | cons first rest ih =>
    rw [put]
    by_cases h : first.name = e.name
    · simp [h]
    · have h' : e.name ≠ first.name := fun heq => h heq.symm
      rw [if_neg h, List.map_cons, ih]
      by_cases hm : e.name ∈ rest.map Entry.name
      · simp [hm]
      · rw [if_neg hm, if_neg]
        · simp
        · simp only [List.map_cons, List.mem_cons, not_or]
          exact ⟨h', hm⟩

theorem nodup_map_name_put {e : Entry} {entries : List Entry}
    (h : (entries.map Entry.name).Nodup) : ((put e entries).2.map Entry.name).Nodup := by
  rw [map_name_put]
  split
  · exact h
  · rename_i hm
    refine List.nodup_append.mpr ⟨h, by simp, ?_⟩
    rintro a ha b hb rfl
    exact hm (List.mem_singleton.mp hb ▸ ha)

end Catalog

/-- Operators with distinct names. -/
structure Catalog where
  /-- The entries in the order of their names' first registration. -/
  entries : List Catalog.Entry
  /-- No two operators share a name. -/
  distinct : (entries.map Catalog.Entry.name).Nodup

namespace Catalog

/-- The catalog without operators. -/
def empty : Catalog := ⟨[], List.nodup_nil⟩

/-- The number of operators. -/
def size (c : Catalog) : Nat := c.entries.length

/-- The operators, in order. -/
def operators (c : Catalog) : List Operator := c.entries.map (·.operator)

/-- The names of the operators, in order. -/
def names (c : Catalog) : List String := c.entries.map Entry.name

/-- The entry of a name. -/
def entryOf? (c : Catalog) (name : String) : Option Entry := c.entries.find? (·.name = name)

/-- The operator of a name. -/
def find? (c : Catalog) (name : String) : Option Operator := (c.entryOf? name).map (·.operator)

/-- Whether some operator has a name. -/
def contains (c : Catalog) (name : String) : Bool := c.names.contains name

/-- The operator of a name with the rule that its table has for a column of one type and a value of
another. -/
def lookup? (c : Catalog) (name : String) (fieldType valueType : ScalarType) :
    Option Operator := do
  let e ← c.entryOf? name
  let rule ← e.table.lookup (fieldType, valueType)
  return { e.operator with apply := rule }

/-- The types of values that the operator of a name takes; none for a name without operator. -/
def valueTypes (c : Catalog) (name : String) : List ScalarType :=
  match c.find? name with
  | some op => op.valueTypes
  | none => []

/-- The operators that take columns of a type. -/
def forFieldType (c : Catalog) (fieldType : ScalarType) : List Operator :=
  c.operators.filter (·.fieldTypes.contains fieldType)

/-- Enters an operator: whether it replaces one of its name, and the catalog that has it. -/
def enter (c : Catalog) (op : Operator) : Bool × Catalog :=
  ((put (.of op) c.entries).1.isSome,
    ⟨(put (.of op) c.entries).2, nodup_map_name_put c.distinct⟩)

/-- Whether an operator would replace one of its name. -/
def replaces (c : Catalog) (op : Operator) : Bool := (c.enter op).1

/-- The catalog with one more operator, or with another operator of its name. -/
def register (c : Catalog) (op : Operator) : Catalog := (c.enter op).2

/-- The table of an operator gives back the operator, for the types that it takes. -/
theorem lookup?_eq (c : Catalog) (name : String) (fieldType valueType : ScalarType) :
    c.lookup? name fieldType valueType =
      (c.find? name).filter (·.supports fieldType valueType) := by
  rw [lookup?, find?]
  cases c.entryOf? name with
  | none => rfl
  | some e =>
    obtain ⟨op, _, rfl⟩ := e
    have hrule := op.lookup_table fieldType valueType
    by_cases h : op.supports fieldType valueType = true
    · simp [hrule, h, Option.filter]
    · simp [hrule, h, Option.filter]

end Catalog

end FilterQuery
