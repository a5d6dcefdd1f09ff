import FilterQuery.Json.Printer
import FilterQuery.Query.Basic
import FilterQuery.QueryError

/-!
# Queries in JSON

A node is an object whose member `type` tells which members it has: `children` for a node that joins
others; `column`, `operator`, `value` and `valueType` for a leaf. Other members are ignored. A node
may also be an array of the same parts in this order, and a node below the root may tell its kind by
number. `Query.read` reports the first fault in the order of the members' names.
-/

namespace FilterQuery

/-- What a node is. -/
inductive NodeKind where
  /-- It joins its children. -/
  | join (connective : Connective)
  /-- It compares a column of a type. -/
  | leaf (fieldType : ScalarType)
  deriving DecidableEq, Repr

namespace NodeKind

/-- The names of the kinds of nodes. Leaves about numbers and truth values have two names. -/
def known : List (String × NodeKind) := [
  ("AndQuery", .join .and),
  ("OrQuery", .join .or),
  ("StringQuery", .leaf .string),
  ("IntQuery", .leaf .numeric),
  ("NumericQuery", .leaf .numeric),
  ("DateQuery", .leaf .date),
  ("BoolQuery", .leaf .boolean),
  ("BooleanQuery", .leaf .boolean)]

/-- The kinds by number. -/
def numbered : List NodeKind :=
  [.join .and, .join .or, .leaf .string, .leaf .numeric, .leaf .date, .leaf .boolean]

/-- The kind of a name. -/
def ofName (s : String) : Except Malformation NodeKind :=
  match known.lookup s with
  | some kind => .ok kind
  | none => .error (.unknownName s (known.map (·.1)))

/-- The kind of the root, which has to be named. -/
def ofRoot : Json → Except Malformation NodeKind
  | .string s => ofName s
  | j => .error (.wrongKind j.describe "variant identifier")

/-- The kind of a node below the root, by name or by number. -/
def ofChild : Json → Except Malformation NodeKind
  | .string s => ofName s
  | .number (.whole (.ofNat n)) =>
    match numbered[n]? with
    | some kind => .ok kind
    | none =>
      let bound := Text.naturalText numbered.length
      .error (.wrongContent (Json.number (.whole n)).describe ("variant index 0 <= i < " ++ bound))
  | j => .error (.wrongKind j.describe "variant identifier")

end NodeKind

/-- A text. -/
def readText : Json → Except Malformation String
  | .string s => .ok s
  | j => .error (.wrongKind j.describe "a string")

/-- A type by its exact name. -/
def ScalarType.ofExactName (s : String) : Except Malformation ScalarType :=
  match all.find? (·.name = s) with
  | some t => .ok t
  | none => .error (.unknownName s (all.map name))

/-- The type that a leaf fixes for its value: null for none, a name, or an object whose only member
has a type's name and no content. -/
def readValueType : Json → Except Malformation (Option ScalarType)
  | .null => .ok none
  | .string s => (ScalarType.ofExactName s).map some
  | .object [(key, content)] => do
    let t ← ScalarType.ofExactName key
    match content with
    | .null | .object [] => return some t
    | j => throw (.wrongKind j.describe "unit")
  | .object _ => .error (.wrongContent "map" "map with a single key")
  | j => .error (.wrongKind j.describe "string or map")

namespace Leaf

/-- A text among the members of an object, `none` inside where the member is missing. -/
def textMember (key : String) (members : List (String × Json)) :
    Except Malformation (Option String) :=
  match Dictionary.find? key members with
  | some j => (readText j).map some
  | none => .ok none

/-- The operator among the members of an object, which goes by one of two names. -/
def operatorMember (members : List (String × Json)) : Except Malformation (Option String) := do
  match ← textMember "operator" members with
  | none => textMember "operatorName" members
  | some operator =>
    if Dictionary.contains "operatorName" members then throw (.repeatedMember "operator")
    else return some operator

/-- A leaf from the members of an object. -/
def ofMembers (fieldType : ScalarType) (members : List (String × Json)) :
    Except Malformation Leaf := do
  let column ← textMember "column" members
  let operator ← operatorMember members
  let value := (Dictionary.find? "value" members).getD .null
  let valueType ← readValueType ((Dictionary.find? "valueType" members).getD .null)
  match column, operator with
  | some column, some operator => return ⟨fieldType, column, operator, value, valueType⟩
  | none, _ => throw (.missingMember "column")
  | some _, none => throw (.missingMember "operator")

/-- A leaf from the items of an array: column, operator, and where they are given value and type of
the value. -/
def ofItems (fieldType : ScalarType) (items : List Json) : Except Malformation Leaf :=
  match items with
  | [] => .error (.wrongLength 0 "struct LeafNode with 4 elements")
  | [column] => do
    let _ ← readText column
    throw (.wrongLength 1 "struct LeafNode with 4 elements")
  | column :: operator :: rest => do
    let column ← readText column
    let operator ← readText operator
    match rest with
    | [] => return ⟨fieldType, column, operator, .null, none⟩
    | [value] => return ⟨fieldType, column, operator, value, none⟩
    | value :: valueType :: surplus =>
      let valueType ← readValueType valueType
      if surplus.isEmpty then return ⟨fieldType, column, operator, value, valueType⟩
      else throw (.wrongLength (4 + surplus.length) "4 elements in sequence")

end Leaf

namespace Query

mutual

/-- The query that a JSON value spells out, with a reading of its kind. -/
def readNode (kindOf : Json → Except Malformation NodeKind) : Json → Except Malformation Query
  | .object members =>
    match Dictionary.find? "type" members with
    | none => .error (.missingMember "type")
    | some kind =>
      match kindOf kind with
      | .error e => .error e
      | .ok (.leaf fieldType) => (Leaf.ofMembers fieldType members).map .leaf
      | .ok (.join connective) => (readChildrenMember members).map (.join connective)
  | .array [] => .error (.missingMember "type")
  | .array (kind :: items) =>
    match kindOf kind with
    | .error e => .error e
    | .ok (.leaf fieldType) => (Leaf.ofItems fieldType items).map .leaf
    | .ok (.join connective) => (readChildrenItem connective items).map (.join connective)
  | j => .error (.wrongKind j.describe "internally tagged enum QueryNode")

/-- The children among the members of an object. -/
def readChildrenMember : List (String × Json) → Except Malformation (List Query)
  | [] => .error (.missingMember "children")
  | (key, j) :: rest => if key = "children" then readChildren j else readChildrenMember rest

/-- The children as the only item of an array. -/
def readChildrenItem (connective : Connective) : List Json → Except Malformation (List Query)
  | [] =>
    .error (.wrongLength 0 ("struct variant QueryNode::" ++ connective.nodeName ++
      " with 1 element"))
  | j :: surplus =>
    match readChildren j with
    | .error e => .error e
    | .ok children =>
      if surplus.isEmpty then .ok children
      else .error (.wrongLength (1 + surplus.length) "1 element in sequence")

/-- The children in an array. -/
def readChildren : Json → Except Malformation (List Query)
  | .array items => readAll items
  | j => .error (.wrongKind j.describe "a sequence")

/-- The queries that some JSON values spell out. -/
def readAll : List Json → Except Malformation (List Query)
  | [] => .ok []
  | j :: rest =>
    match readNode NodeKind.ofChild j with
    | .error e => .error e
    | .ok q => (readAll rest).map (q :: ·)

end

/-- The query that a JSON value spells out. -/
def read (j : Json) : Except Malformation Query := readNode NodeKind.ofRoot j

end Query

end FilterQuery
