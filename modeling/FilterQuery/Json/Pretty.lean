import FilterQuery.Json.Printer

/-!
# JSON over several lines

`pretty` writes each item and each member on a line of its own, two spaces further in than the
container that it belongs to. Empty containers stay closed.
-/

namespace FilterQuery.Json

/-- A break and the spaces of a level. -/
def breakAt (level : Nat) : List Char := '\n' :: List.replicate (2 * level) ' '

mutual

/-- The characters of a value on a level. -/
def prettyChars (level : Nat) : Json → List Char
  | .array [] => ['[', ']']
  | .array items => '[' :: prettyItems (level + 1) items ++ breakAt level ++ [']']
  | .object [] => ['\x7b', '\x7d']
  | .object members => '\x7b' :: prettyMembers (level + 1) members ++ breakAt level ++ ['\x7d']
  | .null => "null".toList
  | .bool b => if b then "true".toList else "false".toList
  | .number n => n.text.toList
  | .string s => stringChars s

/-- The items of an array on a level. -/
def prettyItems (level : Nat) : List Json → List Char
  | [] => []
  | [j] => breakAt level ++ prettyChars level j
  | j :: rest => breakAt level ++ prettyChars level j ++ ',' :: prettyItems level rest

/-- The members of an object on a level. -/
def prettyMembers (level : Nat) : List (String × Json) → List Char
  | [] => []
  | [(k, j)] => breakAt level ++ stringChars k ++ [':', ' '] ++ prettyChars level j
  | (k, j) :: rest =>
    breakAt level ++ stringChars k ++ [':', ' '] ++ prettyChars level j ++
      ',' :: prettyMembers level rest

end

/-- The text of a value over several lines. -/
def pretty (j : Json) : String := String.ofList (prettyChars 0 j)

end FilterQuery.Json
