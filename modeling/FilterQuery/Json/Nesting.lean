import FilterQuery.Json.Basic

/-!
# Nesting of JSON values

The depth of a value counts the value itself and every item and member on the longest way down,
scalars included. `nestsWithin` decides a bound on it with a list of pending values, so that the
depth of its input does not become the depth of its own calls.
-/

namespace FilterQuery.Json

mutual

/-- The number of values on the longest way from a value down to a scalar or an empty container. -/
def depth : Json → Nat
  | .array items => 1 + depthOfItems items
  | .object members => 1 + depthOfMembers members
  | _ => 1

/-- The depth of the deepest item. -/
def depthOfItems : List Json → Nat
  | [] => 0
  | j :: rest => max (depth j) (depthOfItems rest)

/-- The depth of the deepest member. -/
def depthOfMembers : List (String × Json) → Nat
  | [] => 0
  | (_, j) :: rest => max (depth j) (depthOfMembers rest)

end

mutual

/-- The number of values in a tree. -/
def size : Json → Nat
  | .array items => 1 + sizeOfItems items
  | .object members => 1 + sizeOfMembers members
  | _ => 1

/-- The number of values among some items. -/
def sizeOfItems : List Json → Nat
  | [] => 0
  | j :: rest => size j + sizeOfItems rest

/-- The number of values among some members. -/
def sizeOfMembers : List (String × Json) → Nat
  | [] => 0
  | (_, j) :: rest => size j + sizeOfMembers rest

end

/-- The values directly below a value. -/
def parts : Json → List Json
  | .array items => items
  | .object members => members.map (·.2)
  | _ => []

/-- The number of values below pending ones and of the pending ones themselves. -/
def pendingSize (pending : List (Json × Nat)) : Nat := sizeOfItems (pending.map (·.1))

theorem sizeOfItems_append (xs ys : List Json) :
    sizeOfItems (xs ++ ys) = sizeOfItems xs + sizeOfItems ys := by
  induction xs with
  | nil => simp [sizeOfItems]
  | cons x xs ih => simp [sizeOfItems, ih, Nat.add_assoc]

theorem sizeOfItems_reverse (xs : List Json) : sizeOfItems xs.reverse = sizeOfItems xs := by
  induction xs with
  | nil => rfl
  | cons x xs ih => simp [sizeOfItems_append, sizeOfItems, ih, Nat.add_comm]

theorem sizeOfMembers_eq (members : List (String × Json)) :
    sizeOfMembers members = sizeOfItems (members.map (·.2)) := by
  induction members with
  | nil => rfl
  | cons m rest ih => simp [sizeOfMembers, sizeOfItems, ih]

/-- A value counts one more than its parts together. -/
theorem size_eq (j : Json) : j.size = 1 + sizeOfItems j.parts := by
  cases j <;> simp [size, parts, sizeOfItems, sizeOfMembers_eq]

/-- Whether no pending value, nor any value below one, lies beyond a level. The last value put on
the list is taken first. -/
def nestsWithin (limit : Nat) : List (Json × Nat) → Bool
  | [] => true
  | (j, level) :: pending =>
    if limit < level then false
    else nestsWithin limit ((j.parts.map (·, level + 1)).reverse ++ pending)
termination_by pending => pendingSize pending
decreasing_by
  simp only [pendingSize, List.map_append, List.map_reverse, List.map_map, List.map_cons,
    sizeOfItems_append, sizeOfItems, sizeOfItems_reverse]
  have hparts : ((fun p : Json × Nat => p.1) ∘ fun x => (x, level + 1)) = id := rfl
  rw [hparts, List.map_id, size_eq]
  omega

end FilterQuery.Json
