import FilterQuery.Json.Nesting
import FilterQuery.Proofs.Dictionary

/-!
# The bound on nesting

The walk of `nestsWithin` visits pending values in an order of its own, and what it decides does not
depend on it: every pending value has to end within the limit, counted from the level on which it
stands.
-/

namespace FilterQuery.Json

/-- Items are no deeper than a bound exactly when none of them is. -/
theorem depthOfItems_le_iff (items : List Json) (n : Nat) :
    depthOfItems items ≤ n ↔ ∀ j ∈ items, j.depth ≤ n := by
  induction items with
  | nil => simp [depthOfItems]
  | cons j rest ih => rw [depthOfItems, Nat.max_le, ih, List.forall_mem_cons]

theorem depthOfMembers_eq (members : List (String × Json)) :
    depthOfMembers members = depthOfItems (members.map (·.2)) := by
  induction members with
  | nil => rfl
  | cons m rest ih => rw [depthOfMembers, ih, List.map_cons, depthOfItems]

/-- Members are no deeper than a bound exactly when none of them is. -/
theorem depthOfMembers_le_iff (members : List (String × Json)) (n : Nat) :
    depthOfMembers members ≤ n ↔ ∀ m ∈ members, m.2.depth ≤ n := by
  rw [depthOfMembers_eq, depthOfItems_le_iff, List.forall_mem_map]

theorem depth_eq_one_of_isScalar {j : Json} (h : j.isScalar) : j.depth = 1 := by
  cases j with
  | array | object => cases h
  | _ => rfl

/-- A value is one level deeper than its parts. -/
theorem depth_eq (j : Json) : j.depth = 1 + depthOfItems j.parts := by
  cases j <;> simp [depth, parts, depthOfItems, depthOfMembers_eq]

theorem depth_pos (j : Json) : 0 < j.depth := by
  rw [depth_eq]
  omega

/-- A part of a value is less deep than the value. -/
theorem depth_lt_of_mem_parts {j part : Json} (h : part ∈ j.parts) : part.depth < j.depth := by
  have hle := (depthOfItems_le_iff j.parts _).mp (Nat.le_refl _) part h
  rw [j.depth_eq]
  omega

/-- What a key finds in an object is less deep than the object. -/
theorem depth_lt_of_find?_eq_some {key : String} {members : List (String × Json)} {j : Json}
    (h : Dictionary.find? key members = some j) : j.depth < (Json.object members).depth :=
  depth_lt_of_mem_parts (List.mem_map_of_mem (Dictionary.mem_of_find?_eq_some h))

/-- Pending values nest within a limit exactly when each of them ends within it. -/
theorem nestsWithin_iff (limit : Nat) (pending : List (Json × Nat)) :
    nestsWithin limit pending = true ↔ ∀ p ∈ pending, p.2 + p.1.depth ≤ limit + 1 := by
  induction pending using nestsWithin.induct limit with
  | case1 => simp [nestsWithin]
  | case2 j level pending hlevel =>
    have hpos := j.depth_pos
    simp only [nestsWithin, hlevel, ite_true, Bool.false_eq_true, List.forall_mem_cons, false_iff]
    omega
  | case3 j level pending hlevel ih =>
    have hparts : (∀ p ∈ (j.parts.map (·, level + 1)).reverse, p.2 + p.1.depth ≤ limit + 1) ↔
        level + j.depth ≤ limit + 1 := by
      have hbound : level + j.depth ≤ limit + 1 ↔ depthOfItems j.parts ≤ limit - level := by
        rw [depth_eq]
        omega
      rw [hbound, depthOfItems_le_iff]
      simp only [List.mem_reverse, List.forall_mem_map]
      refine forall₂_congr fun x _ => ?_
      omega
    rw [nestsWithin, if_neg hlevel, ih, List.forall_mem_append, hparts, List.forall_mem_cons]

/-- A value nests within a limit exactly when it is no deeper. -/
theorem nestsWithin_root_iff (limit : Nat) (j : Json) :
    nestsWithin limit [(j, 1)] = true ↔ j.depth ≤ limit := by
  rw [nestsWithin_iff, List.forall_mem_singleton]
  change 1 + j.depth ≤ limit + 1 ↔ j.depth ≤ limit
  omega

end FilterQuery.Json
