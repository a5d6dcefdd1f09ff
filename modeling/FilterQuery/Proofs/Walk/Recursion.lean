import FilterQuery.Proofs.Sql.Depth
import FilterQuery.Proofs.Sql.Walks
import FilterQuery.Proofs.Walk.Basic

/-!
# Walks that compute recursions

Three walks: over a condition for its comparisons and for its deepest level, and over a JSON value
for a node beyond a level. Each takes at most as many turns as there are nodes, and comes to what
recursion on the tree does. Comparisons come out in their order because operands take the place of
their join; the other two put the last part first, and what they come to does not depend on it.
-/

namespace FilterQuery

namespace Sql.Condition

/-- The walk for the comparisons of a condition. -/
def gathering : Walk Condition (List Comparison) where
  visit
    | .compare comparison, gathered => gathered ++ [comparison]
    | .join _ _, gathered => gathered
  parts c := some c.operands

/-- The walk for the deepest level of a condition. -/
def deepening : Walk (Condition × ℕ) ℕ where
  visit p seen := max seen p.2
  parts p := some (onLevel (p.2 + 1) p.1.operands).reverse

theorem comesTo_gathering :
    gathering.ComesTo sizeOfAll fun pending gathered => gathered ++ collect pending where
  load_nil := rfl
  load_turn_lt := by
    intro c pending gathered
    simp only [Walk.turn, gathering, sizeOfAll_append, sizeOfAll, size_eq c]
    omega
  answer_nil gathered := by rw [collect, List.append_nil]
  answer_turn := by
    rintro (x | ⟨k, operands⟩) pending gathered
    · simp only [Walk.turn, gathering, Condition.operands, List.nil_append, collect,
        List.append_assoc, List.singleton_append]
    · simp only [Walk.turn, gathering, Condition.operands, collect]

theorem comesTo_deepening : deepening.ComesTo (fun pending => sizeOfAll (pending.map (·.1)))
    fun pending seen => deepest seen pending where
  load_nil := rfl
  load_turn_lt := by
    rintro ⟨c, level⟩ pending seen
    simp only [Walk.turn, deepening, List.map_append, List.map_reverse, map_fst_onLevel,
      sizeOfAll_append, sizeOfAll_reverse, List.map_cons, sizeOfAll, size_eq c]
    omega
  answer_nil seen := by rw [deepest]
  answer_turn := by
    rintro ⟨c, level⟩ pending seen
    simp only [Walk.turn, deepening, deepest]

end Sql.Condition

namespace Json

/-- The walk that looks for a node beyond a level, and ends at the first one. -/
def limiting (limit : ℕ) : Walk (Json × ℕ) Bool where
  visit p within := within && p.2 ≤ limit
  parts p := if limit < p.2 then none else some (p.1.parts.map (·, p.2 + 1)).reverse

theorem comesTo_limiting (limit : ℕ) : (limiting limit).ComesTo pendingSize
    fun pending within => within && nestsWithin limit pending where
  load_nil := rfl
  load_turn_lt := by
    rintro ⟨j, level⟩ pending within
    have hparts : (j.parts.map (·, level + 1)).map (·.1) = j.parts := by
      rw [List.map_map]
      exact List.map_id _
    by_cases hlevel : limit < level
    · simp only [Walk.turn, limiting, hlevel, ite_true, pendingSize, List.map_nil, List.map_cons,
        sizeOfItems, size_eq j]
      omega
    · simp only [Walk.turn, limiting, hlevel, ite_false, pendingSize, List.map_append,
        List.map_reverse, hparts, sizeOfItems_append, sizeOfItems_reverse, List.map_cons,
        sizeOfItems, size_eq j]
      omega
  answer_nil within := by rw [nestsWithin, Bool.and_true]
  answer_turn := by
    rintro ⟨j, level⟩ pending within
    by_cases hlevel : limit < level
    · have hbeyond : decide (level ≤ limit) = false := decide_eq_false (Nat.not_le_of_lt hlevel)
      simp only [Walk.turn, limiting, hlevel, ite_true, hbeyond, nestsWithin, Bool.and_false,
        Bool.false_and]
    · have hwithin : decide (level ≤ limit) = true := decide_eq_true (Nat.le_of_not_lt hlevel)
      simp only [Walk.turn, limiting, hlevel, ite_false, hwithin, nestsWithin, Bool.and_true]

end Json

open Sql

/-- The walks over a condition end after as many turns as it has parts, with its comparisons from
left to right and with its levels as recursion counts them. The walk over a JSON value ends after as
many turns as there are values in it, or sooner; it finds nothing exactly when the value is at most
126 deep, and a deeper one is no query. -/
theorem walks_compute_recursions :
    (∀ c : Condition, Condition.gathering.turn^[c.size] ([c], []) = ([], c.comparisons) ∧
      c.comparisons = c.leaves) ∧
    (∀ c : Condition, Condition.deepening.turn^[c.size] ([(c, 1)], 0) = ([], c.depth) ∧
      c.depth = c.height) ∧
    ∀ j : Json,
      (Json.limiting Query.maxNesting).turn^[j.size] ([(j, 1)], true) =
        ([], Json.nestsWithin Query.maxNesting [(j, 1)]) ∧
      (Json.nestsWithin Query.maxNesting [(j, 1)] = true ↔ j.depth ≤ 126) ∧
      (126 < j.depth → Query.ofJson j = .error (.malformed (.tooDeep 63))) := by
  refine ⟨fun c => ⟨?_, c.comparisons_eq_leaves⟩, fun c => ⟨?_, c.depth_eq_height⟩,
    fun j => ⟨?_, j.nestsWithin_root_iff Query.maxNesting, ?_⟩⟩
  · exact Condition.comesTo_gathering.iterate_turn [] (Nat.le_refl c.size)
  · exact Condition.comesTo_deepening.iterate_turn 0 (Nat.le_refl c.size)
  · exact (Json.comesTo_limiting Query.maxNesting).iterate_turn true (Nat.le_refl j.size)
  · intro hdeep
    have hbeyond : ¬ Json.nestsWithin Query.maxNesting [(j, 1)] = true := by
      rw [Json.nestsWithin_root_iff]
      exact Nat.not_le_of_lt hdeep
    rw [Query.ofJson, if_neg hbeyond]
    rfl

/-- A value of one level too many. -/
theorem walks_compute_recursions_too_deep :
    let j : Json := (fun j => .array [j])^[126] .null
    j.depth = 127 ∧ 126 < j.depth ∧ Query.ofJson j = .error (.malformed (.tooDeep 63)) := by
  intro j
  have hdepth : j.depth = 127 := by decide +kernel
  have hdeep : 126 < j.depth := by rw [hdepth]; decide
  exact ⟨hdepth, hdeep, (walks_compute_recursions.2.2 j).2.2 hdeep⟩

end FilterQuery
