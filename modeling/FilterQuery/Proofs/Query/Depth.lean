import FilterQuery.Proofs.Query.Reading

/-!
# Levels of JSON and levels of queries

Every level of a query takes two levels of the JSON that spells it out, in objects as in arrays: the
node itself, and below it the array of its children, or what tells its kind. JSON within the bound
on nesting therefore holds no query of too many levels, and of the offences that validation reports
this one is never left over.
-/

namespace FilterQuery

namespace Grammar

variable {g : Grammar}

mutual

/-- A query has at most half as many levels as the JSON that spells it out. -/
theorem Spells.two_mul_depth_le {root : Bool} {j : Json} {q : Query} :
    g.Spells root j q → 2 * q.depth ≤ j.depth
  | @Spells.leaf _ _ members tag l htag _ _ => by
    have hobject : tag.depth < (Json.object members).depth := Json.depth_lt_of_find?_eq_some htag
    have hpos := tag.depth_pos
    rw [Query.depth]
    omega
  | @Spells.join _ _ members _ k items children _ _ hitems hchildren _ => by
    have hobject : (Json.array items).depth < (Json.object members).depth :=
      Json.depth_lt_of_find?_eq_some hitems
    have hall := hchildren.two_mul_depthOfAll_le
    rw [Json.depth] at hobject
    rw [Query.depth]
    omega
  | @Spells.leafItems _ _ _ tag items l _ _ => by
    have harray : tag.depth < (Json.array (tag :: items)).depth :=
      Json.depth_lt_of_mem_parts List.mem_cons_self
    have hpos := tag.depth_pos
    rw [Query.depth]
    omega
  | @Spells.joinItems _ _ _ tag k items children _ hchildren => by
    have harray : (Json.array items).depth < (Json.array [tag, .array items]).depth :=
      Json.depth_lt_of_mem_parts (List.mem_cons_of_mem tag List.mem_cons_self)
    have hall := hchildren.two_mul_depthOfAll_le
    rw [Json.depth] at harray
    rw [Query.depth]
    omega

/-- Queries in a row have at most half as many levels as the JSON that spells them out. -/
theorem SpellsAll.two_mul_depthOfAll_le {items : List Json} {children : List Query} :
    g.SpellsAll items children → 2 * Query.depthOfAll children ≤ Json.depthOfItems items
  | .nil => Nat.zero_le _
  | .cons hfirst hrest => by
    have hle := hfirst.two_mul_depth_le
    have hles := hrest.two_mul_depthOfAll_le
    rw [Json.depthOfItems, Query.depthOfAll]
    omega

end

end Grammar

/-- A leaf by itself has no levels too many. -/
theorem Leaf.malformation?_ne_tooDeep (l : Leaf) (n : Nat) :
    l.malformation? ≠ some (.tooDeep n) := by
  rw [malformation?]
  intro h
  split at h
  · cases h
  · split at h
    · cases h
    · split at h
      · cases h
      · cases h

namespace Query

mutual

/-- A query that ends within the levels does not have too many of them. -/
theorem malformationAt?_ne_tooDeep (n : Nat) : {level : Nat} → (q : Query) →
    level + q.depth ≤ maxDepth + 1 → q.malformationAt? level ≠ some (.tooDeep n)
  | level, .leaf l, h => by
    rw [depth] at h
    rw [malformationAt?, if_neg (by omega)]
    exact l.malformation?_ne_tooDeep n
  | level, .join k children, h => by
    rw [depth, ← Nat.add_assoc] at h
    rw [malformationAt?, if_neg (by omega)]
    exact malformationOfAllAt?_ne_tooDeep n children h

/-- Queries in a row that end within the levels do not have too many of them. -/
theorem malformationOfAllAt?_ne_tooDeep (n : Nat) : {level : Nat} → (qs : List Query) →
    level + depthOfAll qs ≤ maxDepth + 1 → malformationOfAllAt? level qs ≠ some (.tooDeep n)
  | level, [], _ => by
    rw [malformationOfAllAt?]
    exact nofun
  | level, q :: qs, h => by
    rw [depthOfAll] at h
    have hfirst : q.malformationAt? level ≠ some (.tooDeep n) :=
      malformationAt?_ne_tooDeep n q (by omega)
    have hrest : malformationOfAllAt? level qs ≠ some (.tooDeep n) :=
      malformationOfAllAt?_ne_tooDeep n qs (by omega)
    rw [malformationOfAllAt?]
    cases hm : q.malformationAt? level with
    | some m => exact fun heq => hfirst (hm.trans heq)
    | none => exact hrest

end

/-- Validation reports no other query than one of more than `maxDepth` levels as too deep. -/
theorem validate_ne_tooDeep {q : Query} (h : q.depth ≤ maxDepth) (n : Nat) :
    q.validate ≠ .error (.malformed (.tooDeep n)) := by
  have hne : q.malformationAt? 1 ≠ some (.tooDeep n) :=
    malformationAt?_ne_tooDeep n q (by omega)
  rw [validate]
  intro h
  split at h
  · rename_i m hm
    cases h
    exact hne hm
  · cases h

/-- What is read from JSON within the bound on nesting has at most `maxDepth` levels. -/
theorem depth_le_of_read {j : Json} {q : Query}
    (hnests : Json.nestsWithin maxNesting [(j, 1)] = true) (hread : read j = .ok q) :
    q.depth ≤ maxDepth := by
  have htwo : 2 * q.depth ≤ j.depth := (read_eq_ok_iff.mp hread).two_mul_depth_le
  have hmax : j.depth ≤ 2 * maxDepth := (Json.nestsWithin_root_iff maxNesting j).mp hnests
  omega

end Query

end FilterQuery
