import FilterQuery.Proofs.Condition.Compiled
import FilterQuery.Proofs.Query.Depth
import FilterQuery.Proofs.Query.Encoding
import FilterQuery.Proofs.Query.Text
import FilterQuery.Proofs.Sql.Flattening

/-!
# Levels of conditions

The walk of `depth` sees the number of levels that a condition has. A node of a query joins its
children one by one, and however many there are, the joins are one level above the highest of them:
those behind the first only add operands. So a condition has no more levels than its query.
-/

namespace FilterQuery.Sql

namespace Condition

/-- Conditions are no higher than a bound exactly when none of them is. -/
theorem heightOfAll_le_iff (cs : List Condition) (n : Nat) :
    heightOfAll cs ≤ n ↔ ∀ c ∈ cs, c.height ≤ n := by
  induction cs with
  | nil => simp [heightOfAll]
  | cons c rest ih => rw [heightOfAll, Nat.max_le, ih, List.forall_mem_cons]

theorem heightOfAll_append (xs ys : List Condition) :
    heightOfAll (xs ++ ys) = max (heightOfAll xs) (heightOfAll ys) := by
  induction xs with
  | nil => simp [heightOfAll]
  | cons x xs ih => rw [List.cons_append, heightOfAll, ih, heightOfAll, Nat.max_assoc]

/-- A condition is one level higher than its operands. -/
theorem height_eq (c : Condition) : c.height = 1 + heightOfAll c.operands := by
  cases c <;> simp [height, operands, heightOfAll]

/-- The walk stays within a level exactly when what it has seen does and every pending condition
ends within it. -/
theorem deepest_le_iff (seen : Nat) (pending : List (Condition × Nat)) (n : Nat) :
    deepest seen pending ≤ n ↔ seen ≤ n ∧ ∀ p ∈ pending, p.2 + p.1.height ≤ n + 1 := by
  induction seen, pending using deepest.induct with
  | case1 seen => simp [deepest]
  | case2 seen c level pending ih =>
    have hoperands : (∀ p ∈ (onLevel (level + 1) c.operands).reverse, p.2 + p.1.height ≤ n + 1) ↔
        heightOfAll c.operands ≤ n - level := by
      rw [heightOfAll_le_iff]
      simp only [onLevel, List.mem_reverse, List.forall_mem_map]
      refine forall₂_congr fun x _ => ?_
      have hpos := x.height_eq
      omega
    have hpending : level + c.height ≤ n + 1 ↔
        level ≤ n ∧ heightOfAll c.operands ≤ n - level := by
      rw [height_eq]
      omega
    rw [deepest, ih, List.forall_mem_append, hoperands, List.forall_mem_cons, hpending, Nat.max_le]
    simp only [and_assoc]

/-- The walk over a condition finds its levels. -/
theorem depth_eq_height (c : Condition) : c.depth = c.height := by
  have hle (n : Nat) : c.depth ≤ n ↔ c.height ≤ n := by
    rw [depth, deepest_le_iff, List.forall_mem_singleton]
    change 0 ≤ n ∧ 1 + c.height ≤ n + 1 ↔ c.height ≤ n
    omega
  exact Nat.le_antisymm ((hle _).mpr (Nat.le_refl _)) ((hle _).mp (Nat.le_refl _))

/-- What a condition brings into a join is no higher than the condition. -/
theorem heightOfAll_spread_le (k : Connective) (c : Condition) :
    heightOfAll (c.spread k) ≤ c.height := by
  have hsingle : heightOfAll [c] ≤ c.height :=
    (heightOfAll_le_iff [c] _).mpr (List.forall_mem_singleton.mpr (Nat.le_refl _))
  cases c with
  | compare comparison => exact hsingle
  | join connective operands =>
    rw [spread]
    split
    · rw [height]
      exact Nat.le_add_left _ _
    · exact hsingle

/-- Joins from the left are at most one level higher than all that they join. -/
theorem height_foldl_joined_le (k : Connective) (first : Condition) (rest : List Condition) :
    (rest.foldl (joined k) first).height ≤ 1 + heightOfAll (first :: rest) := by
  rw [heightOfAll]
  cases rest with
  | nil =>
    rw [List.foldl_nil]
    omega
  | cons second rest =>
    have hspread := heightOfAll_spread_le k first
    rw [foldl_joined, height, heightOfAll_append]
    omega

end Condition

namespace Dialect

open Condition

mutual

/-- The condition of a query's tree is no higher than the query. -/
theorem height_make_le {d : Dialect} {env : Environment} : (q : Query) →
    {t : JoinTree Comparison} → q.tree env = .ok t → (d.backend.make t).height ≤ q.depth
  | .leaf l, t, h => by
    obtain ⟨c, -, rfl⟩ := Query.tree_leaf_eq_ok h
    exact Nat.le_refl 1
  | .join k children, t, h => by
    obtain ⟨first, rest, htrees, rfl⟩ := Query.tree_join_eq_ok h
    have hall := heightOfAll_make_le (d := d) children htrees
    rw [Backend.make_joinAll, Query.depth]
    calc ((rest.map d.backend.make).foldl (joined k) (d.backend.make first)).height
        ≤ 1 + heightOfAll ((first :: rest).map d.backend.make) := height_foldl_joined_le k _ _
      _ ≤ 1 + Query.depthOfAll children := Nat.add_le_add_left hall 1

/-- The conditions of the trees of some queries are no higher than the queries. -/
theorem heightOfAll_make_le {d : Dialect} {env : Environment} : (qs : List Query) →
    {ts : List (JoinTree Comparison)} → Query.trees env qs = .ok ts →
      heightOfAll (ts.map d.backend.make) ≤ Query.depthOfAll qs
  | [], ts, h => by
    obtain rfl : [] = ts := Except.ok.inj (by rw [← h, Query.trees])
    exact Nat.zero_le _
  | q :: qs, ts, h => by
    obtain ⟨t, rest, ht, hrest, rfl⟩ := Query.trees_cons_eq_ok h
    have hfirst := height_make_le (d := d) q ht
    have hothers := heightOfAll_make_le (d := d) qs hrest
    rw [List.map_cons, heightOfAll, Query.depthOfAll]
    omega

end

/-- A condition that is built of a query has no more levels than the query. -/
theorem depth_le_of_build {d : Dialect} {env : Environment} {q : Query} {c : Condition}
    (h : (d.backend.build env q).run = Except.ok c) : c.depth ≤ q.depth := by
  rw [Backend.run_build_eq_tree] at h
  obtain ⟨t, ht, rfl⟩ := map_eq_ok_iff.mp h
  rw [depth_eq_height]
  exact height_make_le q ht

/-- An engine gives queries of at most 63 levels, which the bound on the nesting of JSON ensures
before validation looks for them, and a condition has no more levels than its query, however many
children the nodes of the query have. -/
theorem depth_bounded {m : Type → Type} {C : Type} (d : Dialect) (e : Engine m C)
    (ctx : Placeholder.Context) :
    (∀ text q, e.parse ctx text = .ok q → q.depth ≤ 63) ∧
      (∀ j q, e.ofJson ctx j = .ok q → q.depth ≤ 63) ∧
      (∀ j q, Json.nestsWithin Query.maxNesting [(j, 1)] = true → Query.read j = .ok q →
        q.depth ≤ 63 ∧ ∀ n, q.validate ≠ .error (.malformed (.tooDeep n))) ∧
      ∀ env q c, (d.backend.build env q).run = Except.ok c → c.depth ≤ q.depth := by
  refine ⟨?_, ?_, ?_, ?_⟩
  · exact fun text q h => (Engine.wellFormed_of_parse h).depth_le
  · exact fun j q h => (Engine.wellFormed_of_ofJson h).depth_le
  · intro j q hnests hread
    have hdepth : q.depth ≤ Query.maxDepth := Query.depth_le_of_read hnests hread
    exact ⟨hdepth, Query.validate_ne_tooDeep hdepth⟩
  · exact fun env q c h => depth_le_of_build h

/-- Four children are one level, and an only child is none. -/
theorem depth_bounded_wide :
    let ctx := Placeholder.Context.of "u-1" ⟨2025, 8, 21, by decide⟩
    let e : Engine Id Condition := .builtin postgres.backend
    let isNull : Query := .leaf ⟨.string, "c", "isNull", .null, none⟩
    let q : Query := .join .and [isNull, isNull, isNull, .join .or [isNull]]
    let compared : Condition := .compare (.unary "c" .isNull)
    let c : Condition := .join .and [compared, compared, compared, compared]
    let text := q.encode.text
    e.parse ctx text = .ok q ∧ e.ofJson ctx q.encode = .ok q ∧
      Json.nestsWithin Query.maxNesting [(q.encode, 1)] = true ∧ Query.read q.encode = .ok q ∧
      (q.depth = 3 ∧ q.depth ≤ 63 ∧ ∀ n, q.validate ≠ .error (.malformed (.tooDeep n))) ∧
      (postgres.backend.build ⟨.builtin, .dayOne⟩ q).run = Except.ok c ∧
        c.depth = 2 ∧ c.depth ≤ q.depth := by
  intro ctx e isNull q compared c text
  obtain ⟨hparse, -, hread, hbuild⟩ := postgres.depth_bounded e ctx
  have hspells : Grammar.accepted.Spells true q.encode q := (Grammar.spells_encode true q).accepted
  have hdepth : q.encode.depth ≤ Query.maxNesting := by decide
  have hnests := (Json.nestsWithin_root_iff Query.maxNesting q.encode).mpr hdepth
  have hq : Query.read q.encode = .ok q := Query.read_eq_ok_iff.mpr hspells
  have hofJson : e.ofJson ctx q.encode = .ok q := by
    have hsubstituted : e.substitution.apply ctx q.encode = .ok q.encode := rfl
    have hwell : q.WellFormed := q.validate_eq_ok_iff.mp rfl
    exact bind_eq_ok_iff.mpr ⟨_, hsubstituted, Query.ofJson_eq_ok_iff.mpr ⟨hdepth, hspells, hwell⟩⟩
  have hparsed : e.parse ctx text = .ok q := by
    have hleaf : ["column", "operator", "type", "value"].Pairwise (· < ·) := by decide
    have hjoin : ["children", "type"].Pairwise (· < ·) := by decide
    have hnull : isNull.encode.WellFormed := ⟨hleaf, trivial, trivial, trivial, trivial, trivial⟩
    have honly : (Query.join .or [isNull]).encode.WellFormed :=
      ⟨hjoin, ⟨hnull, trivial⟩, trivial, trivial⟩
    have hj : q.encode.WellFormed :=
      ⟨hjoin, ⟨hnull, hnull, hnull, honly, trivial⟩, trivial, trivial⟩
    have hdecoded : Query.decode text = .ok q.encode := by
      rw [Query.decode_text hj, if_pos (by decide)]
    exact bind_eq_ok_iff.mpr ⟨_, hdecoded, hofJson⟩
  have hc : (postgres.backend.build ⟨.builtin, .dayOne⟩ q).run = Except.ok c := rfl
  have hheight : c.depth = 2 := by
    rw [depth_eq_height]
    decide
  exact ⟨hparsed, hofJson, hnests, hq,
    ⟨by decide, hparse _ _ hparsed, (hread _ _ hnests hq).2⟩, hc, hheight, hbuild _ _ _ hc⟩

end Dialect

end FilterQuery.Sql
