import FilterQuery.Proofs.Condition.Tree
import FilterQuery.Sql.Rendering

/-!
# Joins of many operands

A join of many operands stands for joins from the left. `Condition.tree?` writes them out, and
joining two conditions joins their trees: nothing of the binary tree is lost when operands are taken
in. Conditions that are made by comparing and joining are `Normal`: no join has fewer than two
operands, and none has a join of its own connective in front. So there is only one of each tree.
-/

namespace FilterQuery.Sql

namespace Condition

mutual

/-- The binary tree of a condition, where every join stands for joins from the left. A join without
operands stands for nothing. -/
def tree? : Condition → Option (JoinTree Comparison)
  | .compare comparison => some (.leaf comparison)
  | .join connective operands =>
    match treesOfAll? operands with
    | some (first :: rest) => some (.joinAll connective first rest)
    | _ => none

/-- The binary trees of some conditions, if each of them has one. -/
def treesOfAll? : List Condition → Option (List (JoinTree Comparison))
  | [] => some []
  | c :: rest =>
    match tree? c, treesOfAll? rest with
    | some t, some ts => some (t :: ts)
    | _, _ => none

end

/-- One more condition has its tree behind the others. -/
theorem treesOfAll?_append_singleton {cs : List Condition} {c : Condition}
    {ts : List (JoinTree Comparison)} {t : JoinTree Comparison} (hcs : treesOfAll? cs = some ts)
    (hc : c.tree? = some t) : treesOfAll? (cs ++ [c]) = some (ts ++ [t]) := by
  induction cs generalizing ts with
  | nil =>
    obtain rfl : [] = ts := Option.some.inj hcs
    simp only [List.nil_append, treesOfAll?, hc]
  | cons x xs ih =>
    rw [treesOfAll?] at hcs
    cases hx : x.tree? with
    | none => simp only [hx, reduceCtorEq] at hcs
    | some tx =>
      cases hxs : treesOfAll? xs with
      | none => simp only [hx, hxs, reduceCtorEq] at hcs
      | some txs =>
        simp only [hx, hxs, Option.some.injEq] at hcs
        subst hcs
        simp only [List.cons_append, treesOfAll?, hx, ih hxs]

/-- The tree of a join is the join of the trees, whether or not the left condition takes the right
one in. -/
theorem tree?_joined (k : Connective) {left right : Condition} {tl tr : JoinTree Comparison}
    (hl : left.tree? = some tl) (hr : right.tree? = some tr) :
    (joined k left right).tree? = some (.join k tl tr) := by
  have htwo : (Condition.join k [left, right]).tree? = some (.join k tl tr) := by
    simp only [tree?, treesOfAll?, hl, hr]
    rfl
  cases left with
  | compare comparison => exact htwo
  | join c operands =>
    rw [joined]
    split
    · rename_i hc
      subst hc
      rw [tree?] at hl
      cases ho : treesOfAll? operands with
      | none => simp only [ho, reduceCtorEq] at hl
      | some ts =>
        cases ts with
        | nil => simp only [ho, reduceCtorEq] at hl
        | cons first rest =>
          obtain rfl : JoinTree.joinAll c first rest = tl := by
            simpa only [ho, Option.some.injEq] using hl
          rw [tree?, treesOfAll?_append_singleton ho hr]
          simp only [List.cons_append, JoinTree.joinAll, List.foldl_append, List.foldl_cons,
            List.foldl_nil]
    · exact htwo

/-- Conditions whose joins have two operands or more, and none of their own connective in
front. -/
inductive Normal : Condition → Prop where
  /-- A comparison. -/
  | compare (comparison : Comparison) : Normal (.compare comparison)
  /-- A join whose first operand is no join of the same connective. -/
  | join {connective : Connective} {first second : Condition} {rest : List Condition}
      (front : first.connective? ≠ some connective)
      (operands : ∀ c ∈ first :: second :: rest, Normal c) :
      Normal (.join connective (first :: second :: rest))

/-- Joining keeps conditions normal. -/
theorem Normal.joined (k : Connective) {left right : Condition} (hl : Normal left)
    (hr : Normal right) : Normal (joined k left right) := by
  have htwo (h : left.connective? ≠ some k) : Normal (.join k [left, right]) := by
    refine .join h ?_
    intro c hc
    rcases List.mem_cons.mp hc with rfl | hc
    · exact hl
    · obtain rfl := List.mem_singleton.mp hc
      exact hr
  cases hl with
  | compare comparison => exact htwo nofun
  | @join c first second rest front operands =>
    rw [Condition.joined]
    split
    · rename_i hc
      subst hc
      refine .join front ?_
      intro x hx
      have hx' : x ∈ first :: second :: rest ∨ x = right := by simpa [or_assoc] using hx
      rcases hx' with hx' | rfl
      · exact operands x hx'
      · exact hr
    · rename_i hc
      exact htwo fun h => hc (Option.some.inj h)

/-- What a condition brings into a join: its operands if it has the same connective, and itself if
not. -/
def spread (connective : Connective) : Condition → List Condition
  | .compare comparison => [.compare comparison]
  | .join c operands => if c = connective then operands else [.join c operands]

theorem spread_of_connective?_ne {k : Connective} {c : Condition} (h : c.connective? ≠ some k) :
    c.spread k = [c] := by
  cases c with
  | compare comparison => rfl
  | join c operands =>
    rw [spread, if_neg]
    intro hc
    exact h (congrArg some hc)

/-- A join of two lists what the left one brings, and the right one. -/
theorem joined_eq_join (k : Connective) (left right : Condition) :
    joined k left right = .join k (left.spread k ++ [right]) := by
  cases left with
  | compare comparison => rfl
  | join c operands =>
    rw [joined, spread]
    split
    · rename_i hc
      rw [hc]
    · rfl

/-- Joins from the left onto a join of the same connective add operands to it. -/
theorem foldl_joined_join (k : Connective) (operands rest : List Condition) :
    rest.foldl (joined k) (.join k operands) = .join k (operands ++ rest) := by
  induction rest generalizing operands with
  | nil => rw [List.foldl_nil, List.append_nil]
  | cons c rest ih =>
    rw [List.foldl_cons, joined, if_pos rfl, ih, List.append_assoc]
    rfl

/-- However many conditions are joined from the left, they are operands of one join. -/
theorem foldl_joined (k : Connective) (first second : Condition) (rest : List Condition) :
    (second :: rest).foldl (joined k) first = .join k (first.spread k ++ second :: rest) := by
  rw [List.foldl_cons, joined_eq_join, foldl_joined_join, List.append_assoc]
  rfl

end Condition

namespace Dialect

open Condition

/-- The condition made of a tree has that tree. -/
theorem tree?_make (d : Dialect) (t : JoinTree Comparison) : (d.backend.make t).tree? = some t := by
  induction t with
  | leaf comparison => rfl
  | join k left right ihLeft ihRight => exact tree?_joined k ihLeft ihRight

theorem normal_make (d : Dialect) (t : JoinTree Comparison) : (d.backend.make t).Normal := by
  induction t with
  | leaf comparison => exact .compare comparison
  | join k left right ihLeft ihRight => exact ihLeft.joined k ihRight

/-- Some conditions that are made of trees are made of trees together. -/
private theorem exists_trees_of_made {d : Dialect} {cs : List Condition}
    (h : ∀ c ∈ cs, ∃ t, d.backend.make t = c) : ∃ ts : List (JoinTree Comparison),
      ts.map d.backend.make = cs := by
  induction cs with
  | nil => exact ⟨[], rfl⟩
  | cons c cs ih =>
    obtain ⟨t, ht⟩ := h c List.mem_cons_self
    obtain ⟨ts, hts⟩ := ih fun x hx => h x (List.mem_cons_of_mem c hx)
    exact ⟨t :: ts, by rw [List.map_cons, ht, hts]⟩

/-- Normal conditions are exactly those that comparing and joining make. -/
theorem made_iff_normal (d : Dialect) (c : Condition) : d.backend.Made c ↔ c.Normal := by
  rw [Backend.made_iff_exists_tree]
  constructor
  · rintro ⟨t, rfl⟩
    exact d.normal_make t
  · intro h
    induction h with
    | compare comparison => exact ⟨.leaf comparison, rfl⟩
    | @join k first second rest front _ ih =>
      obtain ⟨tf, hfirst⟩ := ih first List.mem_cons_self
      obtain ⟨ts, hrest⟩ := exists_trees_of_made fun c hc => ih c (List.mem_cons_of_mem first hc)
      refine ⟨.joinAll k tf ts, ?_⟩
      rw [Backend.make_joinAll, hfirst, hrest]
      exact (foldl_joined k first second rest).trans (by rw [spread_of_connective?_ne front]; rfl)

/-- A build makes a condition where the plain build makes its tree, and fails with the same error
where that fails. Whatever comparing and joining make is normal, stands for a tree, and is the only
such condition of its tree. -/
theorem build_refines_tree_build (d : Dialect) (env : Environment) (q : Query) :
    ((∃ e, (d.backend.build env q).run = .error e ∧
        (JoinTree.backend.build env q).run = .error e) ∨
      ∃ c t, (d.backend.build env q).run = .ok c ∧ (JoinTree.backend.build env q).run = .ok t ∧
        c.tree? = some t) ∧
    (∀ c, d.backend.Made c → c.Normal ∧ ∃ t, c.tree? = some t) ∧
    ∀ c c', d.backend.Made c → d.backend.Made c' → (c = c' ↔ c.tree? = c'.tree?) := by
  refine ⟨?_, ?_, ?_⟩
  · rw [JoinTree.run_build_backend, Backend.run_build_eq_tree]
    cases q.tree env with
    | error e => exact Or.inl ⟨e, rfl, rfl⟩
    | ok t => exact Or.inr ⟨d.backend.make t, t, rfl, rfl, d.tree?_make t⟩
  · intro c hc
    refine ⟨(d.made_iff_normal c).mp hc, ?_⟩
    obtain ⟨t, rfl⟩ := (d.backend.made_iff_exists_tree c).mp hc
    exact ⟨t, d.tree?_make t⟩
  · intro c c' hc hc'
    obtain ⟨t, rfl⟩ := (d.backend.made_iff_exists_tree c).mp hc
    obtain ⟨t', rfl⟩ := (d.backend.made_iff_exists_tree c').mp hc'
    constructor
    · exact congrArg tree?
    · intro h
      rw [tree?_make, tree?_make] at h
      exact congrArg d.backend.make (Option.some.inj h)

/-- Three comparisons joined from the left are one join of three, and joined from the right they
are a join within a join, which is another condition. -/
theorem build_refines_tree_build_three :
    let isNull (column : String) : Condition := .compare (.unary column .isNull)
    let left : Condition := .join .and [isNull "a", isNull "b", isNull "c"]
    let right : Condition := .join .and [isNull "a", .join .and [isNull "b", isNull "c"]]
    postgres.backend.Made left ∧ postgres.backend.Made right ∧
      (left.Normal ∧ ∃ t, left.tree? = some t) ∧ (right.Normal ∧ ∃ t, right.tree? = some t) ∧
        (left = right ↔ left.tree? = right.tree?) := by
  intro isNull left right
  have hnull (column : String) : postgres.backend.Made (isNull column) := .compare _
  have hleft : postgres.backend.Made left :=
    .join .and (.join .and (hnull "a") (hnull "b")) (hnull "c")
  have hright : postgres.backend.Made right :=
    .join .and (hnull "a") (.join .and (hnull "b") (hnull "c"))
  obtain ⟨-, hnormal, hunique⟩ :=
    postgres.build_refines_tree_build ⟨Catalog.empty, .dayOne⟩ (.join .and [])
  exact ⟨hleft, hright, hnormal left hleft, hnormal right hright, hunique left right hleft hright⟩

end Dialect

end FilterQuery.Sql
