import FilterQuery.Operator.Builtin
import FilterQuery.Proofs.Condition.Record

/-!
# Fail-fast evaluation

What a build comes to and what it has asked its backend for until then, told by the nodes of the
query alone: they are done with in depth-first order, and the first one at fault ends the build.
-/

namespace FilterQuery

namespace Query

/-- The leaf that a node is. -/
def leaf? : Query → Option Leaf
  | .leaf l => some l
  | .join _ _ => none

mutual

/-- The leaves among the nodes of a query are its leaves from left to right. -/
theorem filterMap_leaf_nodes : (q : Query) → q.nodes.filterMap leaf? = q.leaves
  | .leaf _ => rfl
  | .join k children => by
    rw [nodes, List.filterMap_append, filterMap_leaf_nodesOfAll children, leaves]
    exact List.append_nil _

theorem filterMap_leaf_nodesOfAll :
    (qs : List Query) → (nodesOfAll qs).filterMap leaf? = leavesOfAll qs
  | [] => rfl
  | q :: qs => by
    rw [nodesOfAll, List.filterMap_append, filterMap_leaf_nodes q, filterMap_leaf_nodesOfAll qs,
      leavesOfAll]

end

/-- The calls of a node that is no leaf ask for no comparison. -/
theorem filterMap_comparison_calls_join (env : Environment) (k : Connective)
    (children : List Query) :
    (calls env (.join k children)).filterMap Call.comparison? = [] := by
  rw [calls]
  cases trees env children with
  | error e => rfl
  | ok ts =>
    cases ts with
    | nil => rfl
    | cons first rest => exact Call.filterMap_comparison_joins k first rest

/-- The comparisons that nodes without fault ask for are those of the leaves among them. -/
theorem comparisons_of_calls {env : Environment} {ns : List Query}
    (h : ∀ n ∈ ns, fault? env n = none) :
    ((ns.flatMap (calls env)).filterMap Call.comparison?).map .ok =
      (ns.filterMap leaf?).map (·.comparison env) := by
  induction ns with
  | nil => rfl
  | cons n ns ih =>
    have hrest := ih fun x hx => h x (List.mem_cons_of_mem n hx)
    rw [List.flatMap_cons, List.filterMap_append, List.map_append, hrest]
    match n with
    | .leaf l =>
      obtain ⟨c, hc⟩ := fault?_leaf_eq_none_iff.mp (h _ List.mem_cons_self)
      rw [List.filterMap_cons, leaf?, List.map_cons, calls, hc]
      rfl
    | .join k children =>
      rw [filterMap_comparison_calls_join, List.filterMap_cons, leaf?]
      rfl

mutual

/-- Below a node of a query stand nodes of the query. -/
theorem mem_nodes_of_mem_children {k : Connective} {children : List Query} {n : Query}
    (hn : n ∈ nodesOfAll children) : (q : Query) → .join k children ∈ q.nodes → n ∈ q.nodes
  | .leaf l, h => by
    rw [nodes, List.mem_singleton] at h
    cases h
  | .join k' children', h => by
    rw [nodes, List.mem_append, List.mem_singleton] at h ⊢
    rcases h with h | h
    · exact .inl (mem_nodesOfAll_of_mem_children hn children' h)
    · obtain ⟨rfl, rfl⟩ := Query.join.inj h
      exact .inl hn

theorem mem_nodesOfAll_of_mem_children {k : Connective} {children : List Query} {n : Query}
    (hn : n ∈ nodesOfAll children) :
    (qs : List Query) → .join k children ∈ nodesOfAll qs → n ∈ nodesOfAll qs
  | [], h => by
    rw [nodesOfAll] at h
    cases h
  | q :: qs, h => by
    rw [nodesOfAll, List.mem_append] at h ⊢
    rcases h with h | h
    · exact .inl (mem_nodes_of_mem_children hn q h)
    · exact .inr (mem_nodesOfAll_of_mem_children hn qs h)

end

/-- Queries that have trees have as many of them. -/
theorem length_trees {env : Environment} {qs : List Query} {ts : List (JoinTree Comparison)}
    (h : trees env qs = .ok ts) : ts.length = qs.length := by
  induction qs generalizing ts with
  | nil =>
    obtain rfl : [] = ts := Except.ok.inj (by rw [← h, trees])
    rfl
  | cons q qs ih =>
    obtain ⟨t, rest, _, hrest, rfl⟩ := trees_cons_eq_ok h
    rw [List.length_cons, List.length_cons, ih hrest]

/-- In a query without fault every node that joins others joins the trees of its children from the
left. -/
theorem calls_join_of_forall {env : Environment} {q : Query}
    (h : ∀ n ∈ q.nodes, fault? env n = none) {k : Connective} {children : List Query}
    (hq : .join k children ∈ q.nodes) :
    ∃ first rest, trees env children = .ok (first :: rest) ∧
      calls env (.join k children) = Call.joins k first rest ∧
        (calls env (.join k children)).length + 1 = children.length := by
  have hchildren : (nodesOfAll children).findSome? (fault? env) = none :=
    List.findSome?_eq_none_iff.mpr fun n hn => h n (mem_nodes_of_mem_children hn q hq)
  rw [findSome?_fault_nodesOfAll] at hchildren
  cases hts : trees env children with
  | error e => rw [hts] at hchildren; cases hchildren
  | ok ts =>
    cases ts with
    | nil =>
      obtain rfl := eq_nil_of_trees_eq_nil hts
      cases h _ hq
    | cons first rest =>
      have hcalls : calls env (.join k children) = Call.joins k first rest := by rw [calls, hts]
      refine ⟨first, rest, rfl, hcalls, ?_⟩
      rw [hcalls, Call.length_joins, ← length_trees hts, List.length_cons]

/-- What a query's evaluation comes to, and what the backend has been asked for until then. -/
structure Evaluated {α : Type} (env : Environment) (q : Query) (result : Except QueryError α)
    (made : List Call) : Prop where
  /-- It succeeds when every composite has children and every leaf comes to a comparison. -/
  ok_iff : (∃ a, result = .ok a) ↔ q.Buildable env
  /-- Otherwise the first node at fault ends it, when all nodes before it have made their calls. -/
  of_error : ∀ e, result = .error e → ∃ before node after, q.nodes = before ++ node :: after ∧
    (∀ n ∈ before, n.fault? env = none) ∧ node.fault? env = some e ∧
      q.preorder.find? (isFaulty env) = some node ∧ made = before.flatMap (calls env) ∧
        (made.filterMap Call.comparison?).map .ok =
          (before.filterMap leaf?).map (·.comparison env)
  /-- On success every node has made its calls, so every leaf has been compared. -/
  of_ok : ∀ a, result = .ok a → made = q.nodes.flatMap (calls env) ∧
    (made.filterMap Call.comparison?).map .ok = q.leaves.map (·.comparison env)
  /-- On success every composite has made one join less than it has children, from the left. -/
  joins_of_ok : ∀ a, result = .ok a → ∀ k children, .join k children ∈ q.nodes →
    ∃ first rest, trees env children = .ok (first :: rest) ∧
      calls env (.join k children) = Call.joins k first rest ∧
        (calls env (.join k children)).length + 1 = children.length

/-- A result that agrees with the tree of a query, after the calls of the nodes before the first
fault, is what its evaluation comes to. -/
theorem evaluated_of_callsUntilFault {α : Type} {env : Environment} {q : Query}
    {result : Except QueryError α} {made : List Call}
    (herror : errorOf? result = errorOf? (q.tree env))
    (hmade : made = callsUntilFault env q.nodes) : q.Evaluated env result made := by
  rw [← findSome?_fault_nodes] at herror
  have hok {a : α} (ha : result = .ok a) : ∀ n ∈ q.nodes, fault? env n = none := by
    rw [ha] at herror
    exact List.findSome?_eq_none_iff.mp herror.symm
  constructor
  · rw [buildable_iff, ← herror]
    cases result with
    | error e =>
      constructor
      · rintro ⟨a, ha⟩
        cases ha
      · intro h
        cases h
    | ok a => exact ⟨fun _ => rfl, fun _ => ⟨a, rfl⟩⟩
  · rintro e rfl
    obtain ⟨before, node, after, hnodes, hnode, hbefore⟩ :=
      List.findSome?_eq_some_iff.mp herror.symm
    have hcalls : made = before.flatMap (calls env) := by
      rw [hmade, hnodes, callsUntilFault_append,
        if_pos (List.findSome?_eq_none_iff.mpr hbefore), callsUntilFault, hnode, List.append_nil,
        callsUntilFault_of_forall hbefore]
    refine ⟨before, node, after, hnodes, hbefore, hnode, ?_, hcalls, ?_⟩
    · rw [find?_isFaulty_preorder, hnodes, List.find?_append, List.find?_eq_none.mpr, Option.none_or,
        List.find?_cons_of_pos]
      · rw [isFaulty, hnode]; rfl
      · intro n hn
        rw [isFaulty, hbefore n hn]
        exact Bool.false_ne_true
    · rw [hcalls, comparisons_of_calls hbefore]
  · intro a ha
    have hcalls : made = q.nodes.flatMap (calls env) := by
      rw [hmade, callsUntilFault_of_forall (hok ha)]
    refine ⟨hcalls, ?_⟩
    rw [hcalls, comparisons_of_calls (hok ha), filterMap_leaf_nodes]
  · intro a ha k children hq
    exact calls_join_of_forall (hok ha) hq

end Query

namespace Backend

variable {m : Type → Type} [Monad m] [LawfulMonad m] {Condition : Type}

/-- Evaluation fails fast in document order: whatever its effects, a build with a record is the
build without one, and its record is that of an evaluation up to the first fault. -/
theorem build_evaluates_until_fault (b : Backend m Condition) (env : Environment) (q : Query) :
    (fun o => o.1.map Prod.fst) <$> (b.recorded.build env q).run.run [] = (b.build env q).run ∧
      Always ((b.recorded.build env q).run.run []) fun o => q.Evaluated env o.1 o.2 := by
  refine ⟨forget_recorded_build b env q [], (always_recorded_build b env q []).imp ?_⟩
  rintro ⟨result, made⟩ ⟨htree, hmade⟩
  refine Query.evaluated_of_callsUntilFault ?_ hmade
  rw [← htree]
  cases result <;> rfl

/-- A join without operands ends the evaluation when the join before it is made, and before the
comparison behind it. -/
theorem build_evaluates_until_empty_join :
    let env : Environment := ⟨.builtin, .dayOne⟩
    let leaf (column : String) : Query := .leaf ⟨.string, column, "isNull", .null, none⟩
    let q : Query := .join .and [.join .or [leaf "a", leaf "b"], .join .or [], leaf "c"]
    let isNull (column : String) : Comparison := .unary column .isNull
    let outcome := ((JoinTree.backend.recorded.build env q).run.run []).run
    outcome = (.error (.emptyComposite "OrQuery"), [.compare (isNull "a"), .compare (isNull "b"),
        .join .or (.leaf (isNull "a")) (.leaf (isNull "b"))]) ∧
      outcome.1.map Prod.fst = (JoinTree.backend.build env q).run.run ∧
        Always ((JoinTree.backend.recorded.build env q).run.run []) fun o =>
          q.Evaluated env o.1 o.2 :=
  ⟨rfl, build_evaluates_until_fault JoinTree.backend _ _⟩

end Backend

end FilterQuery
