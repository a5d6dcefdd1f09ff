import FilterQuery.Proofs.Condition.Faults
import Mathlib.Tactic.Choose

/-!
# The calls of a build

`Backend.recorded` is a backend that does what another one does and writes down what it is asked
for. Conditions are told apart by the trees that they are made of. The record of a build is the
calls of the nodes before the first fault, node by node: a comparison for a leaf, and for a node
with children the joins from the left of their conditions.
-/

namespace FilterQuery

/-- Something a backend is asked for. -/
inductive Call where
  /-- The condition of a comparison. -/
  | compare (comparison : Comparison)
  /-- The condition that joins two, each told by its tree. -/
  | join (connective : Connective) (left right : JoinTree Comparison)

namespace Call

/-- The joins of some conditions from the left, each with the next of them. -/
def joins (connective : Connective) (first : JoinTree Comparison) :
    List (JoinTree Comparison) → List Call
  | [] => []
  | next :: rest => .join connective first next :: joins connective (.join connective first next) rest

/-- The comparison that a call asks for. -/
def comparison? : Call → Option Comparison
  | .compare comparison => some comparison
  | .join _ _ _ => none

/-- Every join takes one more condition. -/
theorem length_joins (k : Connective) (first : JoinTree Comparison)
    (rest : List (JoinTree Comparison)) : (joins k first rest).length = rest.length := by
  induction rest generalizing first with
  | nil => rfl
  | cons next rest ih => rw [joins, List.length_cons, ih, List.length_cons]

theorem filterMap_comparison_joins (k : Connective) (first : JoinTree Comparison)
    (rest : List (JoinTree Comparison)) : (joins k first rest).filterMap comparison? = [] := by
  induction rest generalizing first with
  | nil => rfl
  | cons next rest ih => rw [joins, List.filterMap_cons, comparison?, ih]

end Call

namespace Query

/-- What a backend is asked for when a node is done with: the comparison of a leaf, and the joins of
the children of other nodes. -/
def calls (env : Environment) : Query → List Call
  | .leaf l =>
    match l.comparison env with
    | .ok comparison => [.compare comparison]
    | .error _ => []
  | .join connective children =>
    match trees env children with
    | .ok (first :: rest) => Call.joins connective first rest
    | _ => []

/-- What a backend is asked for by nodes in a row, up to the first one at fault. -/
def callsUntilFault (env : Environment) : List Query → List Call
  | [] => []
  | n :: rest =>
    match fault? env n with
    | some _ => []
    | none => calls env n ++ callsUntilFault env rest

/-- The calls of nodes in a row end at the first fault. -/
theorem callsUntilFault_append (env : Environment) (xs ys : List Query) :
    callsUntilFault env (xs ++ ys) = callsUntilFault env xs ++
      if xs.findSome? (fault? env) = none then callsUntilFault env ys else [] := by
  induction xs with
  | nil => rfl
  | cons x xs ih =>
    rw [List.cons_append, callsUntilFault, callsUntilFault, List.findSome?_cons]
    cases fault? env x with
    | some e => rfl
    | none => rw [ih, List.append_assoc]

/-- A node whose children have trees joins them. -/
theorem callsUntilFault_join {env : Environment} (k : Connective) {children : List Query}
    {first : JoinTree Comparison} {rest : List (JoinTree Comparison)}
    (h : trees env children = .ok (first :: rest)) :
    callsUntilFault env [.join k children] = Call.joins k first rest := by
  have hfault : fault? env (.join k children) = none := by
    cases children with
    | nil => rw [trees] at h; cases h
    | cons q qs => rfl
  rw [callsUntilFault, hfault, callsUntilFault, List.append_nil, calls, h]

/-- Without a fault all nodes make their calls. -/
theorem callsUntilFault_of_forall {env : Environment} {ns : List Query}
    (h : ∀ n ∈ ns, fault? env n = none) : callsUntilFault env ns = ns.flatMap (calls env) := by
  induction ns with
  | nil => rfl
  | cons n ns ih =>
    rw [callsUntilFault, h n List.mem_cons_self, List.flatMap_cons,
      ih fun x hx => h x (List.mem_cons_of_mem n hx)]

end Query

variable {m : Type → Type} [Monad m] {Condition α β : Type}

/-- An action all of whose outcomes have a property. -/
def Always (x : m α) (P : α → Prop) : Prop := ∃ y : m (Subtype P), Subtype.val <$> y = x

namespace Always

variable [LawfulMonad m]

theorem pure {P : α → Prop} {a : α} (h : P a) : Always (Pure.pure a : m α) P :=
  ⟨Pure.pure ⟨a, h⟩, map_pure _ _⟩

theorem of_forall {P : α → Prop} {x : m α} (h : ∀ a, P a) : Always x P :=
  ⟨(fun a => ⟨a, h a⟩) <$> x, by rw [← comp_map]; exact id_map x⟩

theorem map {P : α → Prop} {Q : β → Prop} {f : α → β} {x : m α} (hx : Always x P)
    (h : ∀ a, P a → Q (f a)) : Always (f <$> x) Q := by
  obtain ⟨y, rfl⟩ := hx
  exact ⟨(fun a => ⟨f a.1, h a.1 a.2⟩) <$> y, by rw [← comp_map, ← comp_map]; rfl⟩

/-- What always holds after one action and after the next one in every case holds after both. -/
theorem bind {P : α → Prop} {Q : β → Prop} {x : m α} {f : α → m β} (hx : Always x P)
    (hf : ∀ a, P a → Always (f a) Q) : Always (x >>= f) Q := by
  obtain ⟨y, rfl⟩ := hx
  choose g hg using hf
  refine ⟨y >>= fun a => g a.1 a.2, ?_⟩
  rw [map_bind, bind_map_left]
  congr
  funext a
  exact hg a.1 a.2

theorem imp {P Q : α → Prop} {x : m α} (hx : Always x P) (h : ∀ a, P a → Q a) : Always x Q := by
  have hmap := hx.map (f := id) h
  rwa [id_map] at hmap

/-- Without effects there is one outcome. -/
theorem of_id {P : α → Prop} {x : Id α} (h : Always x P) : P x.run := by
  obtain ⟨⟨a, ha⟩, rfl⟩ := h
  exact ha

end Always

namespace Backend

/-- A backend that does what another one does, and writes down each call before it is made. -/
def recorded (b : Backend m Condition) :
    Backend (StateT (List Call) m) (Condition × JoinTree Comparison) where
  compare := fun comparison => do
    modify (· ++ [.compare comparison])
    let made ← b.compare comparison
    return (made, .leaf comparison)
  join := fun connective left right => do
    modify (· ++ [.join connective left.2 right.2])
    let made ← b.join connective left.1 right.1
    return (made, .join connective left.2 right.2)
  render := fun made => b.render made.1

variable [LawfulMonad m]

theorem run_recorded_compare (b : Backend m Condition) (comparison : Comparison)
    (log : List Call) :
    (b.recorded.compare comparison).run log =
      (fun made => ((made, .leaf comparison), log ++ [.compare comparison])) <$>
        b.compare comparison := by
  simp [recorded]

theorem run_recorded_join (b : Backend m Condition) (k : Connective)
    (left right : Condition × JoinTree Comparison) (log : List Call) :
    (b.recorded.join k left right).run log =
      (fun made => ((made, .join k left.2 right.2), log ++ [.join k left.2 right.2])) <$>
        b.join k left.1 right.1 := by
  simp [recorded]

/-- Joins from the left make the tree of such joins, and a call for each of them. -/
theorem always_recorded_joins (b : Backend m Condition) (k : Connective)
    (first : Condition × JoinTree Comparison) (rest : List (Condition × JoinTree Comparison))
    (log : List Call) :
    Always ((rest.foldlM (b.recorded.join k) first).run log) fun o =>
      o.1.2 = .joinAll k first.2 (rest.map (·.2)) ∧
        o.2 = log ++ Call.joins k first.2 (rest.map (·.2)) := by
  induction rest generalizing first log with
  | nil => exact .pure ⟨rfl, (List.append_nil log).symm⟩
  | cons next rest ih =>
    rw [List.foldlM_cons, StateT.run_bind, run_recorded_join, bind_map_left]
    refine .bind (P := fun _ => True) (.of_forall fun _ => trivial) ?_
    intro made _
    refine (ih (made, .join k first.2 next.2) (log ++ [.join k first.2 next.2])).imp ?_
    rintro o ⟨htree, hlog⟩
    refine ⟨htree, ?_⟩
    rw [hlog, List.append_assoc]
    rfl

mutual

/-- Every build comes to the tree of the query, and has then made the calls of its nodes up to the
first fault. -/
theorem always_recorded_build (b : Backend m Condition) (env : Environment) :
    (q : Query) → (log : List Call) → Always ((b.recorded.build env q).run.run log) fun o =>
      o.1.map Prod.snd = q.tree env ∧ o.2 = log ++ Query.callsUntilFault env q.nodes
  | .leaf l, log => by
    rw [run_build_leaf, Query.tree, Query.nodes, Query.callsUntilFault, Query.fault?]
    cases hc : l.comparison env with
    | error e => exact .pure ⟨rfl, (List.append_nil log).symm⟩
    | ok c =>
      show Always ((Except.ok <$> b.recorded.compare c).run log) _
      rw [StateT.run_map, run_recorded_compare, Functor.map_map]
      refine .map (P := fun _ => True) (.of_forall fun _ => trivial) fun made _ => ⟨rfl, ?_⟩
      rw [Query.calls, hc]
      rfl
  | .join k children, log => by
    rw [run_build_join, StateT.run_bind, Query.tree, Query.nodes, Query.callsUntilFault_append,
      Query.findSome?_fault_nodesOfAll]
    refine .bind (always_recorded_buildAll b env children log) ?_
    rintro ⟨r, log'⟩ ⟨htrees, hlog⟩
    dsimp only at htrees hlog
    cases r with
    | error e =>
      rw [← htrees, hlog]
      exact .pure ⟨rfl, congrArg _ (List.append_nil _).symm⟩
    | ok made =>
      rw [← htrees, hlog, ← List.append_assoc]
      cases made with
      | nil =>
        have hchildren : children = [] := Query.eq_nil_of_trees_eq_nil htrees.symm
        subst hchildren
        exact .pure ⟨rfl, (List.append_nil _).symm⟩
      | cons first rest =>
        show Always ((b.recorded.joinAll k (first :: rest)).run.run _) _
        rw [run_joinAll_cons, StateT.run_map, Query.callsUntilFault_join k htrees.symm]
        refine (always_recorded_joins b k first rest _).map ?_
        rintro o ⟨htree, hcalls⟩
        exact ⟨congrArg Except.ok htree, hcalls⟩

theorem always_recorded_buildAll (b : Backend m Condition) (env : Environment) :
    (qs : List Query) → (log : List Call) → Always ((b.recorded.buildAll env qs).run.run log)
      fun o => o.1.map (·.map Prod.snd) = Query.trees env qs ∧
        o.2 = log ++ Query.callsUntilFault env (Query.nodesOfAll qs)
  | [], log => by
    rw [buildAll, Query.trees, Query.nodesOfAll, Query.callsUntilFault]
    exact .pure ⟨rfl, (List.append_nil log).symm⟩
  | q :: qs, log => by
    rw [run_buildAll_cons, StateT.run_bind, Query.trees, Query.nodesOfAll,
      Query.callsUntilFault_append, Query.findSome?_fault_nodes]
    refine .bind (always_recorded_build b env q log) ?_
    rintro ⟨r, log'⟩ ⟨htree, hlog⟩
    dsimp only at htree hlog
    cases r with
    | error e =>
      rw [← htree, hlog]
      exact .pure ⟨rfl, congrArg _ (List.append_nil _).symm⟩
    | ok made =>
      rw [← htree, hlog, ← List.append_assoc]
      show Always ((Except.map (made :: ·) <$> (b.recorded.buildAll env qs).run).run _) _
      rw [StateT.run_map]
      refine (always_recorded_buildAll b env qs _).map ?_
      rintro ⟨r, log''⟩ ⟨htrees, hcalls⟩
      refine ⟨?_, hcalls⟩
      rw [← htrees]
      cases r <;> rfl

end

/-- Joins whose record is left out are the joins of the backend itself. -/
theorem forget_recorded_joins (b : Backend m Condition) (k : Connective)
    (first : Condition × JoinTree Comparison) (rest : List (Condition × JoinTree Comparison))
    (log : List Call) :
    (fun o => o.1.1) <$> (rest.foldlM (b.recorded.join k) first).run log =
      (rest.map Prod.fst).foldlM (b.join k) first.1 := by
  induction rest generalizing first log with
  | nil => exact map_pure _ _
  | cons next rest ih =>
    rw [List.foldlM_cons, StateT.run_bind, run_recorded_join, bind_map_left, map_bind,
      List.map_cons, List.foldlM_cons]
    congr
    funext made
    exact ih _ _

mutual

/-- A build whose record is left out is the build of the backend itself. -/
theorem forget_recorded_build (b : Backend m Condition) (env : Environment) :
    (q : Query) → (log : List Call) →
      (fun o => o.1.map Prod.fst) <$> (b.recorded.build env q).run.run log = (b.build env q).run
  | .leaf l, log => by
    rw [run_build_leaf, run_build_leaf]
    cases l.comparison env with
    | error e => exact map_pure _ _
    | ok c =>
      show _ <$> (Except.ok <$> b.recorded.compare c).run log = Except.ok <$> b.compare c
      rw [StateT.run_map, run_recorded_compare, Functor.map_map, Functor.map_map]
      rfl
  | .join k children, log => by
    rw [run_build_join, run_build_join, StateT.run_bind, map_bind,
      ← forget_recorded_buildAll b env children log, bind_map_left]
    congr
    funext o
    obtain ⟨r, log'⟩ := o
    cases r with
    | error e => exact map_pure _ _
    | ok made =>
      cases made with
      | nil => exact map_pure _ _
      | cons first rest =>
        show _ <$> (b.recorded.joinAll k (first :: rest)).run.run log' =
          (b.joinAll k (first.1 :: rest.map Prod.fst)).run
        rw [run_joinAll_cons, run_joinAll_cons, StateT.run_map, Functor.map_map,
          ← forget_recorded_joins b k first rest log', Functor.map_map]
        rfl

theorem forget_recorded_buildAll (b : Backend m Condition) (env : Environment) :
    (qs : List Query) → (log : List Call) →
      (fun o => o.1.map (·.map Prod.fst)) <$> (b.recorded.buildAll env qs).run.run log =
        (b.buildAll env qs).run
  | [], log => by
    rw [buildAll, buildAll]
    exact map_pure _ _
  | q :: qs, log => by
    rw [run_buildAll_cons, run_buildAll_cons, StateT.run_bind, map_bind,
      ← forget_recorded_build b env q log, bind_map_left]
    congr
    funext o
    obtain ⟨r, log'⟩ := o
    cases r with
    | error e => exact map_pure _ _
    | ok made =>
      show _ <$> (Except.map (made :: ·) <$> (b.recorded.buildAll env qs).run).run log' =
        Except.map (made.1 :: ·) <$> (b.buildAll env qs).run
      rw [StateT.run_map, Functor.map_map, ← forget_recorded_buildAll b env qs log',
        Functor.map_map]
      congr
      funext o
      cases o.1 <;> rfl

end

/-- Whatever its effects, a build comes to the error of the query's tree, or to none where there is
a tree. -/
theorem always_errorOf_build (b : Backend m Condition) (env : Environment) (q : Query) :
    Always (b.build env q).run fun result =>
      Query.errorOf? result = Query.errorOf? (q.tree env) := by
  rw [← forget_recorded_build b env q []]
  refine (always_recorded_build b env q []).map ?_
  rintro ⟨result, made⟩ ⟨htree, -⟩
  rw [← htree]
  cases result <;> rfl

end Backend

end FilterQuery
