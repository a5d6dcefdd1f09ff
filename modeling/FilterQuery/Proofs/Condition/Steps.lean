import FilterQuery.Condition.Building

/-!
# The steps of a build

Each function of the builder, run in the monad of its backend: what it asks the backend for, and
which error it passes on. These equations hold for every backend and are all that other proofs use
of the builder's code.
-/

namespace FilterQuery.Backend

variable {m : Type → Type} [Monad m] {Condition : Type}

/-- A node that joins others first builds all of them. -/
theorem run_build_join (b : Backend m Condition) (env : Environment) (k : Connective)
    (children : List Query) :
    (b.build env (.join k children)).run = (b.buildAll env children).run >>= fun
      | .error e => pure (.error e)
      | .ok conditions => (b.joinAll k conditions).run := by
  rw [build, ExceptT.run_bind]
  congr
  funext r
  cases r <;> rfl

variable [LawfulMonad m]

/-- A leaf asks for its comparison, if it comes to one. -/
theorem run_build_leaf (b : Backend m Condition) (env : Environment) (l : Leaf) :
    (b.build env (.leaf l)).run = match l.comparison env with
      | .error e => pure (.error e)
      | .ok comparison => .ok <$> b.compare comparison := by
  rw [build, ExceptT.run_bind]
  cases h : l.comparison env <;> simp [liftM, monadLift, MonadLift.monadLift]

/-- Queries are built in order, and the first error is the error of all. -/
theorem run_buildAll_cons (b : Backend m Condition) (env : Environment) (q : Query)
    (rest : List Query) :
    (b.buildAll env (q :: rest)).run = (b.build env q).run >>= fun
      | .error e => pure (.error e)
      | .ok condition => Except.map (condition :: ·) <$> (b.buildAll env rest).run := by
  rw [buildAll, ExceptT.run_bind]
  congr
  funext r
  cases r with
  | error e => rfl
  | ok condition => simp

/-- Joining conditions asks for joins from the left and never fails when there is a condition. -/
theorem run_joinAll_cons (b : Backend m Condition) (k : Connective) (first : Condition)
    (rest : List Condition) :
    (b.joinAll k (first :: rest)).run = .ok <$> rest.foldlM (b.join k) first := by
  induction rest generalizing first with
  | nil => simp [joinAll]
  | cons next rest ih =>
    have hrest (joined : Condition) :
        (rest.foldlM (fun joined next => (b.join k joined next : ExceptT QueryError m Condition))
          joined).run = .ok <$> rest.foldlM (b.join k) joined := ih joined
    rw [joinAll, List.foldlM_cons, ExceptT.run_bind, List.foldlM_cons]
    simp [hrest]

end FilterQuery.Backend
