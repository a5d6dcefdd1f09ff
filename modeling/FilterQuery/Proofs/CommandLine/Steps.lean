import FilterQuery.CommandLine.Run

/-!
# Commands on a world

What the functions that commands are made of come to where the system is a value, and the world that
they leave behind. These equations are all that other proofs use of the monad that commands run in.
-/

namespace FilterQuery.CommandLine.World

variable {α β : Type} (w : World)

/-- What an action comes to in a world, and the world that it leaves behind. -/
def run (act : ExceptT Failure (StateM World) α) : Except Failure α × World :=
  (act.run.run w).run

theorem run_pure (a : α) : w.run (pure a) = (.ok a, w) := rfl

theorem run_throw (f : Failure) :
    w.run (throw f : ExceptT Failure (StateM World) α) = (.error f, w) := rfl

/-- A step that cannot fail gives its value and the world behind it. -/
theorem run_lift (act : StateM World α) :
    w.run (liftM act) = (.ok (act.run w).run.1, (act.run w).run.2) := rfl

/-- A step runs in the world that the one before it has left behind, unless that one failed. -/
theorem run_bind (act : ExceptT Failure (StateM World) α)
    (k : α → ExceptT Failure (StateM World) β) :
    w.run (act >>= k) = match w.run act with
      | (.ok a, w') => w'.run (k a)
      | (.error f, w') => (.error f, w') := by
  rw [run, ExceptT.run_bind, StateT.run_bind, Id.run_bind, run]
  rcases (act.run.run w).run with ⟨_ | _, _⟩ <;> rfl

/-- An attempt fails with what was being done before the error of the file. -/
theorem run_attempt (doing : Cause) (act : StateM World (Except FileError α)) :
    w.run (attempt doing act) =
      (((act.run w).run.1).mapError fun e => [doing, .file e], (act.run w).run.2) := by
  rw [attempt, run_bind, run_lift]
  rcases (act.run w).run with ⟨_ | _, _⟩ <;> rfl

/-- An answer is given as it is, and a refusal behind what was being done. -/
theorem run_answered (doing : Cause) (r : Except QueryError α) :
    w.run (answered doing r) = (r.mapError fun e => [doing, .query e], w) := by
  cases r <;> rfl

/-- A query comes from standard input or from a file, and both stay as they are. -/
theorem run_readQuery (path : String) :
    w.run (readQuery host path) =
      (if readsInput path then .ok w.input
        else (w.files.read path).mapError fun e => [.readQuery path, .file e], w) := by
  rw [readQuery]
  split
  · rfl
  · exact w.run_attempt _ _

/-- A command about a query reads it and answers it on the date of the world, which stays as it
is. -/
theorem run_query (input : String) (doing : Cause) (answer : Date → String → Except QueryError α) :
    w.run (do
      let text ← readQuery host input
      let date ← host.today
      answered doing (answer date text)) =
      ((w.run (readQuery host input)).1.bind fun text =>
        (answer w.today text).mapError fun e => [doing, .query e], w) := by
  have hworld : (w.run (readQuery host input)).2 = w := by rw [run_readQuery]
  rw [run_bind]
  rcases hread : w.run (readQuery host input) with ⟨read, w'⟩
  obtain rfl : w' = w := by rw [← hworld, hread]
  cases read with
  | error f => rfl
  | ok text =>
    show w'.run (liftM host.today >>= fun date => answered doing (answer date text)) = _
    rw [run_bind, run_lift]
    exact w'.run_answered _ _

end FilterQuery.CommandLine.World
