import Mathlib.Logic.Function.Iterate

/-!
# Walks

A walk has a list of pending nodes and something that it gathers. A turn takes the first node, looks
at it, and puts its parts in its place or drops whatever is pending. When every turn leaves less to
do, what there is to do bounds the turns, and when no turn changes what the walk will come to, the
last one has come to it.
-/

namespace FilterQuery

variable {α σ : Type}

/-- What a walk does at a node. -/
structure Walk (α σ : Type) where
  /-- What has been gathered after a look at a node. -/
  visit : α → σ → σ
  /-- What takes the place of a node, unless the walk ends there. -/
  parts : α → Option (List α)

namespace Walk

/-- A turn, from the pending nodes and what has been gathered. A walk rests when none is pending. -/
def turn (w : Walk α σ) : List α × σ → List α × σ
  | ([], gathered) => ([], gathered)
  | (a :: pending, gathered) =>
    match w.parts a with
    | some parts => (parts ++ pending, w.visit a gathered)
    | none => ([], w.visit a gathered)

/-- A walk comes to an answer: every turn leaves the pending nodes with less to do, and keeps what
they come to on top of what has been gathered. -/
structure ComesTo (w : Walk α σ) (load : List α → ℕ) (answer : List α → σ → σ) : Prop where
  /-- Nothing is to do when no node is pending. -/
  load_nil : load [] = 0
  /-- A turn leaves less to do. -/
  load_turn_lt : ∀ a pending gathered,
    load (w.turn (a :: pending, gathered)).1 < load (a :: pending)
  /-- Nothing is to come when no node is pending. -/
  answer_nil : ∀ gathered, answer [] gathered = gathered
  /-- A turn keeps the answer. -/
  answer_turn : ∀ a pending gathered, answer (w.turn (a :: pending, gathered)).1
    (w.turn (a :: pending, gathered)).2 = answer (a :: pending) gathered

variable {w : Walk α σ} {load : List α → ℕ} {answer : List α → σ → σ}

/-- As many turns as there is to do leave no node pending, and the answer. -/
theorem ComesTo.iterate_turn (h : w.ComesTo load answer) {n : ℕ} {pending : List α}
    (gathered : σ) (hn : load pending ≤ n) :
    w.turn^[n] (pending, gathered) = ([], answer pending gathered) := by
  induction n generalizing pending gathered with
  | zero =>
    cases pending with
    | nil => rw [h.answer_nil, Function.iterate_zero_apply]
    | cons a pending =>
      have hlt := h.load_turn_lt a pending gathered
      omega
  | succ n ih =>
    rw [Function.iterate_succ_apply]
    cases pending with
    | nil =>
      have hrest : load [] ≤ n := by
        rw [h.load_nil]
        exact Nat.zero_le n
      exact ih gathered hrest
    | cons a pending =>
      have hlt := h.load_turn_lt a pending gathered
      have hrest := ih (w.turn (a :: pending, gathered)).2
        (Nat.le_of_lt_succ (Nat.lt_of_lt_of_le hlt hn))
      rwa [h.answer_turn] at hrest

end Walk

end FilterQuery
