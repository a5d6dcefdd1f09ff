import FilterQuery.Proofs.Sql.Walks

/-!
# The writer step by step

The writer of conditions takes one step at a time. Every join finds the texts of all its operands on
the stack, and one text is left when no step is: that of the condition, by recursion on it. The
invariant counts texts: whatever steps are left, they turn the stack into a single text.
-/

namespace FilterQuery.Sql

/-- The writer between two steps. -/
structure Writing where
  /-- The steps that are left, the next one first. -/
  steps : List Step
  /-- The finished texts, the last one first. -/
  texts : List String

namespace Writing

/-- The writer in front of a condition. -/
def start (c : Condition) : Writing := ⟨[.visit c], []⟩

/-- The number of texts on a stack after some steps, unless a join finds too few. -/
def heightAfter : List Step → Nat → Option Nat
  | [], height => some height
  | .visit _ :: steps, height => heightAfter steps (height + 1)
  | .join _ count :: steps, height =>
    if count ≤ height then heightAfter steps (height - count + 1) else none

/-- Every condition that is visited adds a text. -/
theorem heightAfter_visits_append (cs : List Condition) (steps : List Step) (height : Nat) :
    heightAfter (Step.visits cs ++ steps) height = heightAfter steps (height + cs.length) := by
  induction cs generalizing height with
  | nil => rfl
  | cons c cs ih =>
    rw [Step.visits, List.map_cons, List.cons_append, heightAfter, ← Step.visits, ih,
      List.length_cons, Nat.add_right_comm, Nat.add_assoc]

/-- No step has to make do without what it takes. -/
structure NeedsNoDefault (w : Writing) : Prop where
  /-- A condition to be written is a comparison or has a connective. -/
  connective : ∀ c steps, w.steps = .visit c :: steps →
    (∃ x, c = .compare x) ∨ ∃ k, c.connective? = some k
  /-- A join finds a text for each of its operands. -/
  operands : ∀ keyword count steps, w.steps = .join keyword count :: steps →
    count ≤ w.texts.length
  /-- When no step is left there is one text. -/
  result : w.steps = [] → ∃ text, w.texts = [text]

end Writing

open Writing (heightAfter)

namespace Dialect

/-- The next step of the writer, if there is one. -/
def next? (d : Dialect) : Writing → Option Writing
  | ⟨[], _⟩ => none
  | ⟨.visit (.compare x) :: steps, texts⟩ => some ⟨steps, d.renderComparison x :: texts⟩
  | ⟨.visit (.join k operands) :: steps, texts⟩ =>
    some ⟨Step.visits operands ++ .join k.keyword operands.length :: steps, texts⟩
  | ⟨.join keyword count :: steps, texts⟩ =>
    some ⟨steps, chainTexts keyword (texts.take count).reverse :: texts.drop count⟩

/-- The writer after a number of steps. It rests when none is left. -/
def after (d : Dialect) : Nat → Writing → Writing
  | 0, w => w
  | n + 1, w =>
    match d.next? w with
    | none => w
    | some next => d.after n next

/-- What a step can do. -/
inductive Moves (d : Dialect) : Writing → Writing → Prop where
  /-- A comparison is written at once. -/
  | compare (x : Comparison) (steps : List Step) (texts : List String) :
    Moves d ⟨.visit (.compare x) :: steps, texts⟩ ⟨steps, d.renderComparison x :: texts⟩
  /-- The operands of a join come first, and joining them behind. -/
  | operands (k : Connective) (operands : List Condition) (steps : List Step)
    (texts : List String) :
    Moves d ⟨.visit (.join k operands) :: steps, texts⟩
      ⟨Step.visits operands ++ .join k.keyword operands.length :: steps, texts⟩
  /-- As many texts as there are operands become one. -/
  | join (keyword : String) (count : Nat) (steps : List Step) (texts : List String) :
    Moves d ⟨.join keyword count :: steps, texts⟩
      ⟨steps, chainTexts keyword (texts.take count).reverse :: texts.drop count⟩

variable {d : Dialect} {c : Condition} {w w' : Writing}

theorem moves_of_next? (h : d.next? w = some w') : d.Moves w w' := by
  obtain ⟨steps, texts⟩ := w
  rcases steps with _ | ⟨⟨x | ⟨k, operands⟩⟩ | ⟨keyword, count⟩, steps⟩ <;> cases h
  · exact .compare x steps texts
  · exact .operands k operands steps texts
  · exact .join keyword count steps texts

theorem steps_eq_nil_of_next? (h : d.next? w = none) : w.steps = [] := by
  obtain ⟨steps, texts⟩ := w
  rcases steps with _ | ⟨⟨x | ⟨k, operands⟩⟩ | ⟨keyword, count⟩, steps⟩
  · rfl
  all_goals cases h

/-- A step is one of the run. -/
theorem Moves.runSteps_eq (h : d.Moves w w') :
    d.runSteps w'.steps w'.texts = d.runSteps w.steps w.texts := by
  cases h with
  | compare => rw [runSteps]
  | operands => rw [runSteps]
  | join => rw [runSteps]

/-- A step leaves less to do. -/
theorem Moves.costOfAll_lt (h : d.Moves w w') :
    Step.costOfAll w'.steps < Step.costOfAll w.steps := by
  cases h with
  | compare => simp [Step.costOfAll, Step.cost, Condition.size]
  | operands =>
    simp only [Step.costOfAll_append, Step.costOfAll_visits, Step.costOfAll, Step.cost,
      Condition.size]
    omega
  | join => simp [Step.costOfAll, Step.cost]

/-! ## What every step keeps -/

/-- What holds of the writer on its way to the text of a condition. -/
structure OnWay (d : Dialect) (c : Condition) (w : Writing) : Prop where
  /-- No join will find too few texts, and one will be left. -/
  height_eq : heightAfter w.steps w.texts.length = some 1
  /-- That one is the text of the condition. -/
  run_eq : d.runSteps w.steps w.texts = [d.text c]

theorem onWay_start (d : Dialect) (c : Condition) : d.OnWay c (.start c) := by
  refine ⟨rfl, ?_⟩
  rw [Writing.start, runSteps_eq_settle]
  rfl

/-- A step that does not find too few texts keeps the number of those that will be left. -/
theorem Moves.heightAfter_eq {n : Nat} (h : d.Moves w w')
    (hw : heightAfter w.steps w.texts.length = some n) :
    heightAfter w'.steps w'.texts.length = some n := by
  cases h with
  | compare => exact hw
  | operands =>
    -- The texts of the operands come on top, and the join takes just these.
    rw [Writing.heightAfter_visits_append, heightAfter, if_pos (Nat.le_add_left _ _),
      Nat.add_sub_cancel]
    exact hw
  | join =>
    rw [heightAfter] at hw
    split at hw
    · rwa [List.length_cons, List.length_drop]
    · cases hw

/-- A step keeps the writer on its way. -/
theorem OnWay.next (hw : d.OnWay c w) (h : d.Moves w w') : d.OnWay c w' :=
  ⟨h.heightAfter_eq hw.height_eq, h.runSteps_eq.trans hw.run_eq⟩

/-- Any number of steps does. -/
theorem OnWay.after (hw : d.OnWay c w) (n : Nat) : d.OnWay c (d.after n w) := by
  induction n generalizing w with
  | zero => exact hw
  | succ n ih =>
    rw [Dialect.after]
    split
    · exact hw
    · rename_i next hnext
      exact ih (hw.next (moves_of_next? hnext))

theorem OnWay.needsNoDefault (hw : d.OnWay c w) : w.NeedsNoDefault := by
  obtain ⟨steps, texts⟩ := w
  obtain ⟨hheight, hrun⟩ := hw
  refine ⟨?connective, ?operands, ?result⟩
  case connective =>
    rintro (x | ⟨k, operands⟩) _ -
    · exact .inl ⟨x, rfl⟩
    · exact .inr ⟨k, rfl⟩
  case operands =>
    rintro keyword count rest rfl
    rw [heightAfter] at hheight
    split at hheight
    · assumption
    · cases hheight
  case result =>
    rintro rfl
    rw [runSteps] at hrun
    exact ⟨_, hrun⟩

/-- The steps are those of the run. -/
theorem runSteps_after (n : Nat) (w : Writing) :
    d.runSteps (d.after n w).steps (d.after n w).texts = d.runSteps w.steps w.texts := by
  induction n generalizing w with
  | zero => rfl
  | succ n ih =>
    rw [after]
    split
    · rfl
    · rename_i next hnext
      rw [ih, (moves_of_next? hnext).runSteps_eq]

/-! ## The end -/

/-- Each step that is left costs something. -/
theorem steps_eq_nil_of_costOfAll (h : Step.costOfAll w.steps = 0) : w.steps = [] := by
  obtain ⟨steps, texts⟩ := w
  cases steps with
  | nil => rfl
  | cons s steps =>
    have hpos : 0 < s.cost := by
      cases s with
      | visit c => cases c <;> simp only [Step.cost, Condition.size] <;> omega
      | join => exact Nat.one_pos
    rw [Step.costOfAll] at h
    omega

/-- As many steps as they cost leave none. -/
theorem steps_after_eq_nil {n : Nat} (h : Step.costOfAll w.steps ≤ n) :
    (d.after n w).steps = [] := by
  induction n generalizing w with
  | zero => exact steps_eq_nil_of_costOfAll (Nat.le_zero.mp h)
  | succ n ih =>
    rw [after]
    split
    · rename_i hnone
      exact steps_eq_nil_of_next? hnone
    · rename_i next hnext
      have hless := (moves_of_next? hnext).costOfAll_lt
      exact ih (by omega)

/-- After twice as many steps as the condition has parts the writer rests on its text. -/
theorem after_start_eq {n : Nat} (h : 2 * c.size ≤ n) :
    d.after n (.start c) = ⟨[], [d.render c]⟩ := by
  have hway := (d.onWay_start c).after n
  have hcost : Step.costOfAll (Writing.start c).steps ≤ n := h
  have hsteps : (d.after n (.start c)).steps = [] := steps_after_eq_nil hcost
  have htexts := hway.run_eq
  rw [hsteps, runSteps, ← render_eq_text] at htexts
  rw [← htexts, ← hsteps]

/-! ## The text by recursion -/

theorem textOfAll_eq_map (d : Dialect) (cs : List Condition) :
    d.textOfAll cs = cs.map d.text := by
  induction cs with
  | nil => rfl
  | cons c cs ih => rw [textOfAll, List.map_cons, ih]

/-- The operands of a join are folded from the left. -/
theorem render_join_cons (d : Dialect) (k : Connective) (first : Condition)
    (rest : List Condition) : d.render (.join k (first :: rest)) =
      rest.foldl (fun left next => joinTexts k.keyword left (d.render next)) (d.render first) := by
  simp only [render_eq_text]
  rw [text, textOfAll, textOfAll_eq_map, foldTexts, List.foldl_map]

/-- One more operand is one more join of texts. -/
theorem render_joined (d : Dialect) (k : Connective) {left : Condition} (right : Condition)
    (h : left ≠ .join k []) : d.render (Condition.joined k left right) =
      joinTexts k.keyword (d.render left) (d.render right) := by
  have htwo : d.render (.join k [left, right]) =
      joinTexts k.keyword (d.render left) (d.render right) := by
    rw [render_join_cons]
    rfl
  cases left with
  | compare x => exact htwo
  | join k' operands =>
    rw [Condition.joined]
    split
    · rename_i hk
      subst hk
      cases operands with
      | nil => exact absurd rfl h
      | cons first rest =>
        rw [List.cons_append, render_join_cons, List.foldl_append, ← render_join_cons]
        rfl
    · exact htwo

/-- A condition is written by recursion: a comparison by itself, no operands as the empty text, and
operands folded from the left. The writer takes a bounded number of steps, which are those of its
run. On its way each join finds the texts that it takes, and at the end a single text is left, that
of the condition. Joining two conditions joins their texts, unless the left one is a join of no
operands that takes the right one in. -/
theorem render_eq_left_fold (d : Dialect) :
    (∀ x, d.render (.compare x) = d.renderComparison x) ∧
    (∀ k, d.render (.join k []) = "") ∧
    (∀ k first rest, d.render (.join k (first :: rest)) =
      rest.foldl (fun left next => joinTexts k.keyword left (d.render next)) (d.render first)) ∧
    (∀ n w, d.runSteps (d.after n w).steps (d.after n w).texts = d.runSteps w.steps w.texts) ∧
    (∀ c n, (d.after n (.start c)).NeedsNoDefault) ∧
    (∀ c n, 2 * c.size ≤ n → d.after n (.start c) = ⟨[], [d.render c]⟩) ∧
    ∀ k left right, left ≠ .join k [] → d.render (Condition.joined k left right) =
      joinTexts k.keyword (d.render left) (d.render right) := by
  refine ⟨?_, ?_, d.render_join_cons, ?_, ?_, ?_, ?_⟩
  · exact fun x => d.render_eq_text (.compare x)
  · exact fun k => d.render_eq_text (.join k [])
  · exact fun n w => runSteps_after n w
  · exact fun c n => ((d.onWay_start c).after n).needsNoDefault
  · exact fun c n h => after_start_eq h
  · exact fun k left right h => d.render_joined k right h

/-- A join without operands and one with a single operand, themselves operands of a join. -/
theorem render_eq_left_fold_sparse :
    let empty : Condition := .join .and []
    let single : Condition := .join .or [.compare (.unary "c" .isNull)]
    let both : Condition := .join .or [empty, single]
    postgres.after 8 (.start both) = ⟨[], ["() OR (\"c\" IS NULL)"]⟩ ∧
      empty ≠ .join .or [] ∧
      postgres.render (Condition.joined .or empty single) =
        joinTexts "OR" (postgres.render empty) (postgres.render single) := by
  intro empty single both
  obtain ⟨-, -, -, -, -, hend, hjoined⟩ := postgres.render_eq_left_fold
  have htext : postgres.render both = "() OR (\"c\" IS NULL)" := by
    rw [render_eq_text]
    rfl
  have hne : empty ≠ .join .or [] := by simp [empty]
  exact ⟨htext ▸ hend both 8 (by decide), hne, hjoined .or empty single hne⟩

end Dialect

end FilterQuery.Sql
