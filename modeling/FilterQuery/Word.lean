/-!
# Words

The whole numbers of a signed word of 64 bits. Counts and components of dates are words: what does
not fit is refused and never wraps around.
-/

namespace FilterQuery

/-- The whole numbers that a word of 64 bits holds. -/
def IsWord (n : Int) : Prop := -0x8000000000000000 ≤ n ∧ n ≤ 0x7fffffffffffffff

instance (n : Int) : Decidable (IsWord n) := inferInstanceAs (Decidable (_ ∧ _))

/-- A number that a word of 64 bits holds. -/
structure Word where
  /-- The number. -/
  toInt : Int
  /-- It fits. -/
  isWord : IsWord toInt
  deriving DecidableEq

namespace Word

/-- The word of a number, if it fits. -/
def of? (n : Int) : Option Word := if h : IsWord n then some ⟨n, h⟩ else none

/-- A word times a number, if the product fits. -/
def times? (w : Word) (n : Int) : Option Word := of? (w.toInt * n)

theorem of?_eq_some_iff {n : Int} {w : Word} : of? n = some w ↔ w.toInt = n := by
  unfold of?
  constructor
  · split
    · intro h
      cases h
      rfl
    · intro h
      cases h
  · rintro rfl
    rw [dif_pos w.isWord]

end Word

end FilterQuery
