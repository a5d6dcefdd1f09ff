import FilterQuery.Proofs.Sql.Contents

/-!
# Matching parentheses

Parentheses outside of quotes match in every comparison and in every join of two texts in which they
match. So the parenthesis that closes the left operand of a join can be found, and what stands behind
it tells a join from a comparison.
-/

namespace FilterQuery.Sql

namespace Token

/-- The number of open parentheses behind a token, unless it closes one that was never opened. -/
def depthBehind (t : Token) (depth : Nat) : Option Nat :=
  if t = .mark '(' then some (depth + 1)
  else if t = .mark ')' then
    match depth with
    | 0 => none
    | depth + 1 => some depth
  else some depth

/-- The number of open parentheses behind some tokens, unless one is closed that was never
opened. -/
def depthAfter (depth : Nat) : List Token → Option Nat
  | [] => some depth
  | t :: ts => (t.depthBehind depth).bind fun depth => depthAfter depth ts

/-- What stands behind the first token that closes a parenthesis which was never opened. -/
def afterClose (depth : Nat) : List Token → Option (List Token)
  | [] => none
  | t :: ts =>
    match t.depthBehind depth with
    | none => some ts
    | some depth => afterClose depth ts

/-- Tokens in which every parenthesis has its partner. -/
def Balanced (ts : List Token) : Prop := ∀ depth, depthAfter depth ts = some depth

/-- Other tokens leave all parentheses open. -/
theorem depthBehind_of_structural?_eq_none {t : Token} (h : structural? t = none) (depth : Nat) :
    t.depthBehind depth = some depth := by
  have hopening : t ≠ .mark '(' := by
    rintro rfl
    cases h
  have hclosing : t ≠ .mark ')' := by
    rintro rfl
    cases h
  unfold depthBehind
  rw [if_neg hopening, if_neg hclosing]

/-- Structural tokens are kept as they are. -/
theorem eq_of_structural?_eq_some {t u : Token} (h : structural? t = some u) : u = t := by
  cases t with
  | mark c =>
    rw [structural?] at h
    split at h
    · exact (Option.some.inj h).symm
    · cases h
  | word letters =>
    rw [structural?] at h
    split at h
    · exact (Option.some.inj h).symm
    · cases h
  | _ => cases h

/-- Only structural tokens open and close parentheses. -/
theorem depthAfter_filterMap_structural (depth : Nat) (ts : List Token) :
    depthAfter depth (ts.filterMap structural?) = depthAfter depth ts := by
  induction ts generalizing depth with
  | nil => rfl
  | cons t ts ih =>
    cases ht : structural? t with
    | none =>
      rw [List.filterMap_cons_none ht, ih, depthAfter, depthBehind_of_structural?_eq_none ht,
        Option.bind_some]
    | some u =>
      obtain rfl := eq_of_structural?_eq_some ht
      rw [List.filterMap_cons_some ht, depthAfter, depthAfter]
      simp only [ih]

/-- Tokens are balanced when their structure is. -/
theorem balanced_iff_structural (ts : List Token) :
    Balanced ts ↔ Balanced (ts.filterMap structural?) := by
  constructor
  · intro h depth
    rw [depthAfter_filterMap_structural, h depth]
  · intro h depth
    rw [← depthAfter_filterMap_structural, h depth]

theorem depthAfter_append (depth : Nat) (ts us : List Token) :
    depthAfter depth (ts ++ us) = (depthAfter depth ts).bind fun depth => depthAfter depth us := by
  induction ts generalizing depth with
  | nil => rfl
  | cons t ts ih =>
    rw [List.cons_append, depthAfter, depthAfter]
    cases t.depthBehind depth with
    | none => rfl
    | some next => exact ih next

/-- Balanced tokens in a row are balanced. -/
theorem Balanced.append {ts us : List Token} (hts : Balanced ts) (hus : Balanced us) :
    Balanced (ts ++ us) := by
  intro depth
  rw [depthAfter_append, hts depth, Option.bind_some, hus depth]

/-- Balanced tokens in parentheses are balanced. -/
theorem Balanced.enclosed {ts : List Token} (h : Balanced ts) :
    Balanced (.mark '(' :: ts ++ [.mark ')']) := by
  intro depth
  have hclosed : depthAfter (depth + 1) (ts ++ [.mark ')']) = some depth := by
    rw [depthAfter_append, h (depth + 1)]
    rfl
  exact hclosed

/-- A closing parenthesis is looked for behind tokens that close none which was open before. -/
theorem afterClose_append {depth final : Nat} {ts : List Token}
    (h : depthAfter depth ts = some final) (rest : List Token) :
    afterClose depth (ts ++ rest) = afterClose final rest := by
  induction ts generalizing depth with
  | nil =>
    obtain rfl : depth = final := Option.some.inj h
    rfl
  | cons t ts ih =>
    obtain ⟨next, hnext, hfinal⟩ := Option.bind_eq_some_iff.mp h
    rw [List.cons_append, afterClose, hnext]
    exact ih hfinal

/-- A closing parenthesis behind balanced tokens closes the one in front of them. -/
theorem Balanced.afterClose_eq {ts : List Token} (h : Balanced ts) (rest : List Token) :
    afterClose 0 (ts ++ .mark ')' :: rest) = some rest := by
  rw [afterClose_append (h 0)]
  rfl

end Token

open Token

namespace Dialect

/-- Parentheses match in every comparison. -/
theorem balanced_comparisonTokens (d : Dialect) (x : Comparison) :
    Balanced (d.comparisonTokens x) := by
  rw [balanced_iff_structural, marks_comparisonTokens, comparisonMarks]
  have hrelation : Balanced (d.relationMarks x.relation) := by
    intro depth
    cases d <;> cases x.relation <;> rfl
  have hliteral : Balanced (d.literalMarks x.value.type?) := by
    intro depth
    cases d with
    | postgres => rfl
    | sqlServer =>
      cases x.value.type? with
      | none => rfl
      | some type => cases type <;> rfl
  refine hrelation.append ?_
  split
  · exact fun _ => rfl
  · exact hliteral

end Dialect

end FilterQuery.Sql
