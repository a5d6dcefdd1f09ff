import FilterQuery.Text.Blank
import FilterQuery.Text.Digits
import Mathlib.Data.List.Induction
import Mathlib.Tactic.Ring

/-!
# Digits and the numbers they denote

The digits of a number tell its size: their count is the one of the least power of ten above it, and
the first of them is no zero unless it is the only one. Runs of digits one behind the other denote
the sum of what they denote in their places.
-/

namespace FilterQuery.Text

/-- A run of items with a property ends before the first one that lacks it. -/
theorem span_append {α : Type} {p : α → Bool} {run rest : List α} (hrun : ∀ c ∈ run, p c = true)
    (hrest : ∀ c ∈ rest.head?, p c = false) :
    (run ++ rest).takeWhile p = run ∧ (run ++ rest).dropWhile p = rest := by
  rw [List.takeWhile_append_of_pos hrun, List.dropWhile_append_of_pos hrun]
  cases rest with
  | nil => simp
  | cons c rest =>
    have hc := hrest c rfl
    simp [hc]

theorem placeWeight_eq (place : Nat) : placeWeight place = 10 ^ place := by
  induction place with
  | zero => rfl
  | succ place ih => rw [placeWeight, ih, Nat.pow_succ, Nat.mul_comm]

/-- A number below a power of ten has no more digits than the power. -/
theorem length_naturalDigits_le {n width : Nat} (hwidth : 0 < width)
    (h : n < placeWeight width) : (naturalDigits n).length ≤ width := by
  induction n using naturalDigits.induct generalizing width with
  | case1 n hn =>
    rw [naturalDigits, if_pos hn]
    exact hwidth
  | case2 n hn ih =>
    obtain ⟨width, rfl⟩ : ∃ w, width = w + 1 := ⟨width - 1, by omega⟩
    have hbound : n < 10 * placeWeight width := h
    have hpos : 0 < width := by
      refine Nat.pos_of_ne_zero ?_
      rintro rfl
      exact hn hbound
    have hrest := ih hpos (by omega)
    rw [naturalDigits, if_neg hn, List.length_append, List.length_singleton]
    omega

/-- A number below a power of ten is padded to just that width. -/
theorem length_paddedDigits {n width : Nat} (hwidth : 0 < width) (h : n < placeWeight width) :
    (paddedDigits width n).length = width := by
  have hle := length_naturalDigits_le hwidth h
  rw [paddedDigits, List.length_append, List.length_replicate]
  omega

/-- Zeros in front of digits do not count. -/
theorem readDigits_replicate_append (zeros : Nat) (cs : List Char) :
    readDigits (List.replicate zeros '0' ++ cs) = readDigits cs := by
  induction zeros with
  | zero => rfl
  | succ zeros ih =>
    rw [← ih, List.replicate_succ, List.cons_append, readDigits, List.foldl_cons]
    rfl

theorem toNat_bounds_of_isDigit {c : Char} (h : isDigit c) : 48 ≤ c.toNat ∧ c.toNat ≤ 57 := by
  rw [isDigit, Bool.and_eq_true, decide_eq_true_eq, decide_eq_true_eq] at h
  exact h

theorem isBlank_of_isDigit {c : Char} (h : isDigit c) : isBlank c = false := by
  obtain ⟨hlow, hhigh⟩ := toNat_bounds_of_isDigit h
  simp only [isBlank, Bool.or_eq_false_iff, Bool.and_eq_false_iff, decide_eq_false_iff_not,
    beq_eq_false_iff_ne, ne_eq]
  omega

theorem digitValue_lt {c : Char} (h : isDigit c) : digitValue c < 10 := by
  obtain ⟨-, hhigh⟩ := toNat_bounds_of_isDigit h
  change c.toNat - 48 < 10
  omega

/-- Some digits are a number, and nothing else is. -/
theorem natural?_eq_some_iff {cs : List Char} {n : Nat} :
    natural? cs = some n ↔ cs ≠ [] ∧ cs.all isDigit ∧ readDigits cs = n := by
  rw [natural?]
  by_cases hne : cs = [] <;> by_cases hdigits : cs.all isDigit = true <;> simp [hne, hdigits]

theorem readDigits_paddedDigits (width n : Nat) : readDigits (paddedDigits width n) = n := by
  rw [paddedDigits, readDigits_replicate_append, readDigits_naturalDigits]

/-- A number is read back from its padded digits. -/
theorem natural?_paddedDigits (width n : Nat) : natural? (paddedDigits width n) = some n := by
  refine natural?_eq_some_iff.mpr ⟨?_, all_isDigit_paddedDigits width n,
    readDigits_paddedDigits width n⟩
  simp [paddedDigits, naturalDigits_ne_nil]

/-- Different numbers have different padded digits. -/
theorem paddedDigits_inj {width n m : Nat} (h : paddedDigits width n = paddedDigits width m) :
    n = m := by
  rw [← readDigits_paddedDigits width n, h, readDigits_paddedDigits]

/-- A run of digits denotes a number below the power of ten of its length. -/
theorem readDigits_lt {cs : List Char} (h : cs.all isDigit) :
    readDigits cs < placeWeight cs.length := by
  induction cs using List.reverseRecOn with
  | nil => decide
  | append_singleton cs c ih =>
    simp only [List.all_append, List.all_cons, List.all_nil, Bool.and_true, Bool.and_eq_true] at h
    have hvalue := digitValue_lt h.2
    have hrest := ih h.1
    rw [readDigits_append_singleton, List.length_append, List.length_singleton, placeWeight]
    omega

theorem lt_of_natural?_eq_some {cs : List Char} {n : Nat} (h : natural? cs = some n) :
    n < placeWeight cs.length := by
  obtain ⟨-, hdigits, rfl⟩ := natural?_eq_some_iff.mp h
  exact readDigits_lt hdigits

theorem digitValue_inj {c d : Char} (hc : isDigit c) (hd : isDigit d)
    (h : digitValue c = digitValue d) : c = d := by
  obtain ⟨hc, -⟩ := toNat_bounds_of_isDigit hc
  obtain ⟨hd, -⟩ := toNat_bounds_of_isDigit hd
  change c.toNat - 48 = d.toNat - 48 at h
  apply Char.toNat_inj.mp
  omega

/-- Runs of digits of one length that denote one number are the same. -/
theorem readDigits_inj {cs ds : List Char} (hcs : cs.all isDigit) (hds : ds.all isDigit)
    (hlength : cs.length = ds.length) (h : readDigits cs = readDigits ds) : cs = ds := by
  induction cs using List.reverseRecOn generalizing ds with
  | nil => exact (List.length_eq_zero_iff.mp hlength.symm).symm
  | append_singleton cs c ih =>
    cases ds using List.reverseRecOn with
    | nil => simp at hlength
    | append_singleton ds d _ =>
      simp only [List.all_append, List.all_cons, List.all_nil, Bool.and_true,
        Bool.and_eq_true] at hcs hds
      simp only [List.length_append, List.length_singleton, Nat.add_right_cancel_iff] at hlength
      rw [readDigits_append_singleton, readDigits_append_singleton] at h
      have hc := digitValue_lt hcs.2
      have hd := digitValue_lt hds.2
      -- The last digits agree because both are below ten, and so do the digits before them.
      obtain rfl := ih hcs.1 hds.1 hlength (by omega)
      obtain rfl := digitValue_inj hcs.2 hds.2 (by omega)
      rfl

/-- Digits are those of the number that they denote, padded to their count. -/
theorem paddedDigits_readDigits {cs : List Char} (hne : cs ≠ []) (hdigits : cs.all isDigit) :
    paddedDigits cs.length (readDigits cs) = cs :=
  readDigits_inj (all_isDigit_paddedDigits ..) hdigits
    (length_paddedDigits (List.length_pos_iff.mpr hne) (readDigits_lt hdigits))
    (readDigits_paddedDigits ..)

/-- The digits behind others count as they stand, the others by the power of ten above them. -/
theorem readDigits_append (cs ds : List Char) :
    readDigits (cs ++ ds) = readDigits cs * 10 ^ ds.length + readDigits ds := by
  induction ds using List.reverseRecOn with
  | nil => simp [readDigits]
  | append_singleton ds d ih =>
    rw [← List.append_assoc, readDigits_append_singleton, readDigits_append_singleton, ih,
      List.length_append, List.length_singleton]
    ring

/-- Zeros behind digits multiply by a power of ten. -/
theorem readDigits_append_replicate (cs : List Char) (zeros : Nat) :
    readDigits (cs ++ List.replicate zeros '0') = readDigits cs * 10 ^ zeros := by
  have hzeros : readDigits (List.replicate zeros '0') = 0 := by
    have h := readDigits_replicate_append zeros []
    rwa [List.append_nil] at h
  rw [readDigits_append, List.length_replicate, hzeros, Nat.add_zero]

/-- A number is below the power of ten of its digits. -/
theorem lt_pow_length_naturalDigits (n : Nat) : n < 10 ^ (naturalDigits n).length := by
  have h := readDigits_lt (all_isDigit_naturalDigits n)
  rwa [readDigits_naturalDigits, placeWeight_eq] at h

/-- A positive number is not below the power of ten of its digits but one. -/
theorem pow_length_naturalDigits_le {n : Nat} (h : 0 < n) :
    10 ^ ((naturalDigits n).length - 1) ≤ n := by
  induction n using naturalDigits.induct with
  | case1 n hn =>
    rw [naturalDigits, if_pos hn]
    exact h
  | case2 n hn ih =>
    have hrest := ih (by omega)
    have hpos := List.length_pos_iff.mpr (naturalDigits_ne_nil (n / 10))
    rw [naturalDigits, if_neg hn, List.length_append, List.length_singleton,
      Nat.add_sub_cancel]
    obtain ⟨k, hk⟩ : ∃ k, (naturalDigits (n / 10)).length = k + 1 :=
      ⟨(naturalDigits (n / 10)).length - 1, by omega⟩
    rw [hk, Nat.add_sub_cancel] at hrest
    rw [hk, Nat.pow_succ]
    omega

/-- Only zero starts with a zero. -/
theorem head?_naturalDigits_ne {n : Nat} (h : 0 < n) : (naturalDigits n).head? ≠ some '0' := by
  induction n using naturalDigits.induct with
  | case1 n hn =>
    rw [naturalDigits, if_pos hn, List.head?_cons]
    revert h
    revert n
    decide
  | case2 n hn ih =>
    have hrest := ih (by omega)
    rw [naturalDigits, if_neg hn, List.head?_append]
    cases hdigits : naturalDigits (n / 10) with
    | nil => exact absurd hdigits (naturalDigits_ne_nil _)
    | cons d ds =>
      rw [hdigits] at hrest
      exact hrest

end FilterQuery.Text
