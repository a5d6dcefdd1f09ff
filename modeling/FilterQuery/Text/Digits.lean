/-!
# Decimal digits

Reading and writing natural numbers and integers in base ten. The written form has no leading
zero, and reading it back gives the number. `placeWeight` is what one more zero at the end is worth.
-/

namespace FilterQuery.Text

/-- An ASCII digit. -/
def isDigit (c : Char) : Bool := '0' ≤ c && c ≤ '9'

/-- The value of a digit; of other characters it says nothing. -/
def digitValue (c : Char) : Nat := c.toNat - '0'.toNat

/-- The digit of a value below ten. -/
def digitChar (d : Nat) : Char := Char.ofNat ('0'.toNat + d)

/-- What a one is worth with so many digits behind it. -/
def placeWeight : Nat → Nat
  | 0 => 1
  | place + 1 => 10 * placeWeight place

/-- The number that a run of digits denotes, most significant first. -/
def readDigits (cs : List Char) : Nat := cs.foldl (fun n c => 10 * n + digitValue c) 0

/-- The digits of a natural number, most significant first and without a leading zero. -/
def naturalDigits (n : Nat) : List Char :=
  if n < 10 then [digitChar n] else naturalDigits (n / 10) ++ [digitChar (n % 10)]
termination_by n

/-- The digits of a natural number with zeros in front up to a width. -/
def paddedDigits (width n : Nat) : List Char :=
  let ds := naturalDigits n
  List.replicate (width - ds.length) '0' ++ ds

/-- A natural number in base ten. -/
def naturalText (n : Nat) : String := String.ofList (naturalDigits n)

/-- An integer in base ten, with a sign only when it is negative. -/
def integerText : Int → String
  | .ofNat n => naturalText n
  | .negSucc n => "-" ++ naturalText (n + 1)

/-- The number of a nonempty text of digits. -/
def natural? (cs : List Char) : Option Nat :=
  if cs.isEmpty || !cs.all isDigit then none else some (readDigits cs)

theorem placeWeight_pos (place : Nat) : 0 < placeWeight place := by
  induction place with
  | zero => decide
  | succ place ih => exact Nat.mul_pos (by decide) ih

theorem digitValue_digitChar {d : Nat} (h : d < 10) : digitValue (digitChar d) = d := by
  revert d
  decide

theorem isDigit_digitChar {d : Nat} (h : d < 10) : isDigit (digitChar d) := by
  revert d
  decide

theorem readDigits_append_singleton (cs : List Char) (c : Char) :
    readDigits (cs ++ [c]) = 10 * readDigits cs + digitValue c := by
  simp [readDigits]

/-- Reading the digits of a number gives the number. -/
theorem readDigits_naturalDigits (n : Nat) : readDigits (naturalDigits n) = n := by
  induction n using naturalDigits.induct with
  | case1 n h => rw [naturalDigits, if_pos h]; simp [readDigits, digitValue_digitChar h]
  | case2 n h ih =>
    rw [naturalDigits, if_neg h, readDigits_append_singleton, ih,
      digitValue_digitChar (Nat.mod_lt _ (by decide))]
    omega

theorem all_isDigit_naturalDigits (n : Nat) : (naturalDigits n).all isDigit := by
  induction n using naturalDigits.induct with
  | case1 n h => rw [naturalDigits, if_pos h]; simp [isDigit_digitChar h]
  | case2 n h ih =>
    rw [naturalDigits, if_neg h, List.all_append, ih]
    simp [isDigit_digitChar (Nat.mod_lt n (by decide : 0 < 10))]

theorem naturalDigits_ne_nil (n : Nat) : naturalDigits n ≠ [] := by
  rw [naturalDigits]
  split <;> simp

theorem all_isDigit_paddedDigits (width n : Nat) : (paddedDigits width n).all isDigit := by
  rw [paddedDigits, List.all_append, all_isDigit_naturalDigits, Bool.and_true, List.all_eq_true]
  intro c hc
  obtain rfl := List.eq_of_mem_replicate hc
  decide

/-- Padding reaches the width. -/
theorem le_length_paddedDigits (width n : Nat) : width ≤ (paddedDigits width n).length := by
  rw [paddedDigits, List.length_append, List.length_replicate]
  omega

end FilterQuery.Text
