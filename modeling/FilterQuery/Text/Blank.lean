/-!
# Blank characters

Blanks are the characters with the Unicode property White_Space. They are trimmed from type tags,
dates, decimals and setting names, and a text that holds nothing else counts as empty.
-/

namespace FilterQuery.Text

/-- The characters of the property White_Space: the ASCII controls from tab to carriage return,
the space, next line, the no-break spaces, the spaces of general punctuation and the ideographic
space. -/
def isBlank (c : Char) : Bool :=
  let n := c.toNat
  (0x09 ≤ n && n ≤ 0x0d) || n == 0x20 || n == 0x85 || n == 0xa0 || n == 0x1680 ||
    (0x2000 ≤ n && n ≤ 0x200a) || n == 0x2028 || n == 0x2029 || n == 0x202f || n == 0x205f ||
    n == 0x3000

/-- The characters left after the blanks at both ends are dropped. -/
def trimChars (cs : List Char) : List Char :=
  ((cs.dropWhile isBlank).reverse.dropWhile isBlank).reverse

/-- A text without the blanks at its ends. -/
def trim (s : String) : String := String.ofList (trimChars s.toList)

theorem toList_trim (s : String) : (trim s).toList = trimChars s.toList := String.toList_ofList

/-- A text that trimming leaves empty. -/
def isBlankText (s : String) : Bool := s.toList.all isBlank

private theorem dropWhile_eq_nil_of_all {cs : List Char} (h : cs.all isBlank) :
    cs.dropWhile isBlank = [] := by
  induction cs with
  | nil => rfl
  | cons c cs ih =>
    rw [List.all_cons, Bool.and_eq_true] at h
    rw [List.dropWhile_cons_of_pos h.1, ih h.2]

private theorem all_of_dropWhile_eq_nil {cs : List Char} (h : cs.dropWhile isBlank = []) :
    cs.all isBlank := by
  induction cs with
  | nil => rfl
  | cons c cs ih =>
    by_cases hc : isBlank c
    · rw [List.dropWhile_cons_of_pos hc] at h
      simp [hc, ih h]
    · simp [hc] at h

/-- Trimming leaves nothing exactly of the texts of blanks. -/
theorem trimChars_eq_nil_iff (cs : List Char) : trimChars cs = [] ↔ cs.all isBlank := by
  constructor
  · intro h
    have hall := all_of_dropWhile_eq_nil (List.reverse_eq_nil_iff.mp h)
    rw [List.all_reverse] at hall
    cases hd : cs.dropWhile isBlank with
    | nil => exact all_of_dropWhile_eq_nil hd
    | cons c r =>
      have hc : isBlank c = false := by
        have := List.head?_dropWhile_not isBlank cs
        simpa [hd] using this
      simp [hd, hc] at hall
  · intro h
    simp [trimChars, dropWhile_eq_nil_of_all h]

/-- Trimming leaves characters as they are when none of them is blank. -/
theorem trimChars_of_not_isBlank {cs : List Char} (h : ∀ c ∈ cs, isBlank c = false) :
    trimChars cs = cs := by
  have hdrop {ds : List Char} (hds : ∀ c ∈ ds, isBlank c = false) : ds.dropWhile isBlank = ds := by
    cases ds with
    | nil => rfl
    | cons d ds => rw [List.dropWhile_cons, hds d List.mem_cons_self, if_neg Bool.false_ne_true]
  rw [trimChars, hdrop h, hdrop fun c hc => h c (List.mem_reverse.mp hc), List.reverse_reverse]

/-- So it leaves a text. -/
theorem trim_of_not_isBlank {s : String} (h : ∀ c ∈ s.toList, isBlank c = false) : trim s = s := by
  rw [trim, trimChars_of_not_isBlank h, String.ofList_toList]

end FilterQuery.Text
