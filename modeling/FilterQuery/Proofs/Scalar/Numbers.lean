import FilterQuery.Proofs.Decimal.Reading
import FilterQuery.Proofs.Scalar.Dates

/-!
# Strings that are numerals

The text of a numeral has no blanks, is no truth word and never has the shape of a date. So such a
string is a number where a number or a date is asked for, unless it is one that decimals do not
hold.
-/

namespace FilterQuery

namespace Decimal

open Text (isDigit)

/-- A plain number is made of digits, signs and the point. -/
theorem Plain.WellFormed.char_cases {p : Plain} (hp : p.WellFormed) {c : Char}
    (hc : c ∈ p.chars) : isDigit c ∨ c = '+' ∨ c = '-' ∨ c = '.' := by
  rw [Plain.chars, List.mem_append] at hc
  rcases hc with hsign | hbody
  · rcases Sign.eq_of_mem_chars hsign with h | h <;> simp [h]
  · rcases hp.isDigit_or_point c hbody with h | h <;> simp [h]

theorem Plain.WellFormed.chars_ne_nil {p : Plain} (hp : p.WellFormed) : p.chars ≠ [] := by
  intro hnil
  have hdigit := hp.has_digit
  simp only [Plain.chars, Plain.body, List.append_eq_nil_iff] at hnil
  cases hfraction : p.fraction <;> simp_all [Plain.behind]

/-- A power of ten is made of its letter, signs and digits. -/
theorem Power.WellFormed.char_cases {p : Power} (hp : p.WellFormed) {c : Char}
    (hc : c ∈ p.chars) : isDigit c ∨ c = '+' ∨ c = '-' ∨ isPowerMark c := by
  have hdigits := List.all_eq_true.mp hp.all_digits c
  have hmark := hp.mark_eq
  simp only [Power.chars, Power.count] at hc
  split_ifs at hc <;> simp only [List.mem_cons] at hc <;> grind

namespace Numeral

variable {n : Numeral}

/-- No blank stands in the text of a numeral. -/
theorem WellFormed.not_isBlank (hn : n.WellFormed) : ∀ c ∈ n.chars, Text.isBlank c = false := by
  intro c hc
  rw [chars, List.mem_append] at hc
  rcases hc with hbase | hpower
  · rcases hn.base.char_cases hbase with h | rfl | rfl | rfl
    · exact Text.isBlank_of_isDigit h
    all_goals decide
  · cases hp : n.power with
    | none => simp [hp] at hpower
    | some p =>
      rw [hp] at hpower
      rcases (hn.power p hp).char_cases hpower with h | rfl | rfl | h
      · exact Text.isBlank_of_isDigit h
      · decide
      · decide
      · rw [isPowerMark, Bool.or_eq_true, decide_eq_true_eq, decide_eq_true_eq] at h
        rcases h with rfl | rfl <;> decide

/-- The text of a numeral starts with no letter. -/
theorem WellFormed.exists_head? (hn : n.WellFormed) :
    ∃ c, n.chars.head? = some c ∧ c.toNat < 'A'.toNat := by
  obtain ⟨c, cs, hbase⟩ := List.exists_cons_of_ne_nil hn.base.chars_ne_nil
  refine ⟨c, by simp [chars, hbase], ?_⟩
  rcases hn.base.char_cases (c := c) (by simp [hbase]) with h | rfl | rfl | rfl
  · have hhigh := (Text.toNat_bounds_of_isDigit h).2
    exact Nat.lt_of_le_of_lt hhigh (by decide)
  all_goals decide

/-- The text of a numeral has not the shape of a date: its hyphens stand in front of all digits or
behind a letter. -/
theorem WellFormed.not_hasDateShape (hn : n.WellFormed) : Date.hasDateShape n.chars = false := by
  rw [Bool.eq_false_iff]
  intro hshape
  obtain ⟨w, hw, hchars⟩ := Date.hasDateShape_iff.mp hshape
  obtain ⟨hall, hhead, hhyphen⟩ := hw.chars_spec
  rw [hchars] at hall hhead hhyphen
  have hpower : n.power = none := by
    rw [Option.eq_none_iff_forall_ne_some]
    intro p hp
    have hmark := (hn.power p hp).mark_eq
    rcases hall p.mark (by simp [chars, hp, Power.chars]) with hdigit | hminus
    · simp [isPowerMark_eq_false_of_isDigit hdigit] at hmark
    · simp [hminus, isPowerMark] at hmark
  have hplain : n.chars = n.base.sign.chars ++ n.base.body := by
    simp [chars, hpower, Plain.chars]
  -- A sign in front would stand where the first digit is.
  have hsign : n.base.sign = .absent := by
    cases hcases : n.base.sign with
    | absent => rfl
    | plus => simp [hplain, hcases, Sign.chars, isDigit] at hhead
    | minus => simp [hplain, hcases, Sign.chars, isDigit] at hhead
  rw [hplain, hsign, Sign.chars, List.nil_append] at hhyphen
  exact (hn.base.ne_signs '-' hhyphen).1 rfl

end Numeral

end Decimal

/-- A character before the letters stays in front when letters are changed to small ones. -/
theorem Text.head?_toLower {s : String} {c : Char} (hhead : s.toList.head? = some c)
    (hc : c.toNat < 'A'.toNat) : s.toLower.toList.head? = some c := by
  have hsame : c.toLower = c := dif_neg fun h => absurd hc (Nat.not_lt.mpr h.1)
  change (s.map Char.toLower).toList.head? = some c
  rw [String.toList_map, List.head?_map, hhead, Option.map_some, hsame]

namespace Scalar

variable {n : Decimal.Numeral} {s : String}

/-- Nothing is trimmed off a numeral. -/
theorem trimChars_of_spells (h : n.Spells s) : Text.trimChars s.toList = s.toList :=
  Text.trimChars_of_not_isBlank (h.chars_eq ▸ h.wellFormed.not_isBlank)

/-- It is read as it stands. -/
theorem ofText?_of_spells (h : n.Spells s) :
    Decimal.ofText? s = Decimal.ofChars? (Text.trimChars s.toList) := by
  rw [trimChars_of_spells h, Decimal.ofText?]

/-- A numeral is no truth word. -/
theorem coerce_boolean_of_spells (h : n.Spells s) :
    coerce (.string s) .boolean =
      .error (.rejected (Json.string s).text .boolean .notTruthWord) := by
  obtain ⟨c, hhead, hc⟩ := h.wellFormed.exists_head?
  rw [h.chars_eq] at hhead
  have hlower := Text.head?_toLower hhead hc
  have hword {word : String} {d : Char} (hword : word.toList.head? = some d)
      (hd : 'A'.toNat ≤ d.toNat) : s.toLower ≠ word := by
    rintro rfl
    obtain rfl : c = d := Option.some.inj (hlower.symm.trans hword)
    omega
  simp only [coerce, coerceBoolean, Text.trim, trimChars_of_spells h, String.ofList_toList]
  rw [if_neg (hword (d := 't') rfl (by decide)), if_neg (hword (d := 'f') rfl (by decide)),
    if_neg (hword (d := 'n') rfl (by decide))]

/-- Where a date is asked for, a numeral is a count. -/
theorem coerce_date_of_spells (h : n.Spells s) :
    coerce (.string s) .date =
      match Decimal.ofText? s with
      | some d => .ok (.numeric d)
      | none => .error (.rejected (Json.string s).text .date .notDateOrNumber) := by
  have hshape : Date.hasDateShape (Text.trimChars s.toList) = false := by
    rw [trimChars_of_spells h, ← h.chars_eq]
    exact h.wellFormed.not_hasDateShape
  rw [ofText?_of_spells h]
  exact coerce_date_of_not_hasDateShape hshape

/-- Where a number is asked for, a numeral is that number. -/
theorem coerce_numeric_of_spells (h : n.Spells s) :
    coerce (.string s) .numeric =
      match Decimal.ofText? s with
      | some d => .ok (.numeric d)
      | none => .error (.rejected (Json.string s).text .numeric .notDecimal) := by
  rw [ofText?_of_spells h]
  rfl

end Scalar

end FilterQuery
