import FilterQuery.Calendar.Text
import FilterQuery.Proofs.Text.Digits

/-!
# Dates that are read back

Reading accepts ten characters only, and writing needs more of them for years beyond four digits. So
the dates whose text is read back are exactly those of the years 0 to 9999, and these are also the
only dates that reading gives. No two dates share a text, whether or not it is read back.
-/

namespace FilterQuery

namespace Calendar

theorem daysInMonth_le (year : Int) (month : Nat) : daysInMonth year month ≤ 31 := by
  have hlengths : ∀ length ∈ monthLengths year, length ≤ 31 := by
    rw [monthLengths]
    split <;> decide
  cases month with
  | zero => exact Nat.zero_le _
  | succ month =>
    change (monthLengths year)[month]?.getD 0 ≤ 31
    cases hlength : (monthLengths year)[month]? with
    | none => exact Nat.zero_le _
    | some length => exact hlengths length (List.mem_of_getElem? hlength)

/-- There is no month beyond the twelfth. -/
theorem daysInMonth_eq_zero {month : Nat} (year : Int) (h : 12 < month) :
    daysInMonth year month = 0 := by
  obtain ⟨month, rfl⟩ : ∃ m, month = m + 1 := ⟨month - 1, by omega⟩
  have hlength : (monthLengths year).length ≤ month := by
    change 12 ≤ month
    omega
  change (monthLengths year)[month]?.getD 0 = 0
  rw [List.getElem?_eq_none hlength]
  rfl

end Calendar

namespace Date

open Calendar

/-- Two digits hold the month and the day of a date. -/
theorem month_lt_and_day_lt (d : Date) : d.month < 100 ∧ d.day < 100 := by
  obtain ⟨-, -, hfirst, hlast⟩ := d.isDate
  have hle := daysInMonth_le d.year d.month
  have hmonth : d.month ≤ 12 := by
    refine Nat.le_of_not_lt fun h => ?_
    rw [daysInMonth_eq_zero d.year h] at hlast
    omega
  omega

/-- A date of the years 0 to 9999, which are written in four digits. -/
def HasPlainYear (d : Date) : Prop := 0 ≤ d.year ∧ d.year ≤ 9999

instance (d : Date) : Decidable d.HasPlainYear := inferInstanceAs (Decidable (_ ∧ _))

theorem of?_eq_some_iff {year : Int} {month day : Nat} {d : Date} :
    of? year month day = some d ↔ d.year = year ∧ d.month = month ∧ d.day = day := by
  rw [of?]
  constructor
  · intro h
    split at h
    · cases h
      exact ⟨rfl, rfl, rfl⟩
    · cases h
  · rintro ⟨rfl, rfl, rfl⟩
    rw [dif_pos d.isDate]

theorem eq_of_parts {d e : Date} (hyear : d.year = e.year) (hmonth : d.month = e.month)
    (hday : d.day = e.day) : d = e := by
  have hd : of? e.year e.month e.day = some d := of?_eq_some_iff.mpr ⟨hyear, hmonth, hday⟩
  have he : of? e.year e.month e.day = some e := of?_eq_some_iff.mpr ⟨rfl, rfl, rfl⟩
  exact Option.some.inj (hd.symm.trans he)

/-- Ten characters have the shape of a date when all are digits but for two hyphens. -/
theorem hasDateShape_append {ys ms ds : List Char} (hy : ys.length = 4) (hm : ms.length = 2)
    (hd : ds.length = 2) :
    hasDateShape (ys ++ '-' :: ms ++ '-' :: ds) = (ys ++ ms ++ ds).all Text.isDigit := by
  match ys, ms, ds, hy, hm, hd with
  | [_, _, _, _], [_, _], [_, _], _, _, _ => rfl

/-- Ten characters are read as three numbers between hyphens. -/
theorem ofChars?_append {ys ms ds : List Char} (hy : ys.length = 4) (hm : ms.length = 2)
    (hd : ds.length = 2) {year month day : Nat} (hyear : Text.natural? ys = some year)
    (hmonth : Text.natural? ms = some month) (hday : Text.natural? ds = some day) :
    ofChars? (ys ++ '-' :: ms ++ '-' :: ds) = of? year month day := by
  match ys, ms, ds, hy, hm, hd with
  | [_, _, _, _], [_, _], [_, _], _, _, _ =>
    simp only [List.cons_append, List.nil_append, ofChars?, hyear, hmonth, hday]
    rfl

/-- Nothing else is read. -/
theorem exists_parts_of_ofChars? {cs : List Char} {d : Date} (h : ofChars? cs = some d) :
    ∃ ys ms ds, ys.length = 4 ∧ ms.length = 2 ∧ ds.length = 2 ∧ cs = ys ++ '-' :: ms ++ '-' :: ds ∧
      ∃ year month day, Text.natural? ys = some year ∧ Text.natural? ms = some month ∧
        Text.natural? ds = some day ∧ of? year month day = some d := by
  rw [ofChars?.eq_def] at h
  split at h
  · obtain ⟨year, hyear, h⟩ := Option.bind_eq_some_iff.mp h
    obtain ⟨month, hmonth, h⟩ := Option.bind_eq_some_iff.mp h
    obtain ⟨day, hday, h⟩ := Option.bind_eq_some_iff.mp h
    exact ⟨_, _, _, rfl, rfl, rfl, rfl, year, month, day, hyear, hmonth, hday, h⟩
  · cases h

/-- Reading gives dates of the years 0 to 9999 only. -/
theorem hasPlainYear_of_ofChars?_eq_some {cs : List Char} {d : Date} (h : ofChars? cs = some d) :
    d.HasPlainYear := by
  obtain ⟨ys, ms, ds, hys, -, -, -, year, month, day, hyear, -, -, hd⟩ :=
    exists_parts_of_ofChars? h
  have hlt : year < 10000 := by
    have hlt := Text.lt_of_natural?_eq_some hyear
    rwa [hys] at hlt
  have hd := (of?_eq_some_iff.mp hd).1
  exact ⟨by omega, by omega⟩

/-- The year of such a date is written without a sign. -/
theorem chars_of_hasPlainYear {d : Date} (h : d.HasPlainYear) :
    d.chars = Text.paddedDigits 4 d.year.toNat ++ '-' :: Text.paddedDigits 2 d.month ++
      '-' :: Text.paddedDigits 2 d.day := by
  have hyear : 0 ≤ d.year ∧ d.year ≤ 9999 := h
  rw [chars, yearChars, if_pos hyear, List.append_assoc]

/-- A date of the years 0 to 9999 is written in ten characters, which have the shape of a date and
are read back. -/
theorem ofChars?_chars {d : Date} (h : d.HasPlainYear) :
    d.chars.length = 10 ∧ hasDateShape d.chars ∧ ofChars? d.chars = some d := by
  obtain ⟨hmonth, hday⟩ := d.month_lt_and_day_lt
  have hy : (Text.paddedDigits 4 d.year.toNat).length = 4 :=
    Text.length_paddedDigits (by decide) (by change _ < 10000; have := h.2; omega)
  have hm : (Text.paddedDigits 2 d.month).length = 2 :=
    Text.length_paddedDigits (by decide) hmonth
  have hd : (Text.paddedDigits 2 d.day).length = 2 := Text.length_paddedDigits (by decide) hday
  rw [chars_of_hasPlainYear h]
  refine ⟨by simp [hy, hm, hd], ?_, ?_⟩
  · rw [hasDateShape_append hy hm hd, List.all_append, List.all_append,
      Text.all_isDigit_paddedDigits, Text.all_isDigit_paddedDigits, Text.all_isDigit_paddedDigits]
    rfl
  · rw [ofChars?_append hy hm hd (Text.natural?_paddedDigits 4 _) (Text.natural?_paddedDigits 2 _)
      (Text.natural?_paddedDigits 2 _), of?_eq_some_iff]
    exact ⟨(Int.toNat_of_nonneg h.1).symm, rfl, rfl⟩

/-- The dates that are read back from their text are those of the years 0 to 9999. -/
theorem ofText?_text_iff (d : Date) : ofText? d.text = some d ↔ d.HasPlainYear := by
  rw [ofText?, text, String.toList_ofList]
  exact ⟨hasPlainYear_of_ofChars?_eq_some, fun h => (ofChars?_chars h).2.2⟩

/-- A year beyond four digits starts with a sign, and so with no digit. -/
theorem paddedDigits_ne_sign_cons {width n m : Nat} {negative : Prop} [Decidable negative] :
    Text.paddedDigits width n ≠ (if negative then '-' else '+') :: Text.paddedDigits width m := by
  intro h
  have hsign : Text.isDigit (if negative then '-' else '+') = true :=
    List.all_eq_true.mp (Text.all_isDigit_paddedDigits width n) _ (h ▸ List.mem_cons_self)
  split at hsign <;> exact absurd hsign (by decide)

/-- Each year is written in its own way, with a sign or without one. -/
theorem yearChars_inj {y z : Int} (h : yearChars y = yearChars z) : y = z := by
  rw [yearChars, yearChars] at h
  by_cases hy : 0 ≤ y ∧ y ≤ 9999 <;> by_cases hz : 0 ≤ z ∧ z ≤ 9999
  · rw [if_pos hy, if_pos hz] at h
    have hvalue := Text.paddedDigits_inj h
    omega
  · rw [if_pos hy, if_neg hz] at h
    exact absurd h paddedDigits_ne_sign_cons
  · rw [if_neg hy, if_pos hz] at h
    exact absurd h.symm paddedDigits_ne_sign_cons
  · rw [if_neg hy, if_neg hz] at h
    obtain ⟨hsign, htail⟩ := List.cons.inj h
    have hvalue := Text.paddedDigits_inj htail
    by_cases hynegative : y < 0 <;> by_cases hznegative : z < 0 <;>
      simp [hynegative, hznegative] at hsign <;> omega

/-- No two dates have one text, in whatever years they fall. -/
theorem text_inj {d e : Date} (h : d.text = e.text) : d = e := by
  have hlength {n m : Nat} (hn : n < 100) (hm : m < 100) :
      ('-' :: Text.paddedDigits 2 n).length = ('-' :: Text.paddedDigits 2 m).length := by
    rw [List.length_cons, List.length_cons, Text.length_paddedDigits (by decide) hn,
      Text.length_paddedDigits (by decide) hm]
  obtain ⟨hdmonth, hdday⟩ := d.month_lt_and_day_lt
  obtain ⟨hemonth, heday⟩ := e.month_lt_and_day_lt
  have hchars : d.chars = e.chars := String.ofList_injective h
  -- Month and day have two digits each, so both texts are cut at the same places from the end.
  obtain ⟨hfront, hday⟩ := List.append_inj' hchars (hlength hdday heday)
  obtain ⟨hyear, hmonth⟩ := List.append_inj' hfront (hlength hdmonth hemonth)
  exact eq_of_parts (yearChars_inj hyear) (Text.paddedDigits_inj (List.cons.inj hmonth).2)
    (Text.paddedDigits_inj (List.cons.inj hday).2)

end Date

end FilterQuery
