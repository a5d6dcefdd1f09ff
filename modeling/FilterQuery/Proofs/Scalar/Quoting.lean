import FilterQuery.Proofs.Json.Numeral
import FilterQuery.Proofs.Scalar.Numbers

/-!
# Scalars in quotes

A number is coerced as the string that holds its text. Whole numbers do not go by their text and
strings are trimmed and tried as dates, but the text of a number is a numeral, and reading a numeral
without a point or a power of ten gives that whole number.
-/

namespace FilterQuery

open Text (readDigits naturalDigits)

/-- A numeral of JSON with its sign, as decimals are read. -/
def Json.Numeral.signed (negative : Bool) (n : Json.Numeral) : Decimal.Numeral where
  base := ⟨if negative then .minus else .absent, n.whole,
    if n.fraction.isEmpty then none else some n.fraction⟩
  power := n.power.map fun k => ⟨'e', decide (k < 0), !decide (k < 0), naturalDigits k.natAbs⟩

namespace Json.Numeral

variable (negative : Bool) (n : Json.Numeral)

theorem chars_signed :
    (n.signed negative).chars = (if negative then ['-'] else []) ++ n.chars := by
  have hbase : (n.signed negative).base.chars = (if negative then ['-'] else []) ++
      (n.whole ++ if n.fraction.isEmpty then [] else '.' :: n.fraction) := by
    rw [Decimal.Plain.chars, Decimal.Plain.body, signed]
    cases negative <;> split_ifs <;> simp [Decimal.Sign.chars]
  rw [Decimal.Numeral.chars, hbase, chars, List.append_assoc, List.append_assoc]
  congr 3
  cases hp : n.power with
  | none => simp [signed, hp]
  | some k =>
    by_cases hk : k < 0 <;>
      simp [signed, hp, hk, Decimal.Power.chars, Decimal.Power.count, Binary64.powerText]

theorem WellFormed.signed {n : Json.Numeral} (hn : n.WellFormed) :
    (n.signed negative).WellFormed where
  base := by
    have hbehind : (n.signed negative).base.behind = n.fraction := by
      simp only [Numeral.signed, Decimal.Plain.behind]
      split_ifs with hempty
      · exact (List.isEmpty_iff.mp hempty).symm
      · rfl
    refine ⟨hn.whole_digits, hbehind ▸ hn.fraction_digits, ?_⟩
    simp [Numeral.signed, hn.whole_ne_nil]
  power := by
    intro p hp
    obtain ⟨k, -, rfl⟩ := Option.map_eq_some_iff.mp hp
    exact ⟨rfl, Text.naturalDigits_ne_nil _, Text.all_isDigit_naturalDigits _⟩

end Json.Numeral

namespace Decimal

/-- The numeral of a whole number. -/
def Numeral.ofInt (n : Int) : Numeral :=
  Json.Numeral.signed (decide (n < 0)) ⟨naturalDigits n.natAbs, [], none⟩

theorem Numeral.wellFormed_ofInt (n : Int) : (ofInt n).WellFormed :=
  (Json.wellFormed_naturalDigits n.natAbs).signed _

theorem Numeral.chars_ofInt (n : Int) : (ofInt n).chars = (Text.integerText n).toList := by
  rw [ofInt, Json.Numeral.chars_signed, Json.integerText_eq]
  simp [Json.Numeral.chars]

/-- A whole number is the decimal that its digits are read as. -/
theorem ofText?_integerText (n : Int) : ofText? (Text.integerText n) = ofInt? n := by
  have hwell := Numeral.wellFormed_ofInt n
  -- Zero is not negative, so that it has no sign says nothing here.
  have hsign : (decide ((Numeral.ofInt n).base.sign = .minus) && n.natAbs != 0) =
      decide (n < 0) := by
    by_cases hn : n < 0
    · simp [Numeral.ofInt, Json.Numeral.signed, hn]
      omega
    · simp [Numeral.ofInt, Json.Numeral.signed, hn]
  have hvalue : readDigits (Numeral.ofInt n).base.whole = n.natAbs :=
    Text.readDigits_naturalDigits _
  have hshift : (Numeral.ofInt n).shift? = some := rfl
  rw [ofText?, ← Numeral.chars_ofInt, hwell.ofChars?_chars, hwell.base.ofPlain?_chars, hshift,
    Option.bind_fun_some, hvalue, ofInt?]
  by_cases hbound : n.natAbs < coefficientBound
  · rw [if_pos hbound]
    change ofUnsignedZero? (decide ((Numeral.ofInt n).base.sign = .minus)) n.natAbs 0 = _
    rw [ofUnsignedZero?, hsign]
  · rw [if_neg hbound, of?, dif_neg fun h => hbound h.1]

end Decimal

namespace Json.Number

/-- The text of a number is that of a numeral. -/
theorem exists_spells (n : Json.Number) : ∃ m : Decimal.Numeral, m.Spells n.text := by
  obtain ⟨negative, numeral, hnumeral, htext⟩ := exists_text_eq n
  refine ⟨numeral.signed negative, hnumeral.signed negative, ?_⟩
  rw [numeral.chars_signed, htext]

/-- A number is the decimal that its text is read as. -/
theorem decimal?_eq (n : Json.Number) : n.decimal? = Decimal.ofText? n.text := by
  cases n with
  | whole n => exact (Decimal.ofText?_integerText n).symm
  | double x => rfl

end Json.Number

namespace Scalar

theorem plainText_number (n : Json.Number) : plainText (.number n) = n.text := by
  rw [plainText, Json.text, Json.chars, String.ofList_toList]
  intro s hs
  cases hs

/-- A truth value is coerced as the word for it. -/
theorem coerce_quoted_bool (b : Bool) (t : ScalarType) :
    (coerce (.bool b) t).toOption = (coerce (.string (plainText (.bool b))) t).toOption := by
  cases b <;> cases t <;> decide +kernel

/-- A number is coerced as its text. -/
theorem coerce_quoted_number (n : Json.Number) (t : ScalarType) :
    (coerce (.number n) t).toOption =
      (coerce (.string (plainText (.number n))) t).toOption := by
  obtain ⟨m, hspells⟩ := n.exists_spells
  rw [plainText_number]
  cases t with
  | string =>
    simp only [coerce, plainText_number]
    rfl
  | boolean =>
    rw [coerce_boolean_of_spells hspells]
    rfl
  | date =>
    rw [coerce_date_of_spells hspells]
    simp only [coerce, coerceDate, n.decimal?_eq]
    cases Decimal.ofText? n.text <;> rfl
  | numeric =>
    rw [coerce_numeric_of_spells hspells]
    simp only [coerce, coerceNumeric, n.decimal?_eq]
    cases Decimal.ofText? n.text <;> rfl

/-- A truth value, a number or a string is coerced to the same value as the string of its text, or
both are rejected. -/
theorem coerce_quoted_agrees {s : Json} (hscalar : s.isScalar = true) (hnull : s ≠ .null)
    (t : ScalarType) :
    (∃ v, coerce s t = .ok v ∧ coerce (.string (plainText s)) t = .ok v) ∨
      ∃ why why', coerce s t = .error (.rejected s.text t why) ∧
        coerce (.string (plainText s)) t =
          .error (.rejected (Json.string (plainText s)).text t why') := by
  have hsame : (coerce s t).toOption = (coerce (.string (plainText s)) t).toOption := by
    cases s with
    | null => exact absurd rfl hnull
    | bool b => exact coerce_quoted_bool b t
    | number n => exact coerce_quoted_number n t
    | string text => rfl
    | array items => cases hscalar
    | object members => cases hscalar
  rcases coerce_eq_ok_or_rejected s t with ⟨v, hv⟩ | ⟨why, hwhy⟩ <;>
    rcases coerce_eq_ok_or_rejected (.string (plainText s)) t with ⟨v', hv'⟩ | ⟨why', hwhy'⟩
  · rw [hv, hv'] at hsame
    cases hsame
    exact .inl ⟨v, hv, hv'⟩
  · rw [hv, hwhy'] at hsame
    cases hsame
  · rw [hwhy, hv'] at hsame
    cases hsame
  · exact .inr ⟨why, why', hwhy, hwhy'⟩

/-- The greatest whole number of JSON is the count that its digits are. -/
theorem coerce_quoted_agrees_greatest :
    let greatest : Json := .number (.whole 18446744073709551615)
    plainText greatest = "18446744073709551615" ∧
      ∃ v, coerce greatest .date = .ok v ∧
        coerce (.string "18446744073709551615") .date = .ok v := by
  intro greatest
  have htext : plainText greatest = "18446744073709551615" := by decide +kernel
  refine ⟨htext, ?_⟩
  rcases coerce_quoted_agrees (s := greatest) rfl nofun .date with h | ⟨why, -, hrejected, -⟩
  · rwa [htext] at h
  · have hread : (coerce greatest .date).toOption ≠ none := by decide +kernel
    rw [hrejected] at hread
    exact absurd rfl hread

end Scalar

end FilterQuery
