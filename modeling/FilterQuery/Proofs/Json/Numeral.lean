import FilterQuery.Json.Printer
import FilterQuery.Proofs.Binary64.Shortest
import FilterQuery.Proofs.Json.WellFormed

/-!
# Numbers that are read back

A numeral is the text of a number taken apart: the digits of its whole part, those of its fraction,
and a power of ten. The reader takes every text of a numeral apart in the same way, and each of the
layouts in which numbers are written is the text of a numeral of the same value.
-/

namespace FilterQuery.Json

open Text (isDigit readDigits naturalDigits)

/-- The parts of a number that is written without its sign. -/
structure Numeral where
  /-- The digits before the point. -/
  whole : List Char
  /-- The digits behind the point, if there is one. -/
  fraction : List Char
  /-- The power of ten, if one is written. -/
  power : Option Int

namespace Numeral

/-- The text of a numeral. -/
def chars (n : Numeral) : List Char :=
  n.whole ++ ((if n.fraction.isEmpty then [] else '.' :: n.fraction) ++
    match n.power with
    | some k => Binary64.powerText k
    | none => [])

/-- The number that a numeral denotes. -/
def value (n : Numeral) : ℚ :=
  readDigits (n.whole ++ n.fraction) * 10 ^ (n.power.getD 0 - n.fraction.length)

/-- A numeral of JSON: its whole part starts with a zero only where that is all of it. -/
structure WellFormed (n : Numeral) : Prop where
  /-- There is a whole part. -/
  whole_ne_nil : n.whole ≠ []
  /-- It is made of digits. -/
  whole_digits : n.whole.all isDigit
  /-- It has no leading zero. -/
  whole_head : n.whole.head? = some '0' → n.whole = ['0']
  /-- The fraction is made of digits. -/
  fraction_digits : n.fraction.all isDigit

end Numeral

/-- A text goes on with nothing that could belong to a number before it. -/
def EndsNumber (rest : List Char) : Prop :=
  ∀ c ∈ rest.head?, isDigit c = false ∧ c ≠ '.' ∧ c ≠ 'e' ∧ c ≠ 'E'

/-- A text goes on with no digit. -/
def EndsDigits (rest : List Char) : Prop := ∀ c ∈ rest.head?, isDigit c = false

theorem EndsNumber.endsDigits {rest : List Char} (h : EndsNumber rest) : EndsDigits rest :=
  fun c hc => (h c hc).1

/-- A run of digits is taken as a whole. -/
theorem span_digits {digits rest : List Char} (hdigits : digits.all isDigit)
    (hrest : EndsDigits rest) :
    (digits ++ rest).takeWhile isDigit = digits ∧ (digits ++ rest).dropWhile isDigit = rest :=
  Text.span_append (fun c hc => List.all_eq_true.mp hdigits c hc) hrest

theorem readWhole_append {n : Numeral} (hn : n.WellFormed) {rest : List Char}
    (hrest : EndsDigits rest) : readWhole (n.whole ++ rest) = some (n.whole, rest) := by
  obtain ⟨htake, hdrop⟩ := span_digits hn.whole_digits hrest
  have hnil := hn.whole_ne_nil
  have hhead := hn.whole_head
  rw [readWhole, htake, hdrop]
  split
  · rename_i heq
    exact absurd heq hnil
  · rename_i heq
    rw [heq]
  · rename_i hne heq
    have hzero := hhead (by rw [heq, List.head?_cons])
    rw [heq] at hzero
    exact absurd (List.cons.inj hzero).2 fun htail => hne (by rw [htail])
  · rfl

/-- The fraction of a numeral is read up to what follows it. -/
theorem readFraction_append {fraction rest : List Char} (hdigits : fraction.all isDigit)
    (hrest : EndsDigits rest) (hpoint : rest.head? ≠ some '.') :
    readFraction ((if fraction.isEmpty then [] else '.' :: fraction) ++ rest) =
      some (fraction, rest) := by
  cases hfraction : fraction.isEmpty with
  | true =>
    rw [List.isEmpty_iff.mp hfraction, if_pos rfl, List.nil_append, readFraction.eq_def]
    split
    · exact absurd rfl hpoint
    · rfl
  | false =>
    obtain ⟨htake, hdrop⟩ := span_digits hdigits hrest
    rw [if_neg (by simp), List.cons_append, readFraction, htake, hdrop]
    split
    · cases hfraction
    · rfl

/-- A written power of ten is read with its sign. -/
theorem readPower_powerText (k : Int) {rest : List Char} (hrest : EndsDigits rest) :
    readPower (Binary64.powerText k ++ rest) = some (some k, rest) := by
  obtain ⟨htake, hdrop⟩ := span_digits (Text.all_isDigit_naturalDigits k.natAbs) hrest
  have hdigits (negative : Bool) : readPowerDigits negative (naturalDigits k.natAbs ++ rest) =
      some (some (if negative then -(k.natAbs : Int) else k.natAbs), rest) := by
    rw [readPowerDigits, htake, hdrop]
    split
    · rename_i heq
      exact absurd heq (Text.naturalDigits_ne_nil _)
    · rw [Text.readDigits_naturalDigits]
  rw [Binary64.powerText, List.cons_append, List.cons_append, readPower, if_pos (by decide)]
  by_cases hk : k < 0
  · rw [if_pos hk]
    change readPowerDigits true (naturalDigits k.natAbs ++ rest) = _
    rw [hdigits, if_pos rfl]
    congr 3
    omega
  · rw [if_neg hk]
    change readPowerDigits false (naturalDigits k.natAbs ++ rest) = _
    rw [hdigits, if_neg (by simp)]
    congr 3
    omega

/-- Where no power of ten is written none is read. -/
theorem readPower_of_ends {rest : List Char} (hrest : EndsNumber rest) :
    readPower rest = some (none, rest) := by
  cases rest with
  | nil => rfl
  | cons c rest =>
    obtain ⟨-, -, he, hE⟩ := hrest c rfl
    rw [readPower, if_neg (by simp [he, hE])]

/-- The reader takes the text of a numeral apart. -/
theorem readMagnitude_append {n : Numeral} (hn : n.WellFormed) (negative : Bool)
    {rest : List Char} (hrest : EndsNumber rest) :
    readMagnitude negative (n.chars ++ rest) =
      (numberOf? negative n.whole n.fraction n.power).map (·, rest) := by
  -- What follows the fraction: the power of ten, if there is one, and the rest.
  have hpower : ∃ tail, (match n.power with
      | some k => Binary64.powerText k
      | none => []) ++ rest = tail ∧ readPower tail = some (n.power, rest) ∧
        EndsDigits tail ∧ tail.head? ≠ some '.' := by
    refine ⟨_, rfl, ?_⟩
    cases n.power with
    | none =>
      refine ⟨readPower_of_ends hrest, hrest.endsDigits, ?_⟩
      intro hpoint
      exact (hrest '.' hpoint).2.1 rfl
    | some k =>
      refine ⟨readPower_powerText k hrest.endsDigits, ?_, ?_⟩
      · rintro c ⟨⟩
        rfl
      · intro hpoint
        exact absurd (Option.some.inj hpoint) (by decide)
  obtain ⟨tail, heq, hread, hdigits, hpoint⟩ := hpower
  have hfraction := readFraction_append hn.fraction_digits hdigits hpoint
  have hends : EndsDigits ((if n.fraction.isEmpty then [] else '.' :: n.fraction) ++ tail) := by
    split
    · exact hdigits
    · rintro c ⟨⟩
      rfl
  rw [Numeral.chars, List.append_assoc, List.append_assoc, heq, readMagnitude,
    readWhole_append hn hends]
  simp only [Option.bind_eq_bind, Option.bind_some, hfraction, hread]
  cases numberOf? negative n.whole n.fraction n.power <;> rfl

/-! ### Layouts -/

/-- A decimal is written as a numeral of its value that does not look like a whole number. -/
structure Numeral.Spells (n : Numeral) (d : Binary64.Decimal) : Prop where
  /-- The decimal is written so. -/
  text_eq : d.text = n.chars
  /-- The numeral is one of JSON. -/
  wellFormed : n.WellFormed
  /-- It has the value of the decimal. -/
  value_eq : n.value = d.value
  /-- It has a fraction or a power of ten. -/
  not_whole : (n.fraction.isEmpty && n.power.isNone) = false

/-- A whole part that starts like a positive number has no leading zero. -/
theorem wellFormed_of_head? {n : Numeral} {k : Nat} (hk : 0 < k)
    (hhead : n.whole.head? = (naturalDigits k).head?) (hwhole : n.whole.all isDigit)
    (hfraction : n.fraction.all isDigit) : n.WellFormed := by
  refine ⟨?_, hwhole, fun hzero => ?_, hfraction⟩
  · intro hnil
    rw [hnil, List.head?_nil, eq_comm, List.head?_eq_none_iff] at hhead
    exact Text.naturalDigits_ne_nil k hhead
  · rw [hhead] at hzero
    exact absurd hzero (Text.head?_naturalDigits_ne hk)

/-- A whole number with zeros at its end and behind the point. -/
theorem spells_zeros {d : Binary64.Decimal} (hd : 0 < d.digits) (hexp : 0 ≤ d.exponent)
    (hpoint : (naturalDigits d.digits).length + d.exponent ≤ Binary64.plainRange.widest) :
    Numeral.Spells
      ⟨naturalDigits d.digits ++ List.replicate d.exponent.toNat '0', ['0'], none⟩ d := by
  have hdigits := Text.all_isDigit_naturalDigits d.digits
  refine ⟨?_, wellFormed_of_head? hd ?_ ?_ rfl, ?_, rfl⟩
  · rw [Binary64.Decimal.text, Numeral.chars]
    simp [hexp, hpoint]
  · rw [List.head?_append]
    cases hcases : naturalDigits d.digits with
    | nil => exact absurd hcases (Text.naturalDigits_ne_nil _)
    | cons c cs => rfl
  · rw [List.all_append, hdigits, Bool.true_and, List.all_replicate]
    simp [isDigit]
  · have hpow := Binary64.zpow_mul_toNat (b := 10) (by norm_num) d.exponent
    have hzero : (-d.exponent).toNat = 0 := by omega
    rw [hzero, pow_zero, mul_one] at hpow
    rw [Numeral.value, Binary64.Decimal.value, Text.readDigits_append_singleton,
      Text.readDigits_append_replicate, Text.readDigits_naturalDigits, hpow]
    have hdigit : Text.digitValue '0' = 0 := by decide
    rw [hdigit]
    push_cast
    norm_num
    ring

/-- Digits on both sides of the point. -/
theorem spells_point {d : Binary64.Decimal} (hd : 0 < d.digits) (hexp : d.exponent < 0)
    {point : Int} (hpoint : point = (naturalDigits d.digits).length + d.exponent)
    (hpos : 0 < point) (hwide : point ≤ Binary64.plainRange.widest) :
    Numeral.Spells ⟨(naturalDigits d.digits).take point.toNat,
      (naturalDigits d.digits).drop point.toNat, none⟩ d := by
  have hdigits := List.all_eq_true.mp (Text.all_isDigit_naturalDigits d.digits)
  have hbehind : ((naturalDigits d.digits).drop point.toNat).isEmpty = false := by
    rw [List.isEmpty_eq_false_iff, ne_eq, List.drop_eq_nil_iff]
    omega
  refine ⟨?_, wellFormed_of_head? hd ?_ ?_ ?_, ?_, ?_⟩
  · rw [Binary64.Decimal.text, Numeral.chars]
    simp only [← hpoint]
    rw [if_neg (by omega), if_pos ⟨hpos, hwide⟩, hbehind]
    simp
  · rw [List.head?_take, if_neg (by omega)]
  · exact List.all_eq_true.mpr fun c hc => hdigits c (List.mem_of_mem_take hc)
  · exact List.all_eq_true.mpr fun c hc => hdigits c (List.mem_of_mem_drop hc)
  · rw [Numeral.value, Binary64.Decimal.value, List.take_append_drop, Text.readDigits_naturalDigits,
      List.length_drop, Option.getD_none]
    congr 2
    omega
  · rw [hbehind]
    rfl

/-- Digits behind the point only. -/
theorem spells_fraction {d : Binary64.Decimal}
    {point : Int} (hpoint : point = (naturalDigits d.digits).length + d.exponent)
    (hneg : point ≤ 0) (hnear : -Binary64.plainRange.zeros < point) :
    Numeral.Spells
      ⟨['0'], List.replicate (-point).toNat '0' ++ naturalDigits d.digits, none⟩ d := by
  have hdigits := Text.all_isDigit_naturalDigits d.digits
  have hlen := List.length_pos_iff.mpr (Text.naturalDigits_ne_nil d.digits)
  have hne : (List.replicate (-point).toNat '0' ++ naturalDigits d.digits).isEmpty = false := by
    rw [List.isEmpty_eq_false_iff]
    exact List.append_ne_nil_of_right_ne_nil _ (Text.naturalDigits_ne_nil _)
  refine ⟨?_, ⟨by simp, rfl, fun _ => rfl, ?_⟩, ?_, ?_⟩
  · rw [Binary64.Decimal.text, Numeral.chars]
    simp only [← hpoint]
    rw [if_neg (by omega), if_neg (by omega), if_pos ⟨hnear, hneg⟩, hne]
    simp
  · rw [List.all_append, hdigits, Bool.and_true, List.all_replicate]
    simp [isDigit]
  · rw [Numeral.value, Binary64.Decimal.value, ← List.append_assoc]
    change ((readDigits ((List.replicate 1 '0' ++ _) ++ _) : ℕ) : ℚ) * _ = _
    rw [List.append_assoc, Text.readDigits_replicate_append, Text.readDigits_replicate_append,
      Text.readDigits_naturalDigits, List.length_append, List.length_replicate, Option.getD_none]
    congr 2
    omega
  · rw [hne]
    rfl

/-- One digit before the point and a power of ten. -/
theorem spells_power {d : Binary64.Decimal} (hd : 0 < d.digits)
    {point : Int} (hpoint : point = (naturalDigits d.digits).length + d.exponent)
    (hwide : ¬(0 ≤ d.exponent ∧ point ≤ Binary64.plainRange.widest))
    (hplain : ¬(0 < point ∧ point ≤ Binary64.plainRange.widest))
    (hnear : ¬(-Binary64.plainRange.zeros < point ∧ point ≤ 0)) :
    Numeral.Spells ⟨(naturalDigits d.digits).take 1, (naturalDigits d.digits).drop 1,
      some (point - 1)⟩ d := by
  have hdigits := List.all_eq_true.mp (Text.all_isDigit_naturalDigits d.digits)
  have hlen := List.length_pos_iff.mpr (Text.naturalDigits_ne_nil d.digits)
  refine ⟨?_, wellFormed_of_head? hd ?_ ?_ ?_, ?_, ?_⟩
  · rw [Binary64.Decimal.text, Numeral.chars]
    simp only [← hpoint]
    rw [if_neg hwide, if_neg hplain, if_neg hnear, List.append_assoc]
    have hone : (naturalDigits d.digits).length = 1 ↔
        ((naturalDigits d.digits).drop 1).isEmpty = true := by
      rw [List.isEmpty_iff, List.drop_eq_nil_iff]
      omega
    simp only [hone]
  · rw [List.head?_take, if_neg (by omega)]
  · exact List.all_eq_true.mpr fun c hc => hdigits c (List.mem_of_mem_take hc)
  · exact List.all_eq_true.mpr fun c hc => hdigits c (List.mem_of_mem_drop hc)
  · rw [Numeral.value, Binary64.Decimal.value, List.take_append_drop, Text.readDigits_naturalDigits,
      List.length_drop, Option.getD_some]
    congr 2
    omega
  · rw [Option.isNone_some, Bool.and_false]

/-- Whatever its layout, a decimal other than zero is written as a numeral of its value. -/
theorem exists_spells {d : Binary64.Decimal} (hd : 0 < d.digits) :
    ∃ n : Numeral, n.Spells d := by
  by_cases hwide : 0 ≤ d.exponent ∧
      (naturalDigits d.digits).length + d.exponent ≤ Binary64.plainRange.widest
  · exact ⟨_, spells_zeros hd hwide.1 hwide.2⟩
  by_cases hplain : 0 < (naturalDigits d.digits).length + d.exponent ∧
      (naturalDigits d.digits).length + d.exponent ≤ Binary64.plainRange.widest
  · have hexp : d.exponent < 0 := by
      by_contra hge
      exact hwide ⟨by omega, hplain.2⟩
    exact ⟨_, spells_point hd hexp rfl hplain.1 hplain.2⟩
  by_cases hnear : -Binary64.plainRange.zeros < (naturalDigits d.digits).length + d.exponent ∧
      (naturalDigits d.digits).length + d.exponent ≤ 0
  · exact ⟨_, spells_fraction rfl hnear.2 hnear.1⟩
  · exact ⟨_, spells_power hd rfl hwide hplain hnear⟩

theorem spells_zero : Numeral.Spells ⟨['0'], ['0'], none⟩ ⟨0, 0⟩ := by
  refine ⟨?_, ⟨by simp, rfl, fun _ => rfl, rfl⟩, ?_, rfl⟩
  · have hdigits : naturalDigits 0 = ['0'] := by
      rw [naturalDigits]
      rfl
    rw [Binary64.Decimal.text, hdigits]
    rfl
  · have hdigits : readDigits ['0', '0'] = 0 := by decide
    rw [Numeral.value, Binary64.Decimal.value, List.singleton_append, hdigits]
    simp

/-! ### Reading back -/

/-- The text of a numeral starts with a digit. -/
theorem Numeral.WellFormed.exists_chars_eq_cons {n : Numeral} (hn : n.WellFormed) :
    ∃ c cs, n.chars = c :: cs ∧ isDigit c = true := by
  have hdigits := hn.whole_digits
  rw [Numeral.chars]
  cases hwhole : n.whole with
  | nil => exact absurd hwhole hn.whole_ne_nil
  | cons c cs =>
    rw [hwhole, List.all_cons, Bool.and_eq_true] at hdigits
    exact ⟨c, _, rfl, hdigits.1⟩

/-- A character that can start a number. -/
def StartsNumber (c : Char) : Prop := c = '-' ∨ isDigit c = true

instance (c : Char) : Decidable (StartsNumber c) := inferInstanceAs (Decidable (_ ∨ _))

/-- With a sign in front of it or not, the text of a numeral starts like a number. -/
theorem Numeral.WellFormed.exists_signed_eq_cons {n : Numeral} (hn : n.WellFormed)
    (negative : Bool) :
    ∃ c cs, (if negative then ['-'] else []) ++ n.chars = c :: cs ∧ StartsNumber c := by
  cases negative with
  | true => exact ⟨'-', n.chars, rfl, .inl rfl⟩
  | false =>
    obtain ⟨c, cs, hchars, hc⟩ := hn.exists_chars_eq_cons
    exact ⟨c, cs, hchars, .inr hc⟩

/-- The sign and the text of a numeral are read as its number with the sign. -/
theorem readNumber_append {n : Numeral} (hn : n.WellFormed) (negative : Bool)
    {rest : List Char} (hrest : EndsNumber rest) :
    readNumber ((if negative then ['-'] else []) ++ n.chars ++ rest) =
      (numberOf? negative n.whole n.fraction n.power).map (·, rest) := by
  have hsign : readMinus ((if negative then ['-'] else []) ++ n.chars ++ rest) =
      (negative, n.chars ++ rest) := by
    cases negative with
    | true => rfl
    | false =>
      obtain ⟨c, cs, hchars, hc⟩ := hn.exists_chars_eq_cons
      have hminus : c ≠ '-' := by
        rintro rfl
        cases hc
      rw [if_neg (by simp), List.nil_append, hchars, List.cons_append, readMinus.eq_def]
      split
      · rename_i heq
        exact absurd (List.cons.inj heq).1 hminus
      · rfl
  rw [readNumber, hsign]
  exact readMagnitude_append hn negative hrest

/-- The numeral of a binary number denotes the number. -/
theorem numberOf?_spells {x : Binary64} {n : Numeral} (hn : n.Spells x.shortest) :
    numberOf? x.negative n.whole n.fraction n.power = some (.double x) := by
  rw [numberOf?, hn.not_whole, if_neg (by simp), Option.map_eq_some_iff]
  exact ⟨x, Binary64.ofDecimal?_eq_of_value hn.value_eq, rfl⟩

/-- The shortest decimal of a binary number is written as a numeral. -/
theorem exists_spells_shortest (x : Binary64) : ∃ n : Numeral, n.Spells x.shortest := by
  by_cases hx : x.significand = 0
  · rw [Binary64.shortest, if_pos hx]
    exact ⟨_, spells_zero⟩
  · refine exists_spells (Nat.pos_of_ne_zero fun hzero => ?_)
    have hcovers := Binary64.covers_shortest (Nat.pos_of_ne_zero hx)
    have hbound := (hcovers.bounds (Nat.pos_of_ne_zero hx)).1
    rw [Binary64.Decimal.value, hzero, Nat.cast_zero, zero_mul] at hbound
    exact absurd hbound (not_le.mpr (by positivity))

/-- The digits of a whole number as a numeral. -/
theorem wellFormed_naturalDigits (k : Nat) : Numeral.WellFormed ⟨naturalDigits k, [], none⟩ := by
  by_cases hk : k = 0
  · subst hk
    exact ⟨Text.naturalDigits_ne_nil 0, Text.all_isDigit_naturalDigits 0,
      fun _ => by decide +kernel, rfl⟩
  · exact wellFormed_of_head? (Nat.pos_of_ne_zero hk) rfl (Text.all_isDigit_naturalDigits k) rfl

theorem numberOf?_naturalDigits {n : Int} (hn : IsWhole n) :
    numberOf? (decide (n < 0)) (naturalDigits n.natAbs) [] none = some (.whole n) := by
  have hvalue : (if decide (n < 0) = true then -(n.natAbs : Int) else n.natAbs) = n := by
    by_cases hneg : n < 0
    · rw [if_pos (decide_eq_true hneg)]
      omega
    · rw [if_neg (by simpa using hneg)]
      omega
  have hwhole : wholeNumber? (decide (n < 0)) n.natAbs = some (.whole n) := by
    simp only [wholeNumber?, hvalue]
    rw [if_pos]
    refine ⟨hn, ?_⟩
    rw [decide_eq_true_eq]
    omega
  simp only [numberOf?, List.isEmpty_nil, Option.isNone_none, Bool.and_self, if_true,
    List.append_nil, Text.readDigits_naturalDigits, hwhole]
  rfl

theorem integerText_eq (n : Int) : (Text.integerText n).toList =
    (if decide (n < 0) = true then ['-'] else []) ++ naturalDigits n.natAbs := by
  cases n with
  | ofNat n => simp [Text.integerText, Text.naturalText]
  | negSucc n => simp [Text.integerText, Text.naturalText, Int.negSucc_lt_zero]

/-- A number is written as a numeral with a minus sign in front of it where it is negative. -/
theorem exists_text_eq (n : Number) :
    ∃ (negative : Bool) (numeral : Numeral), numeral.WellFormed ∧
      n.text.toList = (if negative then ['-'] else []) ++ numeral.chars := by
  cases n with
  | whole n =>
    refine ⟨decide (n < 0), _, wellFormed_naturalDigits n.natAbs, ?_⟩
    rw [Number.text, integerText_eq]
    simp [Numeral.chars]
  | double x =>
    obtain ⟨numeral, hspells⟩ := exists_spells_shortest x
    refine ⟨x.negative, numeral, hspells.wellFormed, ?_⟩
    rw [Number.text, Binary64.text, String.toList_ofList, hspells.text_eq]

/-- The text of a number starts with a sign or a digit. -/
theorem exists_text_eq_cons (n : Number) :
    ∃ c cs, n.text.toList = c :: cs ∧ StartsNumber c := by
  obtain ⟨negative, numeral, hnumeral, htext⟩ := exists_text_eq n
  rw [htext]
  exact hnumeral.exists_signed_eq_cons negative

/-- A number is read back from its text. -/
theorem readNumber_text {n : Number} (hn : (Json.number n).WellFormed) {rest : List Char}
    (hrest : EndsNumber rest) : readNumber (n.text.toList ++ rest) = some (n, rest) := by
  cases n with
  | whole n =>
    have h := readNumber_append (wellFormed_naturalDigits n.natAbs) (decide (n < 0)) hrest
    rw [numberOf?_naturalDigits hn] at h
    rw [Number.text, integerText_eq]
    simpa [Numeral.chars] using h
  | double x =>
    obtain ⟨numeral, hspells⟩ := exists_spells_shortest x
    have h := readNumber_append hspells.wellFormed x.negative hrest
    rw [numberOf?_spells hspells, ← hspells.text_eq] at h
    rw [Number.text, Binary64.text, String.toList_ofList]
    exact h

end FilterQuery.Json
