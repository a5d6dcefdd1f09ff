import FilterQuery.Proofs.Decimal.Rounding

/-!
# Numbers as they are written

A numeral is the text of a number taken apart: a sign, the digits around a point, and a power of
ten. The texts that are read as decimals are texts of numerals, and each of them is read part by
part.
-/

namespace FilterQuery.Decimal

open Text (isDigit readDigits)

/-- A sign as it is written. -/
inductive Sign where
  /-- There is none. -/
  | absent
  /-- A plus sign. -/
  | plus
  /-- A minus sign. -/
  | minus
  deriving DecidableEq

namespace Sign

/-- The text of a sign. -/
def chars : Sign → List Char
  | .absent => []
  | .plus => ['+']
  | .minus => ['-']

theorem eq_of_mem_chars {s : Sign} {c : Char} (h : c ∈ s.chars) : c = '+' ∨ c = '-' := by
  cases s <;> simp_all [chars]

/-- What a sign multiplies a number by. -/
def factor (s : Sign) : ℚ := if s = .minus then -1 else 1

theorem factor_ne_zero (s : Sign) : s.factor ≠ 0 := by
  cases s <;> decide

theorem abs_factor (s : Sign) : |s.factor| = 1 := by
  cases s <;> decide

end Sign

/-- The parts of a number without a power of ten. -/
structure Plain where
  /-- The sign. -/
  sign : Sign
  /-- The digits before the point. -/
  whole : List Char
  /-- The digits behind the point, if there is one. -/
  fraction : Option (List Char)

namespace Plain

variable (p : Plain)

/-- The digits behind the point. -/
def behind : List Char := p.fraction.getD []

/-- The digits with their point. -/
def body : List Char :=
  p.whole ++ match p.fraction with
    | none => []
    | some ds => '.' :: ds

/-- The text of a plain number. -/
def chars : List Char := p.sign.chars ++ p.body

/-- The number without its sign. -/
def magnitude : ℚ := readDigits (p.whole ++ p.behind) / 10 ^ p.behind.length

/-- The number that is written. -/
def value : ℚ := p.sign.factor * p.magnitude

/-- A plain number has digits before or behind the point. -/
structure WellFormed : Prop where
  /-- The whole part is made of digits. -/
  whole_digits : p.whole.all isDigit
  /-- The fraction is made of digits. -/
  behind_digits : p.behind.all isDigit
  /-- There is a digit. -/
  has_digit : (p.whole.isEmpty && p.behind.isEmpty) = false

end Plain

/-- The parts of a power of ten. -/
structure Power where
  /-- The letter in front of it. -/
  mark : Char
  /-- Whether a minus sign follows the letter. -/
  negative : Bool
  /-- Whether a plus sign stands before the digits. -/
  plus : Bool
  /-- The digits. -/
  digits : List Char

namespace Power

variable (p : Power)

/-- The digits with a plus sign in front of them, if there is one. -/
def count : List Char := if p.plus then '+' :: p.digits else p.digits

/-- The text of a power of ten. -/
def chars : List Char := p.mark :: if p.negative then '-' :: p.count else p.count

/-- The exponent that is written. -/
def exponent : ℤ := if p.negative then -readDigits p.digits else readDigits p.digits

/-- Moves the point of a number. -/
def shift? (d : Decimal) : Option Decimal :=
  if p.negative then d.shiftRight? (readDigits p.digits) else d.shiftLeft? (readDigits p.digits)

/-- A power of ten is a letter for it and some digits. -/
structure WellFormed : Prop where
  /-- The letter is one for a power of ten. -/
  mark_eq : isPowerMark p.mark = true
  /-- There is a digit. -/
  digits_ne_nil : p.digits ≠ []
  /-- The digits are digits. -/
  all_digits : p.digits.all isDigit

end Power

/-- The parts of a number. -/
structure Numeral where
  /-- The number before the power of ten. -/
  base : Plain
  /-- The power of ten, if there is one. -/
  power : Option Power

namespace Numeral

variable (n : Numeral)

/-- The text of a numeral. -/
def chars : List Char :=
  n.base.chars ++ match n.power with
    | none => []
    | some p => p.chars

/-- The power of ten by which the number before it is multiplied. -/
def exponent : ℤ := (n.power.map Power.exponent).getD 0

/-- The number that is written. -/
def value : ℚ := n.base.value * 10 ^ n.exponent

/-- Moves the point of the number before the power of ten. -/
def shift? (d : Decimal) : Option Decimal :=
  match n.power with
  | none => some d
  | some p => p.shift? d

/-- A numeral is one of well-formed parts. -/
structure WellFormed : Prop where
  /-- The number before the power of ten is well-formed. -/
  base : n.base.WellFormed
  /-- So is the power of ten. -/
  power : ∀ p ∈ n.power, p.WellFormed

end Numeral

/-! ## Reading the parts -/

/-- A sign is read off the text that it stands in front of. -/
theorem readSign_append (s : Sign) {rest : List Char}
    (hrest : ∀ c ∈ rest.head?, c ≠ '-' ∧ c ≠ '+') :
    readSign (s.chars ++ rest) = (decide (s = .minus), rest) := by
  cases s with
  | minus => rfl
  | plus => rfl
  | absent =>
    rw [Sign.chars, List.nil_append, readSign.eq_def]
    split
    · exact absurd rfl (hrest '-' rfl).1
    · exact absurd rfl (hrest '+' rfl).2
    · rfl

theorem ne_signs_of_isDigit {c : Char} (h : isDigit c = true) : c ≠ '-' ∧ c ≠ '+' :=
  ⟨by rintro rfl; exact Bool.noConfusion h, by rintro rfl; exact Bool.noConfusion h⟩

theorem isPowerMark_eq_false_of_isDigit {c : Char} (h : isDigit c = true) :
    isPowerMark c = false := by
  rw [isPowerMark, Bool.or_eq_false_iff, decide_eq_false_iff_not, decide_eq_false_iff_not]
  exact ⟨by rintro rfl; exact Bool.noConfusion h, by rintro rfl; exact Bool.noConfusion h⟩

namespace Plain

variable {p : Plain}

theorem WellFormed.isDigit_or_point (hp : p.WellFormed) :
    ∀ c ∈ p.body, isDigit c = true ∨ c = '.' := by
  have hwhole := List.all_eq_true.mp hp.whole_digits
  have hbehind := List.all_eq_true.mp hp.behind_digits
  intro c hc
  rw [body, List.mem_append] at hc
  rcases hc with hc | hc
  · exact .inl (hwhole c hc)
  · cases hfraction : p.fraction with
    | none => simp [hfraction] at hc
    | some ds =>
      rw [behind, hfraction] at hbehind
      rw [hfraction, List.mem_cons] at hc
      rcases hc with rfl | hc
      · exact .inr rfl
      · exact .inl (hbehind c hc)

/-- Neither a digit nor the point is taken for a sign. -/
theorem WellFormed.ne_signs (hp : p.WellFormed) : ∀ c ∈ p.body, c ≠ '-' ∧ c ≠ '+' := by
  intro c hc
  rcases hp.isDigit_or_point c hc with hdigit | rfl
  · exact ne_signs_of_isDigit hdigit
  · decide

/-- The digits around the point are split at it. -/
theorem WellFormed.splitPoint?_body (hp : p.WellFormed) :
    splitPoint? p.body = some (p.whole, p.behind) := by
  have hwhole : ∀ c ∈ p.whole, isDigit c = true := List.all_eq_true.mp hp.whole_digits
  have hbehind := hp.behind_digits
  cases hfraction : p.fraction with
  | none =>
    have hend : ∀ c ∈ ([] : List Char).head?, isDigit c = false := nofun
    obtain ⟨htake, hdrop⟩ := Text.span_append hwhole hend
    rw [splitPoint?, body, behind, hfraction, htake, hdrop]
    rfl
  | some ds =>
    have hpoint : ∀ c ∈ ('.' :: ds).head?, isDigit c = false := by
      rintro c ⟨⟩
      rfl
    obtain ⟨htake, hdrop⟩ := Text.span_append hwhole hpoint
    rw [behind, hfraction, Option.getD_some] at hbehind
    rw [splitPoint?, body, behind, hfraction, htake, hdrop]
    exact if_pos hbehind

/-- A plain number is read digit by digit. -/
theorem WellFormed.ofPlain?_chars (hp : p.WellFormed) :
    ofPlain? p.chars =
      if readDigits p.whole < coefficientBound then
        (readFraction (readDigits p.whole) 0 p.behind).bind fun (coefficient, scale) =>
          ofUnsignedZero? (decide (p.sign = .minus)) coefficient scale
      else none := by
  rw [ofPlain?, chars, readSign_append p.sign fun c hc => hp.ne_signs c (List.mem_of_mem_head? hc)]
  dsimp only
  rw [hp.splitPoint?_body]
  dsimp only [Option.bind_eq_bind, Option.bind_some]
  rw [hp.has_digit]
  rfl

/-- No letter for a power of ten stands in a plain number. -/
theorem WellFormed.not_isPowerMark (hp : p.WellFormed) :
    ∀ c ∈ p.chars, isPowerMark c = false := by
  intro c hc
  rw [chars, List.mem_append] at hc
  rcases hc with hsign | hbody
  · rcases Sign.eq_of_mem_chars hsign with rfl | rfl <;> decide
  · rcases hp.isDigit_or_point c hbody with hdigit | rfl
    · exact isPowerMark_eq_false_of_isDigit hdigit
    · decide

end Plain

/-! ## What is read -/

theorem exists_readSign (cs : List Char) : ∃ s : Sign, s.chars ++ (readSign cs).2 = cs := by
  rw [readSign.eq_def]
  split
  · exact ⟨.minus, rfl⟩
  · exact ⟨.plus, rfl⟩
  · exact ⟨.absent, rfl⟩

/-- What is split at a point is made of digits and the point. -/
theorem exists_of_splitPoint? {cs whole behind : List Char}
    (h : splitPoint? cs = some (whole, behind)) (s : Sign) :
    ∃ p : Plain, p.sign = s ∧ p.body = cs ∧ p.whole = whole ∧ p.behind = behind ∧
      p.whole.all isDigit ∧ p.behind.all isDigit := by
  have hsplit := List.takeWhile_append_dropWhile (p := isDigit) (l := cs)
  have hwhole : (cs.takeWhile isDigit).all isDigit := List.all_takeWhile
  rw [splitPoint?] at h
  split at h
  · rename_i hrest
    obtain ⟨rfl, rfl⟩ := Prod.mk.inj (Option.some.inj h)
    rw [hrest] at hsplit
    exact ⟨⟨s, cs.takeWhile isDigit, none⟩, rfl, hsplit, rfl, rfl, hwhole, rfl⟩
  · rename_i fraction hrest
    split at h
    · rename_i hfraction
      obtain ⟨rfl, rfl⟩ := Prod.mk.inj (Option.some.inj h)
      rw [hrest] at hsplit
      exact ⟨⟨s, cs.takeWhile isDigit, some fraction⟩, rfl, hsplit, rfl, rfl, hwhole, hfraction⟩
    · cases h
  · cases h

/-- What is read as a plain number is the text of one. -/
theorem exists_plain_of_ofPlain? {cs : List Char} {d : Decimal} (h : ofPlain? cs = some d) :
    ∃ p : Plain, p.WellFormed ∧ p.chars = cs := by
  obtain ⟨s, hs⟩ := exists_readSign cs
  rw [ofPlain?] at h
  generalize readSign cs = signed at hs h
  obtain ⟨negative, rest⟩ := signed
  dsimp only at hs h
  obtain ⟨⟨whole, behind⟩, hsplit, h⟩ := Option.bind_eq_some_iff.mp h
  obtain ⟨p, hsign, hbody, rfl, rfl, hwhole, hbehind⟩ := exists_of_splitPoint? hsplit s
  dsimp only at h
  split at h
  · cases h
  · rename_i hdigit
    refine ⟨p, ⟨hwhole, hbehind, Bool.eq_false_iff.mpr hdigit⟩, ?_⟩
    rw [Plain.chars, hsign, hbody, hs]

/-- A text with a letter for a power of ten is no plain number. -/
theorem ofPlain?_eq_none_of_mem {cs : List Char} {c : Char} (hmem : c ∈ cs)
    (hmark : isPowerMark c = true) : ofPlain? cs = none := by
  cases h : ofPlain? cs with
  | none => rfl
  | some d =>
    obtain ⟨p, hp, rfl⟩ := exists_plain_of_ofPlain? h
    rw [hp.not_isPowerMark c hmem] at hmark
    cases hmark

/-- What is read as the digits of a power of ten are such digits. -/
theorem exists_of_readPower? {cs : List Char} {k : ℕ} (h : readPower? cs = some k) (mark : Char)
    (negative : Bool) :
    ∃ p : Power, p.mark = mark ∧ p.negative = negative ∧ p.count = cs ∧ p.digits ≠ [] ∧
      p.digits.all isDigit := by
  have hdigits {ds : List Char} (hds : Text.natural? ds = some k) :
      ds ≠ [] ∧ ds.all isDigit = true := by
    obtain ⟨hne, hall, -⟩ := Text.natural?_eq_some_iff.mp hds
    exact ⟨hne, hall⟩
  rw [readPower?.eq_def] at h
  split at h
  · exact ⟨⟨mark, negative, true, _⟩, rfl, rfl, rfl, hdigits h⟩
  · exact ⟨⟨mark, negative, false, _⟩, rfl, rfl, rfl, hdigits h⟩

/-- No minus sign stands in front of the digits. -/
theorem Power.WellFormed.head_count {p : Power} (hp : p.WellFormed) :
    ∀ c ∈ p.count.head?, c ≠ '-' := by
  intro c hc
  rw [count] at hc
  split at hc
  · obtain rfl := Option.some.inj hc
    decide
  · have hdigits := List.all_eq_true.mp hp.all_digits
    exact (ne_signs_of_isDigit (hdigits c (List.mem_of_mem_head? hc))).1

/-- The digits of a power of ten are read with a plus sign in front of them or without. -/
theorem Power.WellFormed.readPower?_count {p : Power} (hp : p.WellFormed) :
    readPower? p.count = some (readDigits p.digits) := by
  have hnatural : Text.natural? p.digits = some (readDigits p.digits) :=
    Text.natural?_eq_some_iff.mpr ⟨hp.digits_ne_nil, hp.all_digits, rfl⟩
  rw [count]
  split
  · exact hnatural
  · rw [readPower?.eq_def]
    split
    · rename_i hplus
      have h := List.all_eq_true.mp hp.all_digits '+' (by rw [hplus]; exact List.mem_cons_self ..)
      cases h
    · exact hnatural

/-- The power of ten behind its letter moves the point. -/
theorem Power.WellFormed.shift?_eq {p : Power} (hp : p.WellFormed) (b : Decimal) :
    (match if p.negative then '-' :: p.count else p.count with
      | '-' :: power => do b.shiftRight? (← readPower? power)
      | power => do b.shiftLeft? (← readPower? power)) = p.shift? b := by
  rw [shift?]
  cases p.negative with
  | true =>
    show (readPower? p.count).bind b.shiftRight? = b.shiftRight? (readDigits p.digits)
    rw [hp.readPower?_count, Option.bind_some]
  | false =>
    rw [if_neg Bool.false_ne_true, if_neg Bool.false_ne_true]
    split
    · rename_i hminus
      exact absurd rfl (hp.head_count '-' (by rw [hminus]; rfl))
    · rw [hp.readPower?_count, Option.bind_eq_bind, Option.bind_some]

/-! ## Reading a numeral -/

/-- What is read as a scientific number is the text of a numeral. -/
theorem exists_numeral_of_ofScientific? {cs : List Char} {d : Decimal}
    (h : ofScientific? cs = some d) : ∃ n : Numeral, n.WellFormed ∧ n.chars = cs := by
  have hsplit := List.takeWhile_append_dropWhile (p := (!isPowerMark ·)) (l := cs)
  rw [ofScientific?] at h
  split at h
  · cases h
  · rename_i mark rest hrest
    have hmark : isPowerMark mark = true := by
      have hhead := List.head?_dropWhile_not (fun c => !isPowerMark c) cs
      rw [hrest] at hhead
      simpa using hhead
    obtain ⟨b, hbase, h⟩ := Option.bind_eq_some_iff.mp h
    obtain ⟨base, hbaseWell, hbaseChars⟩ := exists_plain_of_ofPlain? hbase
    -- Whichever sign follows the letter, the rest is read as the digits of a power.
    have hpower : ∃ p : Power, p.WellFormed ∧ p.chars = mark :: rest := by
      split at h
      · obtain ⟨k, hdigits, -⟩ := Option.bind_eq_some_iff.mp h
        obtain ⟨p, rfl, hnegative, hcount, hne, hall⟩ := exists_of_readPower? hdigits mark true
        exact ⟨p, ⟨hmark, hne, hall⟩, by rw [Power.chars, hnegative, hcount]; rfl⟩
      · obtain ⟨k, hdigits, -⟩ := Option.bind_eq_some_iff.mp h
        obtain ⟨p, rfl, hnegative, hcount, hne, hall⟩ := exists_of_readPower? hdigits mark false
        exact ⟨p, ⟨hmark, hne, hall⟩, by rw [Power.chars, hnegative, hcount]; rfl⟩
    obtain ⟨p, hp, hpChars⟩ := hpower
    refine ⟨⟨base, some p⟩, ⟨hbaseWell, by rintro _ ⟨⟩; exact hp⟩, ?_⟩
    rw [Numeral.chars, hbaseChars]
    dsimp only
    rw [hpChars, ← hrest, hsplit]

/-- What is read as a number is the text of a numeral. -/
theorem exists_numeral_of_ofChars? {cs : List Char} {d : Decimal} (h : ofChars? cs = some d) :
    ∃ n : Numeral, n.WellFormed ∧ n.chars = cs := by
  rw [ofChars?] at h
  cases hplain : ofPlain? cs with
  | some b =>
    obtain ⟨p, hp, hchars⟩ := exists_plain_of_ofPlain? hplain
    exact ⟨⟨p, none⟩, ⟨hp, nofun⟩, by rw [Numeral.chars, hchars, List.append_nil]⟩
  | none =>
    rw [hplain] at h
    exact exists_numeral_of_ofScientific? h

/-- The number before the power of ten is read, and then its point is moved. -/
theorem Numeral.WellFormed.ofChars?_chars {n : Numeral} (hn : n.WellFormed) :
    ofChars? n.chars = (ofPlain? n.base.chars).bind n.shift? := by
  obtain ⟨base, power⟩ := n
  have hbase : base.WellFormed := hn.base
  have hmarks : ∀ c ∈ base.chars, (!isPowerMark c) = true := fun c hc => by
    rw [hbase.not_isPowerMark c hc]
    rfl
  cases power with
  | none =>
    have hnone : ofScientific? base.chars = none := by
      have hend : ∀ c ∈ ([] : List Char).head?, (!isPowerMark c) = false := nofun
      have hdrop := (Text.span_append hmarks hend).2
      rw [List.append_nil] at hdrop
      rw [ofScientific?, hdrop]
    have hchars : chars ⟨base, none⟩ = base.chars := List.append_nil _
    rw [hchars, ofChars?, hnone]
    cases ofPlain? base.chars <;> rfl
  | some p =>
    have hp : p.WellFormed := hn.power p rfl
    obtain ⟨rest, hrest⟩ : ∃ rest, p.chars = p.mark :: rest := ⟨_, rfl⟩
    have hchars : chars ⟨base, some p⟩ = base.chars ++ p.chars := rfl
    have hmem : p.mark ∈ base.chars ++ p.chars := by
      rw [hrest]
      exact List.mem_append_right _ (List.mem_cons_self ..)
    have hplain := ofPlain?_eq_none_of_mem hmem hp.mark_eq
    have hmark : ∀ c ∈ p.chars.head?, (!isPowerMark c) = false := by
      rw [hrest]
      rintro c ⟨⟩
      rw [hp.mark_eq]
      rfl
    obtain ⟨htake, hdrop⟩ := Text.span_append hmarks hmark
    rw [hchars, ofChars?, hplain, ofScientific?, htake, hdrop, Power.chars]
    cases ofPlain? base.chars with
    | none => rfl
    | some b => exact hp.shift?_eq b

end FilterQuery.Decimal
