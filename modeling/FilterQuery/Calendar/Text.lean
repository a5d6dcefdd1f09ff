import FilterQuery.Calendar.Date
import FilterQuery.Text.Blank
import FilterQuery.Text.Digits

/-!
# Dates as text

`ofText?` reads exactly the ten characters `YYYY-MM-DD` of an existing day. `text` writes that form
for the years 0 to 9999 and a signed year beyond them. `ofLooseText?` is the reading of dates that
people type: short months and days, signed years, and blanks before each number.
-/

namespace FilterQuery.Date

/-- Texts of the shape `YYYY-MM-DD`, whether or not the day exists. -/
def hasDateShape : List Char → Bool
  | [y₁, y₂, y₃, y₄, '-', m₁, m₂, '-', d₁, d₂] => [y₁, y₂, y₃, y₄, m₁, m₂, d₁, d₂].all Text.isDigit
  | _ => false

/-- The date that some characters of the shape `YYYY-MM-DD` denote. -/
def ofChars? : List Char → Option Date
  | [y₁, y₂, y₃, y₄, '-', m₁, m₂, '-', d₁, d₂] => do
    let year ← Text.natural? [y₁, y₂, y₃, y₄]
    let month ← Text.natural? [m₁, m₂]
    let day ← Text.natural? [d₁, d₂]
    of? year month day
  | _ => none

/-- The date that a text of the shape `YYYY-MM-DD` denotes. -/
def ofText? (s : String) : Option Date := ofChars? s.toList

/-- A year of four digits, or with a sign where four digits do not hold it. -/
def yearChars (year : Int) : List Char :=
  if 0 ≤ year ∧ year ≤ 9999 then Text.paddedDigits 4 year.toNat
  else (if year < 0 then '-' else '+') :: Text.paddedDigits 4 year.natAbs

/-- The characters of a date. -/
def chars (d : Date) : List Char :=
  yearChars d.year ++ '-' :: Text.paddedDigits 2 d.month ++ '-' :: Text.paddedDigits 2 d.day

/-- The text of a date. -/
def text (d : Date) : String := String.ofList d.chars

/-- A date is written in digits, hyphens and plus signs. -/
theorem isDigit_or_sign_of_mem_chars {d : Date} {c : Char} (h : c ∈ d.chars) :
    Text.isDigit c ∨ c = '-' ∨ c = '+' := by
  have hpadded (width n : Nat) (hc : c ∈ Text.paddedDigits width n) : Text.isDigit c :=
    List.all_eq_true.mp (Text.all_isDigit_paddedDigits width n) c hc
  have hyear (year : Int) (hc : c ∈ yearChars year) : Text.isDigit c ∨ c = '-' ∨ c = '+' := by
    rw [yearChars] at hc
    split at hc
    · exact Or.inl (hpadded _ _ hc)
    · rcases List.mem_cons.mp hc with hc | hc
      · right
        split at hc
        · exact Or.inl hc
        · exact Or.inr hc
      · exact Or.inl (hpadded _ _ hc)
  simp only [chars, List.mem_append, List.mem_cons] at h
  rcases h with (h | rfl | h) | rfl | h
  · exact hyear _ h
  · exact Or.inr (Or.inl rfl)
  · exact Or.inl (hpadded _ _ h)
  · exact Or.inr (Or.inl rfl)
  · exact Or.inl (hpadded _ _ h)

/-- A number of at most `width` digits behind blanks. -/
def readNumber? (width : Nat) (cs : List Char) : Option (Nat × List Char) := do
  let cs := cs.dropWhile Text.isBlank
  let digits := (cs.takeWhile Text.isDigit).take width
  return (← Text.natural? digits, cs.drop digits.length)

/-- A year behind blanks: up to four digits, or any number of digits behind a sign. -/
def readYear? (cs : List Char) : Option (Int × List Char) :=
  match cs.dropWhile Text.isBlank with
  | '-' :: cs => (readDigits? cs).map fun (n, rest) => (-(n : Int), rest)
  | '+' :: cs => (readDigits? cs).map fun (n, rest) => (n, rest)
  | cs => (readNumber? 4 cs).map fun (n, rest) => (n, rest)
where
  /-- A number of any length. -/
  readDigits? (cs : List Char) : Option (Nat × List Char) := do
    return (← Text.natural? (cs.takeWhile Text.isDigit), cs.dropWhile Text.isDigit)

/-- A hyphen behind blanks. -/
def readHyphen? (cs : List Char) : Option (List Char) :=
  match cs.dropWhile Text.isBlank with
  | '-' :: cs => some cs
  | _ => none

/-- The date of a year, a month and a day with hyphens between them and blanks around them. -/
def ofLooseText? (s : String) : Option Date := do
  let (year, cs) ← readYear? s.toList
  let (month, cs) ← readNumber? 2 (← readHyphen? cs)
  let (day, cs) ← readNumber? 2 (← readHyphen? cs)
  if Text.trimChars cs = [] then of? year month day else none

end FilterQuery.Date
