import FilterQuery.Text.Digits
import FilterQuery.Text.Unprintable

/-!
# Quoted text

Two ways to put a text between delimiters so that its end stays recognizable. `enclose` writes the
closing delimiter twice inside, the rule of SQL identifiers and string literals; `display` is the
form of messages and listings, where a backslash introduces what would not be legible.
-/

namespace FilterQuery.Text

/-- The characters of a text with every occurrence of a delimiter written twice. -/
def double (delimiter : Char) : List Char → List Char
  | [] => []
  | c :: cs =>
    if c = delimiter then delimiter :: delimiter :: double delimiter cs
    else c :: double delimiter cs

/-- Where the delimiter does not occur nothing is doubled. -/
theorem double_of_not_mem {delimiter : Char} {cs : List Char} (h : delimiter ∉ cs) :
    double delimiter cs = cs := by
  induction cs with
  | nil => rfl
  | cons c cs ih =>
    rw [List.mem_cons, not_or] at h
    rw [double, if_neg (Ne.symm h.1), ih h.2]

/-- A text between an opening and a closing delimiter, with the closing one doubled inside. -/
def enclose (opening closing : Char) (s : String) : String :=
  String.ofList (opening :: double closing s.toList ++ [closing])

/-- The digits of a number in base sixteen, in lower case. -/
def hexDigits (n : Nat) : List Char :=
  if n < 16 then [hexDigit n] else hexDigits (n / 16) ++ [hexDigit (n % 16)]
termination_by n
where
  /-- The hexadecimal digit of a value below sixteen. -/
  hexDigit (d : Nat) : Char := if d < 10 then digitChar d else Char.ofNat ('a'.toNat + (d - 10))

/-- How one character is shown between double quotes. -/
def displayChar (c : Char) : List Char :=
  if c = '\x00' then ['\\', '0']
  else if c = '\t' then ['\\', 't']
  else if c = '\n' then ['\\', 'n']
  else if c = '\r' then ['\\', 'r']
  else if c = '\\' || c = '\x22' then ['\\', c]
  else if isUnprintable c then ['\\', 'u', '\x7b'] ++ hexDigits c.toNat ++ ['\x7d']
  else [c]

/-- A text between double quotes, as messages show it. -/
def display (s : String) : String :=
  String.ofList ('\x22' :: s.toList.flatMap displayChar ++ ['\x22'])

end FilterQuery.Text
