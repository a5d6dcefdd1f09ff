/-!
# Lines of TOML

What stands between the tokens of a document: gaps of blanks and tabs, line breaks and comments. A
control character other than the tab stands nowhere in a document, and a carriage return only in
front of a line feed.
-/

namespace FilterQuery.Toml

/-- The characters between tokens of a line. -/
def isGap (c : Char) : Bool := c = ' ' || c = '\t'

/-- A control character that no line may hold. -/
def isControl (c : Char) : Bool := (c.toNat < 0x20 && c ≠ '\t') || c = '\x7f'

/-- The text behind the gap at its start. -/
def skipGap (cs : List Char) : List Char := cs.dropWhile isGap

/-- The text behind a line break at its start. -/
def readBreak : List Char → Option (List Char)
  | '\n' :: cs => some cs
  | '\r' :: '\n' :: cs => some cs
  | _ => none

/-- The text behind one break at its start, if there is one. -/
def skipBreak (cs : List Char) : List Char := (readBreak cs).getD cs

/-- The text behind all gaps and breaks at its start. -/
def skipBlank : List Char → List Char
  | [] => []
  | '\r' :: '\n' :: cs => skipBlank cs
  | c :: cs => if isGap c || c = '\n' then skipBlank cs else c :: cs

/-- The text behind a comment at its start, up to the end of the line. -/
def skipComment (cs : List Char) : List Char :=
  match cs with
  | '#' :: cs => cs.dropWhile (!isControl ·)
  | cs => cs

/-- The text behind the end of a line: a gap, a comment, and a break or the end of the text. -/
def readLineEnd (cs : List Char) : Option (List Char) :=
  match skipComment (skipGap cs) with
  | [] => some []
  | cs => readBreak cs

/-- The text behind empty lines and lines of comments, with at most so many of them, and the gap
that follows. -/
def skipLines : Nat → List Char → List Char
  | 0, cs => cs
  | fuel + 1, cs =>
    match readLineEnd cs with
    | some [] => []
    | some rest => skipLines fuel rest
    | none => skipGap cs

/-- The text behind all lines at its start that hold nothing but comments. -/
def skipEmptyLines (cs : List Char) : List Char := skipLines (cs.length + 1) cs

end FilterQuery.Toml
