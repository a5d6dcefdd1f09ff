import FilterQuery.Toml.Quoted
import FilterQuery.Toml.Word

/-!
# Reading TOML

`parse?` reads the documents of TOML 1.1 and refuses every other text, among them those that define
something twice. Arrays and tables between braces may go over several lines and end with a comma;
they may stand inside each other up to `maxNesting` deep, and a key has at most `maxParts` parts.
-/

namespace FilterQuery.Toml

/-- How many arrays and tables between braces may stand inside each other. -/
def maxNesting : Nat := 80

/-- How many parts a key with dots may have. -/
def maxParts : Nat := 80

/-! ## Keys -/

/-- A key without dots. -/
def readSimpleKey (cs : List Char) : Option (String × List Char) :=
  match cs with
  | '\x22' :: rest => readBasic (rest.length + 1) [] rest
  | '\x27' :: rest => readLiteral rest
  | cs =>
    let key := cs.takeWhile isKeyChar
    if key.isEmpty then none else some (String.ofList key, cs.dropWhile isKeyChar)

/-- A key of at most so many parts and what follows its gap; each dot adds a part. -/
def readParts : Nat → List Char → Option (List String × List Char)
  | 0, _ => none
  | parts + 1, cs =>
    (readSimpleKey (skipGap cs)).bind fun (key, rest) =>
      match skipGap rest with
      | '.' :: rest => (readParts parts rest).map fun (keys, rest) => (key :: keys, rest)
      | rest => some ([key], rest)

/-- A key and what follows its gap. -/
def readKey (cs : List Char) : Option (List String × List Char) := readParts maxParts cs

/-! ## Values -/

mutual

/-- A value at the start of a text, with room for so many levels inside it. -/
def readValue (fuel room : Nat) (cs : List Char) : Option (Toml × List Char) :=
  match fuel with
  | 0 => none
  | fuel + 1 =>
    match cs, room with
    | '\x22' :: _, _ | '\x27' :: _, _ => (readString cs).map fun (s, rest) => (.string s, rest)
    | '[' :: _, 0 | '\x7b' :: _, 0 => none
    | '[' :: rest, room + 1 =>
      (readItems fuel room rest).map fun (items, rest) => (.array items, rest)
    | '\x7b' :: rest, room + 1 =>
      (readEntries fuel room [] rest).map fun (entries, rest) => (.table .braces entries, rest)
    | cs, _ =>
      let (word, rest) := readWord cs
      (ofWord? word).map (·, rest)

/-- The items of an array up to its closing bracket. -/
def readItems (fuel room : Nat) (cs : List Char) : Option (List Toml × List Char) :=
  match fuel with
  | 0 => none
  | fuel + 1 =>
    match skipEmptyLines cs with
    | ']' :: rest => some ([], rest)
    | cs =>
      match readValue fuel room cs with
      | none => none
      | some (item, rest) =>
        match skipEmptyLines rest with
        | ']' :: rest => some ([item], rest)
        | ',' :: rest => (readItems fuel room rest).map fun (items, rest) => (item :: items, rest)
        | _ => none

/-- The entries of a table up to its closing brace, added to those before them. -/
def readEntries (fuel room : Nat) (entries : Entries) (cs : List Char) :
    Option (Entries × List Char) :=
  match fuel with
  | 0 => none
  | fuel + 1 =>
    match skipEmptyLines cs with
    | '\x7d' :: rest => some (entries, rest)
    | cs =>
      match (readKey cs).map fun (path, rest) => (path, skipEmptyLines rest) with
      | some (path, '=' :: rest) =>
        match readValue fuel room (skipEmptyLines rest) with
        | none => none
        | some (value, rest) =>
          match assign? value path entries with
          | none => none
          | some entries =>
            match skipEmptyLines rest with
            | '\x7d' :: rest => some (entries, rest)
            | ',' :: rest => readEntries fuel room entries rest
            | _ => none
      | _ => none

end

/-! ## Documents -/

/-- A statement at the start of a text, up to the end of its line. -/
def readStatement (cs : List Char) : Option (Statement × List Char) :=
  match cs with
  | '[' :: '[' :: rest =>
    match readKey rest with
    | some (path, ']' :: ']' :: rest) => (readLineEnd rest).map (.item path, ·)
    | _ => none
  | '[' :: rest =>
    match readKey rest with
    | some (path, ']' :: rest) => (readLineEnd rest).map (.header path, ·)
    | _ => none
  | cs =>
    match readKey cs with
    | some (path, '=' :: rest) =>
      (readValue (2 * rest.length + 2) maxNesting (skipGap rest)).bind fun (value, rest) =>
        (readLineEnd rest).map (.entry path value, ·)
    | _ => none

/-- The statements of a text, with at most so many of them. -/
def readStatements : Nat → List Char → Option (List Statement)
  | 0, _ => none
  | fuel + 1, cs =>
    match skipEmptyLines cs with
    | [] => some []
    | cs => (readStatement cs).bind fun (s, rest) => (readStatements fuel rest).map (s :: ·)

/-- The entries of a document. A mark of the byte order at its start is no part of it. -/
def parse? (s : String) : Option Entries :=
  let cs := match s.toList with
    | '\ufeff' :: cs => cs
    | cs => cs
  (readStatements (cs.length + 1) cs).bind (run? [] [])

end FilterQuery.Toml
