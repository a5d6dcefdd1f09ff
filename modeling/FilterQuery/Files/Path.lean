/-!
# Paths

A path is a text whose names are separated by slashes. Slashes at the end, doubled ones and single
dots behind a slash name nothing of their own.
-/

namespace FilterQuery.Path

/-- The names of a path, with empty ones where slashes meet or stand at an end. -/
def pieces (path : String) : List String := (path.toList.splitOn '/').map String.ofList

/-- Whether a path starts at the root of the system. -/
def isRooted (path : String) : Bool := path.toList.head? = some '/'

/-- The names that a path leads through. A dot counts only where the path begins with it. -/
def names (path : String) : List String :=
  match pieces path with
  | "." :: rest => "." :: rest.filter fun name => name ≠ "" && name ≠ "."
  | all => all.filter fun name => name ≠ "" && name ≠ "."

/-- The characters of a path from its end, without the slashes and dots there that name nothing. -/
def trimEnd : List Char → List Char
  | ['/'] => ['/']
  | '/' :: cs => trimEnd cs
  | ['.', '/'] => ['/']
  | '.' :: '/' :: cs => trimEnd cs
  | cs => cs

/-- A path without the slashes and dots at its end that name nothing. -/
def trimmed (path : String) : String := String.ofList (trimEnd path.toList.reverse).reverse

/-- The path of the directory that the last name of a path stands in: empty where the path has one
name, and missing where it has none. -/
def parent? (path : String) : Option String :=
  match trimEnd path.toList.reverse with
  | [] | ['/'] => none
  | cs => some (String.ofList (trimEnd (cs.dropWhile (· ≠ '/'))).reverse)

end FilterQuery.Path
