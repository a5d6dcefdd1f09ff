import FilterQuery.Files.Path

/-!
# Files

A tree of files and directories below a root. Paths are followed name by name: every name but the
last has to be that of a directory, and so has the last one if a slash follows it.
-/

namespace FilterQuery

/-- Why something cannot be done with a file. -/
inductive FileError where
  /-- There is no such file or directory. -/
  | notFound
  /-- A directory stands where a file is asked for. -/
  | isDirectory
  /-- A file stands where a path needs a directory. -/
  | notDirectory
  /-- The name of a new directory is taken. -/
  | alreadyExists
  /-- A name or a path has too many bytes. -/
  | nameTooLong
  /-- A path holds the character that ends paths. -/
  | endInside
  /-- Anything else, in the words of the system. -/
  | other (reason : String)
  deriving DecidableEq

/-- A reason in words. -/
def FileError.message : FileError → String
  | .notFound => "No such file or directory (os error 2)"
  | .isDirectory => "Is a directory (os error 21)"
  | .notDirectory => "Not a directory (os error 20)"
  | .alreadyExists => "File exists (os error 17)"
  | .nameTooLong => "File name too long (os error 36)"
  | .endInside => "file name contained an unexpected NUL byte"
  | .other reason => reason

/-- Where something stands in a tree: the names on the way from the root. -/
abbrev Place := List String

/-- Files and directories below a root. -/
structure FileTree where
  /-- The name with which paths from the root begin. -/
  root : String
  /-- The files with their contents. -/
  files : List (Place × String)
  /-- The directories; the root is not among them. -/
  directories : List Place

namespace FileTree

/-- Whether a place is a directory. -/
def isDirectory (t : FileTree) (place : Place) : Bool :=
  place.isEmpty || t.directories.contains place

/-- The content of the file in a place. -/
def file? (t : FileTree) (place : Place) : Option String := t.files.lookup place

/-- Whether something stands in a place. -/
def hasPlace (t : FileTree) (place : Place) : Bool := t.isDirectory place || (t.file? place).isSome

/-- A place that has to be a directory. -/
def enter (t : FileTree) (place : Place) : Except FileError Place :=
  if t.isDirectory place then .ok place
  else if (t.file? place).isSome then .error .notDirectory
  else .error .notFound

/-- How many bytes a name may have. -/
def maxNameSize : Nat := 255

/-- How many bytes a path may have. -/
def maxPathSize : Nat := 4095

/-- The place that some names lead to from a place. Nothing is known of what lies above the root. -/
def follow (t : FileTree) (place : Place) : List String → Except FileError Place
  | [] => .ok place
  | name :: rest =>
    match t.enter place with
    | .error e => .error e
    | .ok place =>
      if name = "" || name = "." then t.follow place rest
      else if name = ".." then
        if place.isEmpty then .error .notFound else t.follow place.dropLast rest
      else if maxNameSize < name.utf8ByteSize then .error .nameTooLong
      else t.follow (place ++ [name]) rest

/-- The names of a path behind the root, where the path starts with a slash or with the root. -/
def relative (t : FileTree) (path : String) : List String :=
  let pieces := Path.pieces path
  if pieces.head? = some t.root then pieces.drop 1
  else if pieces.head? = some "" then ".." :: pieces
  else pieces

/-- The place of a path. -/
def locate (t : FileTree) (path : String) : Except FileError Place :=
  if path.toList.contains '\x00' then .error .endInside
  else if path = "" then .error .notFound
  else if maxPathSize < path.utf8ByteSize then .error .nameTooLong
  else t.follow [] (t.relative path)

/-- Whether a path leads to something. -/
def hasPath (t : FileTree) (path : String) : Bool :=
  match t.locate path with
  | .ok place => t.hasPlace place
  | .error _ => false

/-- The content of the file that a path leads to. -/
def read (t : FileTree) (path : String) : Except FileError String :=
  match t.locate path with
  | .error e => .error e
  | .ok place =>
    if t.isDirectory place then .error .isDirectory
    else match t.file? place with
      | some content => .ok content
      | none => .error .notFound

/-- A file put among others: in its place, or at the end. -/
def putFile (place : Place) (content : String) : List (Place × String) → List (Place × String)
  | [] => [(place, content)]
  | (p, c) :: rest =>
    if p = place then (place, content) :: rest else (p, c) :: putFile place content rest

/-- Whether a path ends with a slash. -/
def endsWithSlash (path : String) : Bool := path.toList.getLast? = some '/'

/-- The tree with a content in the file that a path leads to. The directory of the file has to
exist. -/
def write (t : FileTree) (path content : String) : Except FileError FileTree :=
  if endsWithSlash path then
    (t.locate (Path.trimmed path)).bind fun _ => .error .isDirectory
  else match t.locate path with
    | .error e => .error e
    | .ok place =>
      if t.isDirectory place then .error .isDirectory
      else .ok { t with files := putFile place content t.files }

/-- The tree with one more directory. -/
def makeDirectory (t : FileTree) (path : String) : Except FileError FileTree :=
  match t.locate (Path.trimmed path) with
  | .error e => .error e
  | .ok place =>
    if t.hasPlace place then .error .alreadyExists
    else .ok { t with directories := t.directories ++ [place] }

/-- Whether a path leads to a directory. -/
def hasDirectory (t : FileTree) (path : String) : Bool :=
  match t.locate path with
  | .ok place => t.isDirectory place
  | .error _ => false

/-- The directories on the way to a place. -/
def directoriesTo (place : Place) : List Place :=
  (List.range (place.length - 1)).map fun n => place.take (n + 1)

/-- A tree of files, given by their paths from the root, with the directories on the way to them. -/
def ofFiles (root : String) (files : List (String × String)) : FileTree :=
  let placed := files.map fun (path, content) => (Path.names path, content)
  ⟨root, placed, (placed.flatMap (directoriesTo ·.1)).eraseDups⟩

/-- The files of a tree that another one does not have with the same content. -/
def changesFrom (t before : FileTree) : List (Place × String) :=
  t.files.filter fun (place, content) => before.file? place ≠ some content

end FileTree

end FilterQuery
