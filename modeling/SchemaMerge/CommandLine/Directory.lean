import SchemaMerge.CommandLine.Run

/-!
A directory held in memory, as the system of a run. Files have paths relative to the directory, and
a directory below it exists as long as it holds a file. A path is followed part by part, and one
that leads out of the directory leads to nothing.
-/

namespace SchemaMerge.CommandLine

/-- The files, and what has been written besides them. -/
structure Directory where
  files : NameMap String
  printed : String := ""
  warnings : List String := []

namespace Directory

/-- The parts of a path between slashes, without those that stay in place. -/
def parts (path : String) : List String :=
  ((Pointer.splitSlashes path.toList).map String.ofList).filter fun part => part ≠ "" ∧ part ≠ "."

/-- Whether a path can only mean a directory. -/
def endsAsDirectory (path : String) : Bool :=
  Text.endsWith "/" path || Text.endsWith "/." path || Text.endsWith "/.." path

/-- Whether there is a directory with these parts. -/
def hasDirectory (directory : Directory) (parts : List String) : Bool :=
  parts.isEmpty ||
    directory.files.names.any (Text.startsWith (Text.joined "/" parts ++ "/"))

/-- Where one more part of a path leads from a place that has to be a directory. -/
def follow? (directory : Directory) (place : List String) (part : String) : Option (List String) :=
  if !directory.hasDirectory place then none
  else if part = ".." then if place.isEmpty then none else some place.dropLast
  else some (place ++ [part])

/-- The place that a path means. All places on the way to it are directories. -/
def place? (directory : Directory) (path : String) : Option (List String) :=
  if Text.startsWith "/" path then none
  else (parts path).foldlM directory.follow? []

/-- The text of a file. A directory can be opened but holds no text. -/
def read (directory : Directory) (path : String) : Option (Option String) := do
  let place ← directory.place? path
  if directory.hasDirectory place then return none
  if endsAsDirectory path then none
  let text ← directory.files.get? (Text.joined "/" place)
  return some text

/-- Puts a text into a file whose directory exists. -/
def write? (directory : Directory) (path text : String) : Option Directory := do
  let place ← directory.place? path
  if directory.hasDirectory place || endsAsDirectory path then none
  return { directory with files := directory.files.insert (Text.joined "/" place) text }

/-- Runs take place in the directory at a fixed time. -/
def system (time : String) : System (StateM Directory) where
  read path := return (← get).read path
  write path text := do
    match (← get).write? path text with
    | some directory =>
        set directory
        return true
    | none => return false
  print text := modify fun directory => { directory with printed := directory.printed ++ text }
  warn text := modify fun directory => { directory with warnings := directory.warnings ++ [text] }
  time := return time

end Directory

end SchemaMerge.CommandLine
