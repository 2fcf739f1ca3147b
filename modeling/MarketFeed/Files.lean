import MarketFeed.Text.Split

namespace MarketFeed

/-!
# Files

The part of a file system that a run can see.

* `Path.resolve` — the directories and the name that a path leads through.
* `Path.below?` — what a path adds to a directory.
* `Files`, `Files.read` — some files by path, and what reading a path gives.
-/

namespace Path

/-- Takes one part of a path: an empty part or a dot stays, two dots go back. -/
def step (parts : List String) (part : String) : List String :=
  if part = "" ∨ part = "." then parts
  else if part = ".." then parts.dropLast
  else parts ++ [part]

/-- The path starts at the root. -/
def isAbsolute (path : String) : Bool := path.toList.head? == some '/'

/-- A path seen from a directory. -/
def join (directory path : String) : String :=
  if isAbsolute path then path
  else if directory = "" then path
  else if directory.toList.getLast? = some '/' then directory ++ path
  else directory ++ "/" ++ path

/-- The parts of a path, seen from a directory, that lead from the root to its end. -/
def resolve (directory path : String) : List String :=
  (Text.splitOn '/' (join directory path)).foldl step []

/-- What a path adds to a directory it lies under. -/
def below? (directory path : String) : Option String :=
  let outer := resolve "/" directory
  let inner := resolve directory path
  if outer.isPrefixOf inner then some (String.intercalate "/" (inner.drop outer.length)) else none

end Path

/-! ### Reading -/

/-- Why a path cannot be read. -/
inductive ReadError
  | notFound
  | denied
  | notDirectory
  | isDirectory
  deriving DecidableEq, Repr

/-- The wording of a read error. -/
def ReadError.message : ReadError → String
  | .notFound => "No such file or directory (os error 2)"
  | .denied => "Permission denied (os error 13)"
  | .notDirectory => "Not a directory (os error 20)"
  | .isDirectory => "Is a directory (os error 21)"

/-- Files by path, and the directory from which relative paths start. -/
structure Files where
  directory : String
  contents : List (String × ByteArray) := []
  /-- The files and directories that may not be opened or passed through. -/
  denied : List String := []

/-- Each file with the parts of its path. -/
def Files.resolved (files : Files) : List (List String × ByteArray) :=
  files.contents.map fun f => (Path.resolve files.directory f.1, f.2)

/-- The parts lead to a directory: the one where relative paths start, or one that holds a file, or
    one on the way there. -/
def Files.isDirectory (files : Files) (parts : List String) : Bool :=
  let known := Path.resolve "/" files.directory :: files.resolved.map fun f => f.1.dropLast
  known.any parts.isPrefixOf

/-- The parts lead to a file or a directory. -/
def Files.holds (files : Files) (parts : List String) : Bool :=
  files.isDirectory parts || (files.resolved.lookup parts).isSome

/-- The parts lead to what may not be opened or passed through. -/
def Files.denies (files : Files) (parts : List String) : Bool :=
  files.denied.any fun path => Path.resolve files.directory path == parts

/-- Follows one part of a path from the place that was reached. -/
def Files.follow (files : Files) (place : List String) (part : String) :
    Except ReadError (List String) :=
  if !files.isDirectory place then .error .notDirectory
  else if files.denies place then .error .denied
  else if files.holds (Path.step place part) then .ok (Path.step place part)
  else .error .notFound

/-- The bytes of the file that the parts lead to. -/
def Files.contentAt (files : Files) (place : List String) : Except ReadError ByteArray :=
  if files.denies place then .error .denied
  else
    match files.resolved.lookup place with
    | some bytes => .ok bytes
    | none => .error .isDirectory

/-- The bytes of the file at a path.  Each part of the path must lead on from a directory, and
    nothing on the way may be denied. -/
def Files.read (files : Files) (path : String) : Except ReadError ByteArray := do
  if path = "" then throw .notFound
  let place ← (Text.splitOn '/' (Path.join files.directory path)).foldlM files.follow []
  files.contentAt place

end MarketFeed
