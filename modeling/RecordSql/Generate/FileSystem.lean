/-!
# Files and directories

What generation needs of the place where source files are kept, in any monad.

- `IoFault`: why something cannot be read or written.
- `Visit`: what is met on the walk through a directory.
- `FileSystem`: walking, reading and writing.
- `isSourcePath`, `isHidden`: which files are generated for.
-/

namespace RecordSql.Generate

/-! ### Faults -/

/-- Why a file or directory cannot be read or written. -/
inductive IoFault
  | notFound
  | denied
  | notDirectory
  | isDirectory
  | nameTooLong
  | nulInName
  | notText
  | other (text : String)
  deriving DecidableEq, Repr

/-- Wording of a fault. -/
def IoFault.message : IoFault → String
  | .notFound => "No such file or directory (os error 2)"
  | .denied => "Permission denied (os error 13)"
  | .notDirectory => "Not a directory (os error 20)"
  | .isDirectory => "Is a directory (os error 21)"
  | .nameTooLong => "File name too long (os error 36)"
  | .nulInName => "file name contained an unexpected NUL byte"
  | .notText => "stream did not contain valid UTF-8"
  | .other text => text

/-! ### Paths -/

/-- The parts of a text between slashes. -/
def splitAtSlashes : List Char → List (List Char)
  | [] => [[]]
  | c :: cs =>
    match c, splitAtSlashes cs with
    | '/', parts => [] :: parts
    | c, part :: parts => (c :: part) :: parts
    | c, [] => [[c]]

/-- The names in a path. -/
def pathNames (path : String) : List String :=
  (splitAtSlashes path.toList).map String.ofList

/-- The last name in a path. -/
def lastName (path : String) : String := (pathNames path).getLast?.getD ""

/-- The path that leads on from a directory along some names. -/
def extendPath (root : String) (names : List String) : String :=
  let rest := "/".intercalate names
  if root.toList.getLast? = some '/' then root ++ rest else root ++ "/" ++ rest

/-- What the name of a source file ends in. -/
def sourceSuffix : List Char := ['.', 'r', 's']

/-- Whether a path names a source file. The suffix alone is no name of one. -/
def isSourcePath (path : String) : Bool :=
  let name := (lastName path).toList
  sourceSuffix.isSuffixOf name && sourceSuffix.length < name.length

/-- Whether a name is left out when a directory is listed. -/
def isHidden (name : String) : Bool := name.toList.head? = some '.'

/-! ### Operations -/

/-- What is met on the walk through a directory. -/
inductive Visit
  | file (path : String)
  | unreadable (path : String) (fault : IoFault)
  deriving DecidableEq, Repr

/-- Whether a visit matters: a source file does, and so does what cannot be read. -/
def Visit.counts : Visit → Bool
  | .file path => isSourcePath path
  | .unreadable _ _ => true

/-- Where source files are kept. A walk meets the files below a directory in the order of their names,
without those that are hidden or in a hidden directory; the walk from a file meets that file alone. -/
structure FileSystem (m : Type → Type) where
  walk : String → m (List Visit)
  read : String → m (Except IoFault (List Char))
  write : String → List Char → m (Except IoFault Unit)

end RecordSql.Generate
