import RecordSql.Generate.FileSystem

/-!
# Files in memory

A tree of files is the list of its files. Each stands under the names that lead to it from the root, and
every beginning of these names is a directory.

- `FileTree`: the files with their contents.
- `FileTree.resolve`: where a path leads.
- `FileTree.read`, `FileTree.write`, `FileTree.walk`: what a file system does.
- `FileTree.system`: these operations on a tree that is the state.
-/

namespace RecordSql.Generate

/-- What a file holds: text, or bytes that are none. -/
inductive Content
  | text (cs : List Char)
  | binary (bytes : List UInt8)
  deriving DecidableEq, Repr

/-- What a file of some bytes holds. -/
def Content.ofBytes (bytes : List UInt8) : Content :=
  match String.fromUTF8? ⟨bytes.toArray⟩ with
  | some s => .text s.toList
  | none => .binary bytes

/-- The names that lead to a file or directory. -/
abbrev Place := List String

/-- The place of a path that leads down from the root. -/
def placeOf (path : String) : Place := (pathNames path).filter fun name => name ≠ "" && name ≠ "."

/-- Files by their places. -/
structure FileTree where
  files : List (Place × Content)
  deriving DecidableEq, Repr

/-- The names that lead from one place to another one below it. -/
def placeBelow? : Place → Place → Option Place
  | [], names => some names
  | _ :: _, [] => none
  | p :: ps, n :: ns => if p = n then placeBelow? ps ns else none

/-- Puts a place in front of all that come after it in the order of their names. -/
def insertPlace (p : Place) : List Place → List Place
  | [] => [p]
  | q :: qs => if List.le p q then p :: q :: qs else q :: insertPlace p qs

/-- Places in the order of their names. -/
def sortPlaces (ps : List Place) : List Place := ps.foldr insertPlace []

namespace FileTree

/-- The content of a file. -/
def content? (t : FileTree) (p : Place) : Option Content := t.files.lookup p

/-- Whether a place is a directory: the root is, and what files stand below. -/
def isDirectory (t : FileTree) (p : Place) : Bool :=
  p.isEmpty || t.files.any fun f => (placeBelow? p f.1).any fun rest => !rest.isEmpty

/-- The tree with another content of a file, or one more file. -/
def put (t : FileTree) (p : Place) (c : Content) : FileTree :=
  if (t.content? p).isSome then ⟨t.files.map fun f => if f.1 = p then (p, c) else f⟩
  else ⟨t.files ++ [(p, c)]⟩

/-! ### Paths -/

/-- What stands at a place. -/
inductive Node
  | file (c : Content)
  | directory
  deriving DecidableEq, Repr

/-- What stands at a place, if anything does. -/
def node? (t : FileTree) (p : Place) : Option Node :=
  match t.content? p with
  | some c => some (.file c)
  | none => if t.isDirectory p then some .directory else none

/-- The most bytes of a name. -/
def nameLimit : Nat := 255

/-- The most bytes of a path. -/
def pathLimit : Nat := 4095

/-- One step along a path. Only a directory can be left, and the root has no directory above it. -/
def step (t : FileTree) (p : Place) (name : String) : Except IoFault Place :=
  match t.node? p with
  | none => .error .notFound
  | some (.file _) => .error .notDirectory
  | some .directory =>
    if name = "" ∨ name = "." then .ok p
    else if name = ".." then if p.isEmpty then .error .notFound else .ok p.dropLast
    else if nameLimit < name.utf8ByteSize then .error .nameTooLong
    else .ok (p ++ [name])

/-- Where a path leads and what stands there. Paths from above the root lead nowhere. -/
def resolve (t : FileTree) (path : String) : Except IoFault (Place × Node) :=
  if '\x00' ∈ path.toList then .error .nulInName
  else if path = "" then .error .notFound
  else if pathLimit < path.utf8ByteSize then .error .nameTooLong
  else if path.toList.head? = some '/' then .error .notFound
  else do
    let p ← (pathNames path).foldlM t.step []
    match t.node? p with
    | some node => return (p, node)
    | none => throw .notFound

/-! ### Operations -/

/-- The text of a file. -/
def read (t : FileTree) (path : String) : Except IoFault (List Char) := do
  match ← t.resolve path with
  | (_, .file (.text cs)) => return cs
  | (_, .file (.binary _)) => throw .notText
  | (_, .directory) => throw .isDirectory

/-- The tree with another text in a file. -/
def write (t : FileTree) (path : String) (cs : List Char) : Except IoFault FileTree := do
  match ← t.resolve path with
  | (p, .file _) => return t.put p (.text cs)
  | (_, .directory) => throw .isDirectory

/-- The visible places of files below a directory, in order. -/
def visible (t : FileTree) (p : Place) : List Place :=
  sortPlaces ((t.files.filterMap fun f => placeBelow? p f.1).filter fun rest =>
    rest.all fun name => !isHidden name)

/-- What a walk meets. -/
def walk (t : FileTree) (root : String) : List Visit :=
  match t.resolve root with
  | .error fault => [.unreadable root fault]
  | .ok (_, .file _) => [.file root]
  | .ok (p, .directory) => (t.visible p).map fun rest => .file (extendPath root rest)

/-- A tree as a file system. -/
def system : FileSystem (StateM FileTree) where
  walk root := do return (← get).walk root
  read path := do return (← get).read path
  write path cs := do
    match (← get).write path cs with
    | .error fault => return .error fault
    | .ok t =>
      set t
      return .ok ()

end FileTree

end RecordSql.Generate
