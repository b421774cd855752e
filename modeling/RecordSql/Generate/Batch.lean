import RecordSql.Generate.FileSystem
import RecordSql.Generate.Regeneration

/-!
# Many files at once

- `Failure`: why a file is left as it is.
- `regenerateFile`: one file brought up to date, or only looked at.
- `Summary`: what became of each file of a run, in order, and its report.
- `regenerateAll`: all source files below some roots. A file that fails does not end the run, but regions
  that overlap break it off.
-/

namespace RecordSql.Generate

/-- Whether files are written, or only looked at. -/
inductive Mode
  | write
  | check
  deriving DecidableEq, Repr

/-- Why a file is left as it is: nothing can be generated for its text, it cannot be read or written, or a
walk cannot go on there. -/
inductive Failure
  | source (fault : Fault)
  | access (path : String) (fault : IoFault)
  | walk (path : String) (fault : IoFault)
  deriving DecidableEq, Repr

/-- Wording of a failure. -/
def Failure.message : Failure → String
  | .source fault => fault.message
  | .access path fault => "I/O error on '" ++ path ++ "': " ++ fault.message
  | .walk path fault =>
    "I/O error on '" ++ path ++ "': IO error for operation on " ++ path ++ ": " ++ fault.message

/-- What becomes of a file. -/
abbrev Result := Except Failure Outcome

/-- What becomes of each file of a run, in order. -/
structure Summary where
  results : List (String × Result)

namespace Summary

/-- The paths of the results that a test accepts. -/
def pathsWhere (s : Summary) (test : Result → Bool) : List String :=
  (s.results.filter fun r => test r.2).map Prod.fst

/-- The files that change. -/
def updated (s : Summary) : List String :=
  s.pathsWhere fun
    | .ok (.updated _) => true
    | _ => false

/-- The files that are up to date. -/
def unchanged (s : Summary) : List String :=
  s.pathsWhere fun
    | .ok .unchanged => true
    | _ => false

/-- The files without records. -/
def skipped (s : Summary) : List String :=
  s.pathsWhere fun
    | .ok .skipped => true
    | _ => false

/-- The files that fail, each with the reason. -/
def failed (s : Summary) : List (String × Failure) :=
  s.results.filterMap fun
    | (path, .error failure) => some (path, failure)
    | _ => none

/-- Whether any file fails. -/
def anyFailed (s : Summary) : Bool := !s.failed.isEmpty

/-- How many files there are. -/
def size (s : Summary) : Nat := s.results.length

/-- The line of a file that changes. -/
def updatedLine (path : String) : String := "updated   " ++ path ++ "\n"

/-- The line of a file that fails. -/
def failedLine (path : String) (failure : Failure) : String :=
  "failed    " ++ path ++ ": " ++ failure.message ++ "\n"

/-- The last line of a report. -/
def countLine (s : Summary) : String :=
  toString s.updated.length ++ " updated, " ++ toString s.unchanged.length ++ " unchanged, " ++
    toString s.skipped.length ++ " skipped, " ++ toString s.failed.length ++ " failed"

/-- The files that change, those that fail, and how many there are of each kind. -/
def report (s : Summary) : String :=
  "".intercalate (s.updated.map updatedLine) ++
    "".intercalate (s.failed.map fun f => failedLine f.1 f.2) ++ s.countLine

end Summary

section Run

variable {m : Type → Type} [Monad m]

/-- Stores a new text if files are written at all. -/
def store (files : FileSystem m) (mode : Mode) (path : String) (output : List Char) :
    m (Except IoFault Unit) :=
  match mode with
  | .check => return .ok ()
  | .write => files.write path output

/-- Brings a file up to date. Regions that overlap are no failure: nothing results, and files that have
been written stay as they are. -/
def regenerateFile (files : FileSystem m) (mode : Mode) (path : String) : OptionT m Result := do
  match ← files.read path with
  | .error fault => return .error (.access path fault)
  | .ok text =>
    match regenerate text with
    | .error .overlapping => failure
    | .error fault => return .error (.source fault)
    | .ok (.updated output) =>
      match ← OptionT.lift (store files mode path output) with
      | .error fault => return .error (.access path fault)
      | .ok () => return .ok (.updated output)
    | .ok outcome => return .ok outcome

/-- The result of a visit. -/
def resultOf (files : FileSystem m) (mode : Mode) : Visit → OptionT m (String × Result)
  | .file path => do return (path, ← regenerateFile files mode path)
  | .unreadable path fault => return (path, .error (.walk path fault))

/-- The results of the files below a root. -/
def resultsBelow (files : FileSystem m) (mode : Mode) (root : String) :
    OptionT m (List (String × Result)) := do
  let visits ← files.walk root
  (visits.filter Visit.counts).mapM (resultOf files mode)

/-- Brings the source files below some roots up to date, root after root. -/
def regenerateAll (files : FileSystem m) (mode : Mode) (roots : List String) : OptionT m Summary := do
  let results ← roots.mapM (resultsBelow files mode)
  return ⟨results.flatten⟩

end Run

end RecordSql.Generate
