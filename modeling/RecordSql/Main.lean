import RecordSql.Generate.CommandLine

/-!
# Program

Brings the generated regions of the given source files up to date, also of those below the given
directories.

- `diskFiles`: the files of the machine.
- `main`: replies to the arguments.
-/

namespace RecordSql.Generate

/-- The fault that an error number stands for. Some operations give the number with its sign changed. -/
def faultOfNumber (number : UInt32) (text : String) : IoFault :=
  let n := if number < 0x80000000 then number.toNat else (0 - number).toNat
  if n = 2 then .notFound
  else if n = 13 then .denied
  else if n = 20 then .notDirectory
  else if n = 21 then .isDirectory
  else if n = 36 then .nameTooLong
  else .other (text ++ " (os error " ++ toString n ++ ")")

/-- The fault behind an error of the machine. -/
def faultOf : IO.Error → IoFault
  | .noFileOrDirectory _ number text => faultOfNumber number text
  | .inappropriateType _ number text => faultOfNumber number text
  | .invalidArgument _ number text => faultOfNumber number text
  | .permissionDenied _ number text => faultOfNumber number text
  | .resourceExhausted _ number text => faultOfNumber number text
  | .illegalOperation number text => faultOfNumber number text
  | .otherError number text => faultOfNumber number text
  | e => .other (toString e)

/-- The result of an operation, or its fault. -/
def attempt {α : Type} (action : IO α) : IO (Except IoFault α) := do
  match ← action.toBaseIO with
  | .ok a => return .ok a
  | .error e => return .error (faultOf e)

/-- The names in a directory, in order. -/
def sortedNames (path : String) : IO (List String) := do
  let entries ← ((← IO.currentDir) / path).readDir
  return (entries.map fun e => e.fileName).toList.mergeSort fun a b => a ≤ b

mutual

/-- The visits of what a directory holds. -/
partial def visitDirectory (path : String) : IO (List Visit) := do
  match ← attempt (sortedNames path) with
  | .error fault => return [.unreadable path fault]
  | .ok names =>
    let visits ← (names.filter fun name => !isHidden name).mapM fun name =>
      visitBelow (extendPath path [name])
    return visits.flatten

/-- The visits of what is met below a root. Links are not followed there. -/
partial def visitBelow (path : String) : IO (List Visit) := do
  match ← attempt ((← IO.currentDir) / path).symlinkMetadata with
  | .error fault => return [.unreadable path fault]
  | .ok data =>
    match data.type with
    | .dir => visitDirectory path
    | .file => return [.file path]
    | _ => return []

end

/-- The walk from a root. -/
def walkDisk (root : String) : IO (List Visit) := do
  match ← attempt ((← IO.currentDir) / root).metadata with
  | .error fault => return [.unreadable root fault]
  | .ok data =>
    match data.type with
    | .dir => visitDirectory root
    | .file => return [.file root]
    | _ => return []

/-- The text of a file. -/
def readDisk (path : String) : IO (Except IoFault (List Char)) := do
  match ← attempt (IO.FS.readBinFile path) with
  | .error fault => return .error fault
  | .ok bytes =>
    match String.fromUTF8? bytes with
    | some text => return .ok text.toList
    | none => return .error .notText

/-- The files of the machine. -/
def diskFiles : FileSystem IO where
  walk := walkDisk
  read := readDisk
  write path text := attempt (IO.FS.writeFile path (String.ofList text))

end RecordSql.Generate

/-- Replies to the arguments. -/
def main (arguments : List String) : IO UInt32 := do
  let answer ← RecordSql.Generate.reply RecordSql.Generate.diskFiles arguments
  IO.print answer.output
  if !answer.complaint.isEmpty then IO.eprintln answer.complaint
  return UInt32.ofNat answer.exitCode
