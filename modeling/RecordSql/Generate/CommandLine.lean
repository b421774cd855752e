import RecordSql.Generate.Batch

/-!
# Command line

- `Command`: what the arguments ask for.
- `Command.parse`: the arguments as a command. Options stand anywhere among the paths; after two hyphens
  alone there are only paths.
- `reply`: what is printed, and the exit code.
-/

namespace RecordSql.Generate

/-- A run over some roots. -/
structure Command where
  mode : Mode
  roots : List String
  deriving DecidableEq, Repr

/-- Why arguments are no command. -/
inductive UsageError
  | unknownOption (argument : String)
  | repeatedOption (argument : String)
  | emptyPath
  | noPath
  deriving DecidableEq, Repr

/-- Wording of a usage error. -/
def UsageError.message : UsageError → String
  | .unknownOption argument => "unexpected argument '" ++ argument ++ "' found"
  | .repeatedOption argument =>
    "the argument '" ++ argument ++ "' cannot be used multiple times"
  | .emptyPath => "a value is required for '<PATHS>...' but none was supplied"
  | .noPath => "the following required arguments were not provided: <PATHS>..."

/-- The option that only looks at files. -/
def checkOption : String := "--check"

/-- What ends the options. -/
def optionsEnd : String := "--"

/-- Whether an argument is an option: it begins with a hyphen and is not the hyphen alone. -/
def isOption (argument : String) : Bool :=
  argument.toList.head? = some '-' && argument ≠ "-"

namespace Command

/-- A command with one more root in front. -/
def addRoot (root : String) (c : Command) : Except UsageError Command :=
  if root = "" then .error .emptyPath else .ok { c with roots := root :: c.roots }

/-- The command of arguments that are all paths. -/
def ofPaths (mode : Mode) : List String → Except UsageError Command
  | [] => .ok ⟨mode, []⟩
  | a :: as => do addRoot a (← ofPaths mode as)

/-- The command of arguments, given the mode that those in front of them ask for. -/
def ofArguments (mode : Mode) : List String → Except UsageError Command
  | [] => .ok ⟨mode, []⟩
  | a :: as =>
    if a = optionsEnd then ofPaths mode as
    else if a = checkOption then
      match mode with
      | .write => ofArguments .check as
      | .check => .error (.repeatedOption a)
    else if isOption a then .error (.unknownOption a)
    else do addRoot a (← ofArguments mode as)

/-- The command of arguments. At least one path is among them. -/
def parse (arguments : List String) : Except UsageError Command := do
  let c ← ofArguments .write arguments
  if c.roots.isEmpty then throw .noPath
  return c

end Command

/-- The exit code, what is printed, and the complaint about arguments that are no command or about a run
that breaks off. -/
structure Reply where
  exitCode : Nat
  output : String
  complaint : String := ""
  deriving DecidableEq, Repr

/-- The exit code of arguments that are no command. -/
def usageExitCode : Nat := 2

/-- The exit code of a run that breaks off. -/
def brokenExitCode : Nat := 101

/-- The exit code of a run: it fails if a file does, and so does a check that finds a file to change. -/
def exitCode (mode : Mode) (s : Summary) : Nat :=
  if s.anyFailed || (mode = .check && !s.updated.isEmpty) then 1 else 0

section Reply

variable {m : Type → Type} [Monad m]

/-- Runs a command and reports on it, unless the run breaks off. -/
def Command.execute (files : FileSystem m) (c : Command) : m Reply := do
  match ← (regenerateAll files c.mode c.roots).run with
  | some summary => return { exitCode := exitCode c.mode summary, output := summary.report ++ "\n" }
  | none =>
    return { exitCode := brokenExitCode, output := "", complaint := Fault.overlapping.message }

/-- The reply to arguments. Nothing is printed if they are no command. -/
def reply (files : FileSystem m) (arguments : List String) : m Reply :=
  match Command.parse arguments with
  | .ok command => command.execute files
  | .error e => return { exitCode := usageExitCode, output := "", complaint := e.message }

end Reply

end RecordSql.Generate
