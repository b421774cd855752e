import RecordSql.Event
import RecordSql.Text.Blank
import RecordSql.Text.Bytes
import RecordSql.Value.Text

/-!
# Logging of executions

What is logged about executions. Bound values may hold data of users, so they are logged only from the
detailed level on.

- `LogLevel`: how much is logged.
- `shorten`: the beginning of a long text, cut between characters.
- `sqlEvents`, `resultEvents`, `errorEvents`, `timerEvents`: the events of one execution.
-/

namespace RecordSql

open RecordSql.Text

/-- How much is logged. -/
inductive LogLevel
  | off
  | basic
  | detailed
  | debug
  deriving DecidableEq, Repr

namespace LogLevel

/-- The place of a level among the levels. -/
def rank : LogLevel → Nat
  | .off => 0
  | .basic => 1
  | .detailed => 2
  | .debug => 3

/-- The name of a level. -/
def name : LogLevel → String
  | .off => "off"
  | .basic => "basic"
  | .detailed => "detailed"
  | .debug => "debug"

/-- The level of a name in any case, with or without blanks around it. Any other text turns logging
off. -/
def parse (s : String) : LogLevel :=
  let name := lowerCase (String.ofList (trim s.toList))
  if name = "basic" then .basic
  else if name = "detailed" then .detailed
  else if name = "debug" then .debug
  else .off

/-- The environment variable that holds the level. -/
def variableName : String :=
  "DEPOT_LOG_LEVEL"

/-- The level of the variable's value; unset means off. -/
def ofVariable : Option String → LogLevel
  | some s => parse s
  | none => .off

/-- Whether outcomes are logged. -/
def logsOutcomes (l : LogLevel) : Bool :=
  1 ≤ l.rank

/-- Whether bound values are logged. -/
def logsValues (l : LogLevel) : Bool :=
  2 ≤ l.rank

/-- Whether bound values are logged once more as JSON. -/
def logsJson (l : LogLevel) : Bool :=
  3 ≤ l.rank

end LogLevel

/-! ### Long texts -/

/-- The most bytes of SQL text that are logged at the basic level. -/
def briefLimit : Nat :=
  1000

/-- A text of at most `limit` bytes as it is; of a longer one the longest beginning that fits, and three
dots. -/
def shorten (limit : Nat) (s : String) : String :=
  if s.utf8ByteSize ≤ limit then s
  else String.ofList (takeBytes limit s.toList) ++ "..."

/-! ### Events of an execution -/

/-- The events of bound values, counted from one. -/
def parameterEvents (first : Nat) : Parameters → List Event
  | [] => []
  | v :: vs => .parameter first v.kind v.debug :: parameterEvents (first + 1) vs

/-- The bound values as a JSON list. -/
def parametersJson (ps : Parameters) : String :=
  (Json.Document.array (ps.map Value.document)).compact

/-- What is logged before a statement is executed. -/
def sqlEvents (level : LogLevel) (kind sql : String) (ps : Parameters) : List Event :=
  if !level.logsOutcomes then []
  else if !level.logsValues then [.executingBriefly (shorten briefLimit sql)]
  else
    .executing kind sql ps.length :: parameterEvents 1 ps ++
      if level.logsJson then [Event.parametersAsJson (parametersJson ps)] else []

/-- What is logged of an outcome. -/
def resultEvents (level : LogLevel) (success : Bool) : List Event :=
  if level.logsOutcomes then [.finished success] else []

/-- What is logged of an error. -/
def errorEvents (level : LogLevel) (context error : String) : List Event :=
  if level.logsOutcomes then [.executionError context error] else []

/-- How a timed execution ends. -/
inductive Outcome
  | success
  | failure (error : String)
  | abandoned
  deriving DecidableEq, Repr

/-- What is logged when a timed execution ends: the error of a failure before its outcome. -/
def timerEvents (level : LogLevel) (context : String) : Outcome → List Event
  | .success => resultEvents level true
  | .failure error => errorEvents level context error ++ resultEvents level false
  | .abandoned => resultEvents level false

end RecordSql
