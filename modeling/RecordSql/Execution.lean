import RecordSql.Compile
import RecordSql.Logging

/-!
# Execution

Connections are supplied from outside. A statement is compiled, logged, and handed to its connection
once; the connection's answer is passed on.

- `Connection`: what runs SQL text with its values. It may break off without an answer.
- `execute`: any statement; `queryRows`, `applyUpdate`: selects and writes.
- `Connection.canned`: a connection that keeps the calls it gets and answers all of them alike.
-/

namespace RecordSql

/-- A row: values by column label, in the order of the labels' first mention. -/
abbrev Row := List (String × Value)

/-- Sets the value of a label: in its place if the row has it, else at the end. -/
def Row.set (label : String) (v : Value) : Row → Row
  | [] => [(label, v)]
  | (l, w) :: rest => if l = label then (l, v) :: rest else (l, w) :: Row.set label v rest

/-- The row of some pairs; a repeated label keeps its first place and its last value. -/
def Row.ofPairs (pairs : List (String × Value)) : Row :=
  pairs.foldl (fun row p => Row.set p.1 p.2 row) []

/-- What a connection answers: a result or an error, or nothing if it breaks off. -/
abbrev Answer (α : Type) := Option (Except Error α)

/-- How a call with some answer has ended. -/
def Answer.outcome {α : Type} : Answer α → Outcome
  | some (.ok _) => .success
  | some (.error e) => .failure e.message
  | none => .abandoned

/-- A connection with a state of its own. It runs SQL text with the values of its placeholders. -/
structure Connection (σ : Type) where
  query : String → Parameters → StateM σ (Answer (List Row))
  update : String → Parameters → StateM σ (Answer Nat)

/-- Computations on a session and a connection, which breaks off together with its connection. The states
reached so far are kept, however it ends. -/
abbrev ExecutionM (σ : Type) := ExceptT Error (OptionT (StateM (Session × σ)))

/-- A computation of the session alone. -/
def inSession {σ α : Type} (m : SessionM α) : ExecutionM σ α :=
  ExceptT.mk <| OptionT.mk fun st =>
    let (result, session) := (m.run.run st.1 : Except Error α × Session)
    (some result, (session, st.2))

/-- A call of the connection. -/
def callConnection {σ α : Type} (m : StateM σ (Answer α)) : ExecutionM σ (Answer α) :=
  ExceptT.mk <| OptionT.mk fun st =>
    let (answer, state) := (m.run st.2 : Answer α × σ)
    (some (.ok answer), (st.1, state))

/-- Ends like a connection has answered. -/
def passOn {σ α : Type} (answer : Answer α) : ExecutionM σ α :=
  ExceptT.mk <| OptionT.mk <| pure answer

/-- Adds events to the log. -/
def logAll (events : List Event) : SessionM Unit :=
  modify fun s => { s with log := s.log ++ events }

/-- Logs a compiled statement, runs it, logs the outcome and passes the answer on. -/
def runLogged {σ α : Type} (level : LogLevel) (kind : StatementKind) (c : Compiled)
    (call : String → Parameters → StateM σ (Answer α)) : ExecutionM σ α := do
  inSession (logAll (sqlEvents level kind.text c.sql c.parameters))
  let answer ← callConnection (call c.sql c.parameters)
  inSession (logAll (timerEvents level kind.text answer.outcome))
  passOn answer

/-- Compiles a statement and runs it. -/
def execute {σ α : Type} (catalog : Catalog) (options : Options) (level : LogLevel) (s : Statement)
    (call : String → Parameters → StateM σ (Answer α)) : ExecutionM σ α := do
  let c ← inSession (compile catalog options s)
  runLogged level s.kind c call

/-- Compiles a select and runs it. Any other statement is refused untouched. -/
def queryRows {σ : Type} (conn : Connection σ) (catalog : Catalog) (options : Options)
    (level : LogLevel) (s : Statement) : ExecutionM σ (List Row) :=
  if s.kind = .select then execute catalog options level s conn.query
  else throw (.unsupported (.queryOf s.kind))

/-- Compiles an insert, update or delete and runs it. A select is refused untouched. -/
def applyUpdate {σ : Type} (conn : Connection σ) (catalog : Catalog) (options : Options)
    (level : LogLevel) (s : Statement) : ExecutionM σ Nat :=
  if s.kind = .select then throw (.unsupported .updateOfSelect)
  else execute catalog options level s conn.update

/-! ### Canned connections -/

/-- A call that a connection got. -/
structure Call where
  isQuery : Bool
  sql : String
  parameters : Parameters

/-- A connection that keeps its calls, and answers all of them with one failure, or else with the same
rows or the same count. -/
def Connection.canned (rows : List Row) (count : Nat) (failure : Option String) :
    Connection (List Call) where
  query sql ps := do
    modify (· ++ [⟨true, sql, ps⟩])
    return some <| match failure with
      | some reason => .error (.execution reason)
      | none => .ok rows
  update sql ps := do
    modify (· ++ [⟨false, sql, ps⟩])
    return some <| match failure with
      | some reason => .error (.execution reason)
      | none => .ok count

end RecordSql
