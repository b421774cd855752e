import RecordSql.Execution
import RecordSql.Proofs.Session.History

/-!
# Delegation to a connection

An execution is compiling, one call of the connection, and what is logged around it. The log is only ever
added to, so nothing else depends on how much is logged.

- `ExecutionM.runFrom`: the answer of a computation with the session and the connection after it.
- `Connection.recorded`: a connection that keeps the calls that it gets.
- `execute_compiled`, `execute_uncompiled`: what an execution comes to.
- `SameButLog`: outcomes that differ in their logs only.
- `executeAll_levels`: a run of executions, logged in two ways.
- `executions_delegate`: the connection is called once with what is compiled, whatever is logged.
-/

namespace RecordSql

variable {σ α β : Type}

/-- The answer of a computation, and the session and the connection that it leaves behind. -/
def ExecutionM.runFrom (m : ExecutionM σ α) (session : Session) (state : σ) : Answer α × Session × σ :=
  m.run.run.run (session, state)

/-- A connection that keeps the calls that it gets beside a state of its own. -/
def Connection.recorded (conn : Connection σ) : Connection (List Call × σ) where
  query sql ps := fun (calls, state) =>
    let (answer, state') := (conn.query sql ps).run state
    (answer, (calls ++ [⟨true, sql, ps⟩], state'))
  update sql ps := fun (calls, state) =>
    let (answer, state') := (conn.update sql ps).run state
    (answer, (calls ++ [⟨false, sql, ps⟩], state'))

/-- A session with more events in its log. -/
def Session.logging (session : Session) (events : List Event) : Session :=
  { session with log := session.log ++ events }

/-- The events of a compiled statement and of what becomes of it. -/
def executionEvents (level : LogLevel) (kind : StatementKind) (c : Compiled) (answer : Answer α) :
    List Event :=
  sqlEvents level kind.text c.sql c.parameters ++ timerEvents level kind.text answer.outcome

/-! ### Single steps -/

section Steps

variable {session : Session} {state : σ}

theorem runFrom_bind (m : ExecutionM σ α) (k : α → ExecutionM σ β) :
    (m >>= k : ExecutionM σ β).runFrom session state =
      match m.runFrom session state with
      | (some (.ok a), session', state') => (k a).runFrom session' state'
      | (some (.error e), session', state') => (some (.error e), session', state')
      | (none, session', state') => (none, session', state') := by
  unfold ExecutionM.runFrom
  simp only [ExceptT.run_bind, OptionT.run_bind, Option.elimM, StateT.run_bind]
  rcases m.run.run.run (session, state) with ⟨_ | _ | _, _, _⟩ <;> rfl

theorem runFrom_inSession (m : SessionM α) :
    (inSession m : ExecutionM σ α).runFrom session state =
      (some (m.runIn session).1, (m.runIn session).2, state) :=
  rfl

theorem runFrom_logAll (events : List Event) :
    (inSession (logAll events) : ExecutionM σ Unit).runFrom session state =
      (some (.ok ()), session.logging events, state) :=
  rfl

theorem runFrom_callConnection (m : StateM σ (Answer α)) :
    (callConnection m).runFrom session state = (some (.ok (m.run state).1), session, (m.run state).2) :=
  rfl

theorem runFrom_passOn (answer : Answer α) :
    (passOn answer : ExecutionM σ α).runFrom session state = (answer, session, state) :=
  rfl

theorem runFrom_throw (e : Error) :
    (throw e : ExecutionM σ α).runFrom session state = (some (.error e), session, state) :=
  rfl

end Steps

/-! ### Executions -/

section Executions

variable {catalog : Catalog} {options : Options} {s : Statement} {session session' : Session}
  {call : String → Parameters → StateM σ (Answer α)} {c : Compiled}

/-- A compiled statement is handed on once, with events before and after. -/
theorem runLogged_runFrom (level : LogLevel) (kind : StatementKind) (c : Compiled) (state : σ) :
    (runLogged level kind c call).runFrom session state =
      (((call c.sql c.parameters).run state).1,
        session.logging (executionEvents level kind c ((call c.sql c.parameters).run state).1),
        ((call c.sql c.parameters).run state).2) := by
  simp only [runLogged, runFrom_bind, runFrom_logAll, runFrom_callConnection, runFrom_passOn,
    Session.logging, executionEvents, List.append_assoc]

/-- A statement that compiles is handed on as it is compiled. -/
theorem execute_compiled (h : (compile catalog options s).runIn session = (.ok c, session'))
    (level : LogLevel) (state : σ) :
    (execute catalog options level s call).runFrom session state =
      (((call c.sql c.parameters).run state).1,
        session'.logging (executionEvents level s.kind c ((call c.sql c.parameters).run state).1),
        ((call c.sql c.parameters).run state).2) := by
  simp only [execute, runFrom_bind, runFrom_inSession, h, runLogged_runFrom]

/-- A statement that does not compile is not handed on. -/
theorem execute_uncompiled {e : Error}
    (h : (compile catalog options s).runIn session = (.error e, session')) (level : LogLevel) (state : σ) :
    (execute catalog options level s call).runFrom session state =
      (some (.error e), session', state) := by
  simp only [execute, runFrom_bind, runFrom_inSession, h]

end Executions

/-! ### Executions at two levels -/

/-- Outcomes that differ in their logs only: what is answered, the published schemas and the connection
are the same. -/
def SameButLog {ρ : Type} (x y : ρ × Session × σ) : Prop :=
  x.1 = y.1 ∧ x.2.1.cache = y.2.1.cache ∧ x.2.2 = y.2.2

/-- Compiling does not read the log, it only adds to it. -/
theorem compile_sameCache (catalog : Catalog) (options : Options) (s : Statement)
    {session session' : Session} (h : session.cache = session'.cache) :
    ∃ result cache events,
      (compile catalog options s).runIn session = (result, ⟨cache, session.log ++ events⟩) ∧
      (compile catalog options s).runIn session' = (result, ⟨cache, session'.log ++ events⟩) := by
  have hfor : ∀ r, session.schemaFor catalog r = session'.schemaFor catalog r := by
    intro r
    unfold Session.schemaFor
    rw [h]
  obtain ⟨g, stop, hreg, hrun⟩ := build_registers catalog session s.records
  obtain ⟨g', stop', hreg', hrun'⟩ := build_registers catalog session' s.records
  obtain ⟨rfl, rfl⟩ := hreg.unique (hreg'.congr hfor)
  have hregistered : session'.registered g' =
      ⟨(session.registered g').cache,
        session'.log ++ (session.unpublished g').map fun p => Event.schemaPublished p.1⟩ := by
    unfold Session.registered Session.publishing Session.unpublished
    rw [h]
  rw [compile_runIn, compile_runIn, hrun, hrun', hregistered]
  cases stop' with
  | some p => exact ⟨_, _, _, rfl, rfl⟩
  | none =>
    dsimp only [Registry.outcome]
    cases checkedPieces options.dialect g' s with
    | error e => exact ⟨_, _, _, rfl, rfl⟩
    | ok ps =>
      refine ⟨.ok (.ofPieces options ps), (session.registered g').cache,
        (session.unpublished g').map (fun p => Event.schemaPublished p.1) ++
          [(Compiled.ofPieces options ps).event options s], ?_, ?_⟩
      · rw [← List.append_assoc]
        rfl
      · rw [← List.append_assoc]
        rfl

/-- How much is logged has no effect on an execution. -/
theorem execute_sameButLog (catalog : Catalog) (options : Options) (s : Statement)
    (call : String → Parameters → StateM σ (Answer α)) (level level' : LogLevel)
    {session session' : Session} (h : session.cache = session'.cache) (state : σ) :
    SameButLog ((execute catalog options level s call).runFrom session state)
      ((execute catalog options level' s call).runFrom session' state) := by
  obtain ⟨result, cache, events, hs, hs'⟩ := compile_sameCache catalog options s h
  cases result with
  | error e =>
    rw [execute_uncompiled hs, execute_uncompiled hs']
    exact ⟨rfl, rfl, rfl⟩
  | ok c =>
    rw [execute_compiled hs, execute_compiled hs']
    exact ⟨rfl, rfl, rfl⟩

/-- A wrong kind of statement is refused, whatever is logged. -/
theorem refused_sameButLog (e : Error) {session session' : Session}
    (h : session.cache = session'.cache) (state : σ) :
    SameButLog ((throw e : ExecutionM σ α).runFrom session state)
      ((throw e : ExecutionM σ α).runFrom session' state) :=
  ⟨rfl, h, rfl⟩

/-! ### Runs of executions -/

/-- A statement to execute, as a query or as an update. -/
structure Request where
  catalog : Catalog
  options : Options
  statement : Statement
  asQuery : Bool

/-- What a request is answered by: rows or a count. -/
abbrev Response := Answer (List Row) ⊕ Answer Nat

/-- The response to a request, and the session and the connection after it. -/
def Request.run (conn : Connection σ) (level : LogLevel) (r : Request) (session : Session) (state : σ) :
    Response × Session × σ :=
  if r.asQuery then
    let (answer, after) := (queryRows conn r.catalog r.options level r.statement).runFrom session state
    (.inl answer, after)
  else
    let (answer, after) := (applyUpdate conn r.catalog r.options level r.statement).runFrom session state
    (.inr answer, after)

/-- The responses to some requests, one after the other, each at a level of its own. -/
def executeAll (conn : Connection σ) :
    List (LogLevel × Request) → Session → σ → List Response × Session × σ
  | [], session, state => ([], session, state)
  | (level, r) :: steps, session, state =>
    let (response, session', state') := r.run conn level session state
    let (responses, after) := executeAll conn steps session' state'
    (response :: responses, after)

/-- How much is logged has no effect on a request. -/
theorem Request.run_level (conn : Connection σ) (r : Request) (level level' : LogLevel)
    {session session' : Session} (h : session.cache = session'.cache) (state : σ) :
    SameButLog (r.run conn level session state) (r.run conn level' session' state) := by
  unfold Request.run
  cases r.asQuery with
  | true =>
    have same : SameButLog
        ((queryRows conn r.catalog r.options level r.statement).runFrom session state)
        ((queryRows conn r.catalog r.options level' r.statement).runFrom session' state) := by
      unfold queryRows
      split
      · exact execute_sameButLog r.catalog r.options r.statement conn.query level level' h state
      · exact refused_sameButLog _ h state
    exact ⟨congrArg Sum.inl same.1, same.2⟩
  | false =>
    have same : SameButLog
        ((applyUpdate conn r.catalog r.options level r.statement).runFrom session state)
        ((applyUpdate conn r.catalog r.options level' r.statement).runFrom session' state) := by
      unfold applyUpdate
      split
      · exact refused_sameButLog _ h state
      · exact execute_sameButLog r.catalog r.options r.statement conn.update level level' h state
    exact ⟨congrArg Sum.inr same.1, same.2⟩

theorem executeAll_cons (conn : Connection σ) (level : LogLevel) (r : Request)
    (steps : List (LogLevel × Request)) (session : Session) (state : σ) :
    executeAll conn ((level, r) :: steps) session state =
      ((r.run conn level session state).1 ::
          (executeAll conn steps (r.run conn level session state).2.1
            (r.run conn level session state).2.2).1,
        (executeAll conn steps (r.run conn level session state).2.1
          (r.run conn level session state).2.2).2) :=
  rfl

/-- How much is logged has no effect on a run of requests. -/
theorem executeAll_levels (conn : Connection σ) :
    ∀ (steps steps' : List (LogLevel × Request)) {session session' : Session} (state : σ),
      steps.map (·.2) = steps'.map (·.2) → session.cache = session'.cache →
      SameButLog (executeAll conn steps session state) (executeAll conn steps' session' state)
  | [], [], _, _, _, _, h => ⟨rfl, h, rfl⟩
  | (level, r) :: steps, (level', r') :: steps', session, session', state, hsteps, h => by
    obtain ⟨hr, hrest⟩ := List.cons.inj hsteps
    obtain rfl : r = r' := hr
    obtain ⟨hresponse, hcache, hstate⟩ := r.run_level conn level level' h state
    rw [executeAll_cons, executeAll_cons, ← hstate]
    obtain ⟨hresponses, hafter⟩ :=
      executeAll_levels conn steps steps' (r.run conn level session state).2.2 hrest hcache
    exact ⟨congrArg₂ List.cons hresponse hresponses, hafter⟩

/-! ### Delegation -/

/-- A connection gets one call for a compiled statement, with its text and parameters, and its answer is
passed on. It gets none for a statement that does not compile. -/
structure Delegates (compiled : SessionM Compiled) (kind : StatementKind) (asQuery : Bool)
    (call : String → Parameters → StateM σ (Answer α))
    (execution : LogLevel → ExecutionM (List Call × σ) α) : Prop where
  uncompiled : ∀ {session e session'}, compiled.runIn session = (.error e, session') →
    ∀ level calls state, (execution level).runFrom session (calls, state) =
      (some (.error e), session', (calls, state))
  once : ∀ {session c session'}, compiled.runIn session = (.ok c, session') →
    ∀ level calls state answer state', (call c.sql c.parameters).run state = (answer, state') →
      (execution level).runFrom session (calls, state) =
        (answer, session'.logging (executionEvents level kind c answer),
          (calls ++ [⟨asQuery, c.sql, c.parameters⟩], state'))

/-- An execution that fails with an error, and leaves the session and the connection as they are. -/
def Refuses (e : Error) (execution : LogLevel → ExecutionM σ α) : Prop :=
  ∀ level session state, (execution level).runFrom session state = (some (.error e), session, state)

/-- An execution delegates if its calls are those of a connection, and are recorded. -/
theorem execute_delegates {catalog : Catalog} {options : Options} {s : Statement} {asQuery : Bool}
    {call : String → Parameters → StateM σ (Answer α)}
    {recorded : String → Parameters → StateM (List Call × σ) (Answer α)}
    (hcall : ∀ sql ps calls state, (recorded sql ps).run (calls, state) =
      (((call sql ps).run state).1, (calls ++ [⟨asQuery, sql, ps⟩], ((call sql ps).run state).2))) :
    Delegates (compile catalog options s) s.kind asQuery call fun level =>
      execute catalog options level s recorded where
  uncompiled h level _ _ := execute_uncompiled h level _
  once {session c session'} h level calls state answer state' ha := by
    rw [execute_compiled h, hcall, ha]

/-- A select is executed as a query, any other statement as an update; the other way round they are
refused, and nothing happens. What is executed is compiled, and what compiles is handed on to the
connection, once, by the method of its kind, with the compiled text and parameters; rows, a count, an
error or the breaking off of the connection are passed on as they come. In a run of executions the
answers, the calls and the published schemas are the same however much is logged at each of them. -/
theorem executions_delegate (conn : Connection σ) (catalog : Catalog) (options : Options)
    (s : Statement) :
    (s.kind = .select → Delegates (compile catalog options s) s.kind true conn.query fun level =>
      queryRows conn.recorded catalog options level s) ∧
    (s.kind ≠ .select → Delegates (compile catalog options s) s.kind false conn.update fun level =>
      applyUpdate conn.recorded catalog options level s) ∧
    (s.kind ≠ .select → Refuses (.unsupported (.queryOf s.kind)) fun level =>
      queryRows conn.recorded catalog options level s) ∧
    (s.kind = .select → Refuses (.unsupported .updateOfSelect) fun level =>
      applyUpdate conn.recorded catalog options level s) ∧
    ∀ (steps steps' : List (LogLevel × Request)) (session session' : Session) calls state,
      steps.map (·.2) = steps'.map (·.2) → session.cache = session'.cache →
      SameButLog (executeAll conn.recorded steps session (calls, state))
        (executeAll conn.recorded steps' session' (calls, state)) := by
  refine ⟨fun hs => ?query, fun hs => ?update, fun hs => ?noQuery, fun hs => ?noUpdate, ?levels⟩
  case query =>
    simp only [queryRows, if_pos hs]
    exact execute_delegates fun _ _ _ _ => rfl
  case update =>
    simp only [applyUpdate, if_neg hs]
    exact execute_delegates fun _ _ _ _ => rfl
  case noQuery =>
    simp only [queryRows, if_neg hs]
    exact fun _ _ _ => runFrom_throw _
  case noUpdate =>
    simp only [applyUpdate, if_pos hs]
    exact fun _ _ _ => runFrom_throw _
  case levels =>
    intro steps steps' session session' calls state hsteps h
    exact executeAll_levels conn.recorded steps steps' (calls, state) hsteps h

/-- The book of some number. -/
def bookOf (number : Int64) : Statement :=
  .select {
    record := book, fields := ["id"],
    condition := some (.expr (.binary .eq (.column (.of book "id")) (.value (.integer number)))) }

theorem bookOf_registers (number : Int64) :
    (Registry.build {} (bookOf number).records).runIn library = (.ok bookRegistry, library) :=
  build_library {} [book] (by decide)

/-- A connection that is reset gets the select once, as a query, and nothing if it is to be executed as an
update; the error is passed on. Without a log it is all the same. -/
theorem bookOf_delegates :
    ∃ c session', (compile {} {} (bookOf 7)).runIn library = (.ok c, session') ∧
      c.sql = "select t0.id from books as t0 where t0.id = ?" ∧ c.parameters = [.integer 7] ∧
      (queryRows (Connection.canned [] 0 (some "reset")).recorded {} {} .debug (bookOf 7)).runFrom
          library ([], []) =
        (some (.error (.execution "reset")),
          session'.logging (executionEvents (α := List Row) .debug .select c
            (some (.error (.execution "reset")))),
          ([⟨true, c.sql, c.parameters⟩], [⟨true, c.sql, c.parameters⟩])) ∧
      (applyUpdate (Connection.canned [] 0 (some "reset")).recorded {} {} .debug (bookOf 7)).runFrom
          library ([], []) =
        (some (.error (.unsupported .updateOfSelect)), library, ([], [])) ∧
      SameButLog
        (executeAll (Connection.canned [] 0 (some "reset")).recorded
          [(.debug, ⟨{}, {}, bookOf 7, true⟩)] library ([], []))
        (executeAll (Connection.canned [] 0 (some "reset")).recorded
          [(.off, ⟨{}, {}, bookOf 7, true⟩)] library ([], [])) := by
  obtain ⟨hquery, -, -, hnoUpdate, hlevels⟩ :=
    executions_delegate (Connection.canned [] 0 (some "reset")) {} {} (bookOf 7)
  obtain ⟨c, session', hc, hsql, hparameters⟩ : ∃ c session',
      (compile {} {} (bookOf 7)).runIn library = (.ok c, session') ∧
        c.sql = "select t0.id from books as t0 where t0.id = ?" ∧ c.parameters = [.integer 7] := by
    rw [compile_runIn, bookOf_registers]
    exact ⟨_, _, rfl, by decide +kernel, rfl⟩
  exact ⟨c, session', hc, hsql, hparameters, (hquery rfl).once hc _ _ _ _ _ rfl, hnoUpdate rfl _ _ _,
    hlevels _ _ _ _ _ _ rfl rfl⟩

end RecordSql
