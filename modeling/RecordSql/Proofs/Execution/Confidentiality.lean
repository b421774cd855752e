import RecordSql.Proofs.BoundValue.Independence
import RecordSql.Proofs.Execution.Delegation

/-!
# Bound values and the log

Below the detailed level the log tells of a statement what its text tells, and the text does not depend on
bound values. So the log tells nothing about them, as long as the connections report alike.

- `sqlEvents_brief`: what is logged of a statement at such a level.
- `compile_alike`: statements of the same shape are compiled alike, and logged alike.
- `Logs`: the events that an execution adds to the log.
- `execute_alike`: executions of statements of the same shape log the same.
- `executions_confidential`: the same for queries and updates.
-/

namespace RecordSql

/-! ### Events at the lower levels -/

/-- Below the detailed level no bound value is logged. -/
theorem sqlEvents_brief {level : LogLevel} (hlevel : level = .off ∨ level = .basic) (kind sql : String)
    (ps ps' : Parameters) : sqlEvents level kind sql ps = sqlEvents level kind sql ps' := by
  rcases hlevel with rfl | rfl <;> rfl

/-- Executions that end alike are logged alike below the detailed level, whatever is bound. -/
theorem executionEvents_brief {level : LogLevel} (hlevel : level = .off ∨ level = .basic)
    (kind : StatementKind) {c c' : Compiled} (hsql : c.sql = c'.sql) {α : Type} {answer answer' : Answer α}
    (h : answer.outcome = answer'.outcome) :
    executionEvents level kind c answer = executionEvents level kind c' answer' := by
  unfold executionEvents
  rw [h, hsql, sqlEvents_brief hlevel kind.text c'.sql c.parameters c'.parameters]

/-! ### Compiling -/

section Compiling

variable {s t : Statement} {session session' : Session}

/-- Compiled statements with one text, the same number of parameters and the same record are reported
alike. -/
theorem Statement.SameShape.event_eq (options : Options) (h : s.SameShape t) {c c' : Compiled} (hsql : c.sql = c'.sql)
    (hlength : c.parameters.length = c'.parameters.length) : c'.event options t = c.event options s := by
  unfold Compiled.event
  rw [h.kind_eq, h.record_eq, hsql, hlength]

/-- Statements of the same shape fail alike, or have the same text and as many parameters; either way the
session is the same afterwards. -/
theorem compile_alike (catalog : Catalog) (options : Options) (h : s.SameShape t) (session : Session) :
    ∃ after, (∃ e, (compile catalog options s).runIn session = (.error e, after) ∧
        (compile catalog options t).runIn session = (.error e, after)) ∨
      ∃ c c', (compile catalog options s).runIn session = (.ok c, after) ∧
        (compile catalog options t).runIn session = (.ok c', after) ∧ c.sql = c'.sql := by
  rw [compile_runIn, compile_runIn, h.records_eq]
  rcases (Registry.build catalog s.records).runIn session with ⟨e | g, after⟩
  · exact ⟨after, .inl ⟨e, rfl, rfl⟩⟩
  have same : Matches .same (List.Forall₂ (Piece.Like fun _ _ => True))
      (checkedPieces options.dialect g s) (checkedPieces options.dialect g t) := by
    unfold checkedPieces
    rw [h.verify_eq]
    exact Matches.bindSame fun _ _ => statementPieces_like h h options.dialect g
  dsimp only
  cases hs : checkedPieces options.dialect g s with
  | error e =>
    cases ht : checkedPieces options.dialect g t with
    | error e' =>
      rw [hs, ht] at same
      cases same
      exact ⟨after, .inl ⟨e, rfl, rfl⟩⟩
    | ok qs =>
      rw [hs, ht] at same
      cases same
  | ok ps =>
    cases ht : checkedPieces options.dialect g t with
    | error e' =>
      rw [hs, ht] at same
      cases same
    | ok qs =>
      rw [hs, ht] at same
      have hsql : (Compiled.ofPieces options ps).sql = (Compiled.ofPieces options qs).sql :=
        layout_like same 0
      dsimp only
      rw [h.event_eq options hsql (parameters_like same).length_eq]
      exact ⟨_, .inr ⟨_, _, rfl, rfl, hsql⟩⟩

/-- The same in two sessions with the same schemas: what is added to their logs is the same. -/
theorem compile_alikeIn (catalog : Catalog) (options : Options) (h : s.SameShape t)
    (hcache : session.cache = session'.cache) :
    ∃ cache events,
      (∃ e, (compile catalog options s).runIn session = (.error e, ⟨cache, session.log ++ events⟩) ∧
        (compile catalog options t).runIn session' = (.error e, ⟨cache, session'.log ++ events⟩)) ∨
      ∃ c c', (compile catalog options s).runIn session = (.ok c, ⟨cache, session.log ++ events⟩) ∧
        (compile catalog options t).runIn session' = (.ok c', ⟨cache, session'.log ++ events⟩) ∧
        c.sql = c'.sql := by
  obtain ⟨result, cache, events, ht, ht'⟩ := compile_sameCache catalog options t hcache
  refine ⟨cache, events, ?_⟩
  obtain ⟨after, ⟨e, hs, hfails⟩ | ⟨c, c', hs, hgives, hsql⟩⟩ :=
    compile_alike catalog options h session
  · rw [ht] at hfails
    cases hfails
    exact .inl ⟨e, hs, ht'⟩
  · rw [ht] at hgives
    cases hgives
    exact .inr ⟨c, c', hs, ht', hsql⟩

end Compiling

/-! ### Executions -/

/-- An execution adds some events to the log of its session. -/
def Logs {σ α : Type} (m : ExecutionM σ α) (session : Session) (state : σ) (events : List Event) : Prop :=
  (m.runFrom session state).2.1.log = session.log ++ events

/-- Connections report alike of what two statements are compiled to: both succeed, or both fail with the
same error text, or both break off. -/
def ReportAlike {σ τ α : Type} (call : String → Parameters → StateM σ (Answer α))
    (call' : String → Parameters → StateM τ (Answer α)) (state : σ) (state' : τ)
    (result result' : Except Error Compiled) : Prop :=
  ∀ c c', result = .ok c → result' = .ok c' →
    Answer.outcome ((call c.sql c.parameters).run state).1 =
      Answer.outcome ((call' c'.sql c'.parameters).run state').1

section Executions

variable {σ τ α : Type} {catalog : Catalog} {options : Options} {s t : Statement}
  {session session' : Session}

/-- Executions of statements of the same shape log the same. -/
theorem execute_alike (h : s.SameShape t) {level : LogLevel} (hlevel : level = .off ∨ level = .basic)
    (hcache : session.cache = session'.cache) {call : String → Parameters → StateM σ (Answer α)}
    {call' : String → Parameters → StateM τ (Answer α)} {state : σ} {state' : τ}
    (hreport : ReportAlike call call' state state' ((compile catalog options s).runIn session).1
      ((compile catalog options t).runIn session').1) :
    ∃ events, Logs (execute catalog options level s call) session state events ∧
      Logs (execute catalog options level t call') session' state' events := by
  obtain ⟨cache, events, ⟨e, hs, ht⟩ | ⟨c, c', hs, ht, hsql⟩⟩ :=
    compile_alikeIn catalog options h hcache
  · refine ⟨events, ?_, ?_⟩
    · unfold Logs
      rw [execute_uncompiled hs]
    · unfold Logs
      rw [execute_uncompiled ht]
  · have houtcome := hreport c c' (by rw [hs]) (by rw [ht])
    have hevents := executionEvents_brief hlevel s.kind hsql houtcome
    refine ⟨events ++ executionEvents level s.kind c ((call c.sql c.parameters).run state).1, ?_, ?_⟩
    · unfold Logs
      rw [execute_compiled hs]
      exact List.append_assoc _ _ _
    · unfold Logs
      rw [execute_compiled ht, h.kind_eq, hevents]
      exact List.append_assoc _ _ _

/-- Two statements that differ in bound values only, executed below the detailed level in sessions with
the same schemas, on connections that report alike, add the same events to the log. -/
theorem executions_confidential (conn : Connection σ) (conn' : Connection τ) (catalog : Catalog)
    (options : Options) {s t : Statement} (h : s.SameShape t) {level : LogLevel}
    (hlevel : level = .off ∨ level = .basic) {session session' : Session}
    (hcache : session.cache = session'.cache) (state : σ) (state' : τ) :
    (ReportAlike conn.query conn'.query state state' ((compile catalog options s).runIn session).1
        ((compile catalog options t).runIn session').1 →
      ∃ events, Logs (queryRows conn catalog options level s) session state events ∧
        Logs (queryRows conn' catalog options level t) session' state' events) ∧
    (ReportAlike conn.update conn'.update state state' ((compile catalog options s).runIn session).1
        ((compile catalog options t).runIn session').1 →
      ∃ events, Logs (applyUpdate conn catalog options level s) session state events ∧
        Logs (applyUpdate conn' catalog options level t) session' state' events) := by
  unfold queryRows applyUpdate
  rw [h.kind_eq]
  refine ⟨fun hreport => ?_, fun hreport => ?_⟩
  · split
    · exact execute_alike h hlevel hcache hreport
    · exact ⟨[], (List.append_nil _).symm, (List.append_nil _).symm⟩
  · split
    · exact ⟨[], (List.append_nil _).symm, (List.append_nil _).symm⟩
    · exact execute_alike h hlevel hcache hreport

end Executions

theorem bookOf_sameShape (number number' : Int64) : (bookOf number).SameShape (bookOf number') := by
  have hnumber : Expr.Like anyValues
      (.binary .eq (.column (.of book "id")) (.value (.integer number)))
      (.binary .eq (.column (.of book "id")) (.value (.integer number'))) :=
    ⟨_, _, rfl, rfl, _, rfl, trivial⟩
  exact ⟨_, rfl, Select.like_iff.2
    ⟨rfl, rfl, rfl, rfl, trivial, .nil, ⟨_, rfl, _, rfl, hnumber⟩, rfl, rfl, rfl, .nil⟩⟩

/-- Which book is asked for can not be told from the log, nor whether it is there. -/
theorem bookOf_confidential :
    (bookOf 7).SameShape (bookOf 8) ∧
      ∃ events,
        Logs (queryRows (Connection.canned [] 0 none) {} {} .basic (bookOf 7)) library [] events ∧
        Logs (queryRows (Connection.canned [[("id", .integer 8)]] 0 none) {} {} .basic (bookOf 8))
          library [] events := by
  refine ⟨bookOf_sameShape 7 8, ?_⟩
  refine (executions_confidential (Connection.canned [] 0 none)
    (Connection.canned [[("id", .integer 8)]] 0 none) {} {} (bookOf_sameShape 7 8) (.inr rfl) rfl [] []).1
    fun _ _ _ _ => rfl

end RecordSql
