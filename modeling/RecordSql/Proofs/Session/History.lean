import RecordSql.Proofs.Registration.Closure

/-!
# Histories of a session

A session is asked for schemas and for statements to compile, again and again, while records may be
declared anew in between. Whatever succeeds or fails on the way, published schemas stay, and what is
published next depends on the schemas that the session tells alone.

- `Operation`: what a session is asked for.
- `Session.ofHistory`: the session after some operations, each one with the catalog of its time.
- `SessionM.Publishes`: what a computation that registers records leaves behind.
- `Session.Grows`: a session with more schemas and the events that tell of them.
- `after_grows`: every operation makes a session grow, and so do all of them.
- `history_writeOnce`: published schemas stay, and compiling does not depend on what is published.
-/

namespace RecordSql

variable {catalog : Catalog} {σ σ' : Session}

/-! ### Operations -/

/-- What a session is asked for. -/
inductive Operation
  | get (record : RecordType)
  | compile (options : Options) (s : Statement)
  | compileExpression (options : Options) (e : Expr)

/-- The session after an operation, which may fail. -/
def Operation.next (catalog : Catalog) (σ : Session) : Operation → Session
  | .get r => ((schemaOf catalog r).runIn σ).2
  | .compile options s => ((RecordSql.compile catalog options s).runIn σ).2
  | .compileExpression options e => ((RecordSql.compileExpression catalog options e).runIn σ).2

/-- The session after some operations, each one with the catalog of its time. -/
def Session.after (σ : Session) (steps : List (Catalog × Operation)) : Session :=
  steps.foldl (fun σ step => step.2.next step.1 σ) σ

/-- The session that starts without schemas, after some operations. -/
def Session.ofHistory (steps : List (Catalog × Operation)) : Session :=
  ({} : Session).after steps

/-- The record whose schema an event tells to be published. -/
def Event.published? : Event → Option RecordType
  | .schemaPublished r => some r
  | _ => none

/-- The records that the log tells to be published, in order. -/
def Session.published (σ : Session) : List RecordType :=
  σ.log.filterMap Event.published?

@[simp] theorem published_publishing (σ : Session) (new : List (RecordType × RecordSchema)) :
    (σ.publishing new).published = σ.published ++ new.map (·.1) := by
  have hnew : (new.map fun p => Event.schemaPublished p.1).filterMap Event.published? =
      new.map (·.1) := by
    induction new with
    | nil => rfl
    | cons p new ih => simpa [Event.published?] using ih
  rw [Session.published, Session.publishing, List.filterMap_append, hnew]
  rfl

@[simp] theorem published_event (σ : Session) (options : Options) (s : Statement) (c : Compiled) :
    (σ.reported (c.event options s)).published = σ.published := by
  simp [Session.published, Session.reported, Compiled.event, Event.published?]

/-! ### What compiling leaves behind -/

/-- A computation that registers some records first. The registration finds the schemas of the session
where it starts, and it determines the result. The schemas that were not published before are published in
the order of registration, each with an event that tells so. A record that stops the registration is not
published. -/
structure SessionM.Publishes {α : Type} (m : SessionM α) (catalog : Catalog)
    (records : List RecordType) (rest : Registry → Except Error α) (σ : Session) (g : Registry)
    (stop : Option (RecordType × Error)) : Prop where
  registers : Registers (σ.schemaFor catalog) {} records g stop
  result : (m.runIn σ).1 = g.outcome stop >>= rest
  entries : (m.runIn σ).2.cache.entries = σ.cache.entries ++ σ.unpublished g
  events : (m.runIn σ).2.published = σ.published ++ (σ.unpublished g).map (·.1)
  stopped : ∀ r e, stop = some (r, e) →
    (m.runIn σ).1 = .error e ∧ (m.runIn σ).2.cache.find? r = none

/-- The compiled form of a statement whose records are registered. -/
def compiledIn (options : Options) (s : Statement) (g : Registry) : Except Error Compiled :=
  (checkedPieces options.dialect g s).map (Compiled.ofPieces options)

/-- The compiled form of an expression whose records are registered. -/
def expressionIn (options : Options) (e : Expr) (g : Registry) : Except Error Compiled :=
  (freeExprPieces options.dialect g e).map (Compiled.ofPieces options)

/-- What compiling gives, once the records are registered. -/
theorem compile_result (catalog : Catalog) (options : Options) (s : Statement) (σ : Session) :
    ((compile catalog options s).runIn σ).1 =
      ((Registry.build catalog s.records).runIn σ).1 >>= compiledIn options s := by
  rw [compile_runIn]
  rcases (Registry.build catalog s.records).runIn σ with ⟨e | g, σ'⟩
  · rfl
  · show _ = compiledIn options s g
    unfold compiledIn
    dsimp only
    cases checkedPieces options.dialect g s <;> rfl

/-- A statement that refers to one record compiles as in some closed registry of that record. -/
theorem compile_of_record {r : RecordType} {schema : RecordSchema}
    (hr : RecordSchema.build catalog r = .ok schema) (hregistrable : Registrable catalog r)
    (hσ : σ.cache.BuiltFrom catalog) {s : Statement} (hone : ∀ q ∈ s.records, q = r) (hmem : r ∈ s.records)
    (options : Options) :
    ∃ g, g.Closed catalog ∧ g.schema r = .ok schema ∧
      ((compile catalog options s).runIn σ).1 = compiledIn options s g := by
  obtain ⟨g, hrun, hg, hrecords⟩ := build_registrable hσ fun q hq => hone q hq ▸ hregistrable
  obtain ⟨found, hfound⟩ := schema_of_registered (hrecords hmem)
  obtain rfl : found = schema := Except.ok.inj ((hg.built.schema hfound).symm.trans hr)
  exact ⟨g, hg, hfound, by rw [compile_result, hrun, ok_bind]⟩

theorem compileExpression_result (catalog : Catalog) (options : Options) (e : Expr) (σ : Session) :
    ((compileExpression catalog options e).runIn σ).1 =
      ((Registry.build catalog e.records).runIn σ).1 >>= expressionIn options e := by
  rw [compileExpression_runIn]
  rcases (Registry.build catalog e.records).runIn σ with ⟨_ | g, σ'⟩ <;> rfl

/-- The record that stops a registration has not been published before. -/
theorem find_of_error {r : RecordType} {e : Error} (h : σ.schemaFor catalog r = .error e) :
    σ.cache.find? r = none := by
  unfold Session.schemaFor at h
  cases hr : σ.cache.find? r with
  | none => rfl
  | some schema => rw [hr] at h; cases h

/-- A computation that leaves the schemas of a registration behind. -/
theorem SessionM.Publishes.ofRun {α : Type} {m : SessionM α} {records : List RecordType}
    {rest : Registry → Except Error α} {g : Registry} {stop : Option (RecordType × Error)}
    (registers : Registers (σ.schemaFor catalog) {} records g stop)
    (result : (m.runIn σ).1 = g.outcome stop >>= rest)
    (cache : (m.runIn σ).2.cache = (σ.registered g).cache)
    (events : (m.runIn σ).2.published = (σ.registered g).published) :
    m.Publishes catalog records rest σ g stop := by
  refine ⟨registers, result, by rw [cache]; rfl, ?_, ?_⟩
  · rw [events]
    exact published_publishing σ _
  · rintro r e rfl
    obtain ⟨herror, hnew⟩ := registers.stopped
    refine ⟨result, ?_⟩
    rw [cache, find_registered hnew]
    exact find_of_error herror

/-- Compiling publishes what registering the records does; nothing but an event comes after that. -/
theorem compile_keeps (catalog : Catalog) (options : Options) (s : Statement) (σ : Session) :
    ((compile catalog options s).runIn σ).2.cache =
        ((Registry.build catalog s.records).runIn σ).2.cache ∧
      ((compile catalog options s).runIn σ).2.published =
        ((Registry.build catalog s.records).runIn σ).2.published := by
  rw [compile_runIn]
  rcases (Registry.build catalog s.records).runIn σ with ⟨e | g, σ'⟩
  · exact ⟨rfl, rfl⟩
  · dsimp only
    cases checkedPieces options.dialect g s with
    | error e => exact ⟨rfl, rfl⟩
    | ok ps => exact ⟨rfl, published_event σ' options s _⟩

theorem compileExpression_keeps (catalog : Catalog) (options : Options) (e : Expr) (σ : Session) :
    ((compileExpression catalog options e).runIn σ).2 =
      ((Registry.build catalog e.records).runIn σ).2 := by
  rw [compileExpression_runIn]
  rcases (Registry.build catalog e.records).runIn σ with ⟨_ | g, σ'⟩ <;> rfl

theorem compile_publishes (catalog : Catalog) (options : Options) (s : Statement) (σ : Session) :
    ∃ g stop,
      (compile catalog options s).Publishes catalog s.records (compiledIn options s) σ g stop := by
  obtain ⟨g, stop, hreg, hrun⟩ := build_registers catalog σ s.records
  obtain ⟨hcache, hpublished⟩ := compile_keeps catalog options s σ
  have hresult := compile_result catalog options s σ
  rw [hrun] at hcache hpublished hresult
  exact ⟨g, stop, .ofRun hreg hresult hcache hpublished⟩

theorem compileExpression_publishes (catalog : Catalog) (options : Options) (e : Expr) (σ : Session) :
    ∃ g stop, (compileExpression catalog options e).Publishes catalog e.records
      (expressionIn options e) σ g stop := by
  obtain ⟨g, stop, hreg, hrun⟩ := build_registers catalog σ e.records
  have hkeeps := compileExpression_keeps catalog options e σ
  have hresult := compileExpression_result catalog options e σ
  rw [hrun] at hkeeps hresult
  exact ⟨g, stop, .ofRun hreg hresult (congrArg Session.cache hkeeps)
    (congrArg Session.published hkeeps)⟩

/-- In sessions that tell the same schemas a computation gives the same result. -/
theorem SessionM.Publishes.result_eq {α : Type} {m : SessionM α} {records : List RecordType}
    {rest : Registry → Except Error α} {g g' : Registry} {stop stop' : Option (RecordType × Error)}
    (h : m.Publishes catalog records rest σ g stop) (h' : m.Publishes catalog records rest σ' g' stop')
    (hfor : ∀ r, σ.schemaFor catalog r = σ'.schemaFor catalog r) : (m.runIn σ).1 = (m.runIn σ').1 := by
  obtain ⟨rfl, rfl⟩ := h.registers.unique (h'.registers.congr hfor)
  rw [h.result, h'.result]

/-! ### Sessions grow -/

/-- A session with more schemas, each of them new, built from the catalog and told by an event. -/
structure Session.Grows (catalog : Catalog) (σ σ' : Session) (new : List (RecordType × RecordSchema)) :
    Prop where
  entries : σ'.cache.entries = σ.cache.entries ++ new
  events : σ'.published = σ.published ++ new.map (·.1)
  unpublished : ∀ p ∈ new, σ.cache.find? p.1 = none
  built : ∀ p ∈ new, RecordSchema.build catalog p.1 = .ok p.2
  nodup : (new.map (·.1)).Nodup

/-- A record that is not published has the schema that is built. -/
theorem schemaFor_unpublished {r : RecordType} (hr : σ.cache.find? r = none) :
    σ.schemaFor catalog r = RecordSchema.build catalog r := by
  unfold Session.schemaFor
  rw [hr]

/-- What a registration publishes is new. -/
theorem SessionM.Publishes.grows {α : Type} {m : SessionM α} {records : List RecordType}
    {rest : Registry → Except Error α} {g : Registry} {stop : Option (RecordType × Error)}
    (h : m.Publishes catalog records rest σ g stop) :
    σ.Grows catalog (m.runIn σ).2 (σ.unpublished g) := by
  have hnew : ∀ p ∈ σ.unpublished g, p ∈ g.schemas ∧ σ.cache.find? p.1 = none := by
    intro p hp
    obtain ⟨hmem, hnone⟩ := List.mem_filter.1 hp
    exact ⟨hmem, Option.isNone_iff_eq_none.1 hnone⟩
  refine ⟨h.entries, h.events, fun p hp => (hnew p hp).2, fun p hp => ?_, ?_⟩
  · obtain ⟨hmem, hnone⟩ := hnew p hp
    rw [← schemaFor_unpublished hnone]
    exact (h.registers.schemas_found p hmem).resolve_left List.not_mem_nil
  · have hnodup : g.records.Nodup := h.registers.fresh List.nodup_nil
    have hsub : ((σ.unpublished g).map (·.1)).Sublist g.records := List.filter_sublist.map _
    exact hnodup.sublist hsub

/-- A schema that is asked for is published unless it was before. -/
theorem schemaOf_grows (catalog : Catalog) (σ : Session) (r : RecordType) :
    ∃ new, σ.Grows catalog ((schemaOf catalog r).runIn σ).2 new := by
  have hsame : σ.Grows catalog σ [] :=
    ⟨by simp, by simp, List.forall_mem_nil _, List.forall_mem_nil _, List.nodup_nil⟩
  rw [schemaOf_runIn]
  cases hr : σ.schemaFor catalog r with
  | error e => exact ⟨[], hsame⟩
  | ok schema =>
    dsimp only
    split
    · rename_i hnone
      have hnew : σ.cache.find? r = none := Option.isNone_iff_eq_none.1 hnone
      rw [schemaFor_unpublished hnew] at hr
      exact ⟨[(r, schema)], rfl, published_publishing σ _, List.forall_mem_singleton.2 hnew,
        List.forall_mem_singleton.2 hr, by simp⟩
    · exact ⟨[], hsame⟩

/-- Every operation makes a session grow. -/
theorem next_grows (catalog : Catalog) (σ : Session) (o : Operation) :
    ∃ new, σ.Grows catalog (o.next catalog σ) new := by
  cases o with
  | get r => exact schemaOf_grows catalog σ r
  | compile options s =>
    obtain ⟨g, stop, h⟩ := compile_publishes catalog options s σ
    exact ⟨_, h.grows⟩
  | compileExpression options e =>
    obtain ⟨g, stop, h⟩ := compileExpression_publishes catalog options e σ
    exact ⟨_, h.grows⟩

/-- No operation takes a schema away. -/
theorem after_grows (steps : List (Catalog × Operation)) :
    ∀ σ : Session, σ.cache.entries <+: (σ.after steps).cache.entries := by
  induction steps with
  | nil => exact fun σ => List.prefix_refl _
  | cons step steps ih =>
    intro σ
    obtain ⟨new, hnew⟩ := next_grows step.1 σ step.2
    have hfirst : σ.cache.entries <+: (step.2.next step.1 σ).cache.entries := by
      rw [hnew.entries]
      exact List.prefix_append _ _
    exact hfirst.trans (ih _)

/-- A published schema is found again after more operations. -/
theorem find_after {r : RecordType} {schema : RecordSchema} (steps : List (Catalog × Operation))
    (h : σ.cache.find? r = some schema) : (σ.after steps).cache.find? r = some schema := by
  obtain ⟨more, hmore⟩ := after_grows steps σ
  show (σ.after steps).cache.entries.lookup r = some schema
  have hfind : σ.cache.entries.lookup r = some schema := h
  rw [← hmore, List.lookup_append, hfind]
  rfl

/-- The log tells of every published schema once, in the order of the schemas. -/
structure Session.Told (σ : Session) : Prop where
  events : σ.published = σ.cache.records
  nodup : σ.cache.records.Nodup

theorem Session.Grows.told {new : List (RecordType × RecordSchema)} (h : σ.Grows catalog σ' new)
    (hσ : σ.Told) : σ'.Told := by
  have hrecords : σ'.cache.records = σ.cache.records ++ new.map (·.1) := by
    rw [PublishedSchemas.records, h.entries, List.map_append]
    rfl
  refine ⟨?_, ?_⟩
  · rw [h.events, hσ.events, hrecords]
  · rw [hrecords, List.nodup_append]
    refine ⟨hσ.nodup, h.nodup, ?_⟩
    rintro r hr _ hq rfl
    obtain ⟨p, hp, rfl⟩ := List.mem_map.1 hq
    obtain ⟨q, hq, hqp⟩ := List.mem_map.1 hr
    have hne := List.lookup_eq_none_iff.1 (h.unpublished p hp) q hq
    rw [hqp] at hne
    simp at hne

theorem after_told (steps : List (Catalog × Operation)) :
    ∀ σ : Session, σ.Told → (σ.after steps).Told := by
  induction steps with
  | nil => exact fun σ hσ => hσ
  | cons step steps ih =>
    intro σ hσ
    obtain ⟨new, hnew⟩ := next_grows step.1 σ step.2
    exact ih _ (hnew.told hσ)

/-! ### Histories with one catalog -/

/-- What is published is built from the catalog. -/
theorem Session.Grows.builtFrom {new : List (RecordType × RecordSchema)} (h : σ.Grows catalog σ' new)
    (hσ : σ.cache.BuiltFrom catalog) : σ'.cache.BuiltFrom catalog := by
  intro p hp
  rw [h.entries] at hp
  rcases List.mem_append.1 hp with hold | hnew
  · exact hσ p hold
  · exact h.built p hnew

theorem after_built {steps : List (Catalog × Operation)} (hsteps : ∀ step ∈ steps, step.1 = catalog) :
    ∀ σ : Session, σ.cache.BuiltFrom catalog → (σ.after steps).cache.BuiltFrom catalog := by
  induction steps with
  | nil => exact fun σ hσ => hσ
  | cons step steps ih =>
    intro σ hσ
    obtain ⟨now, o⟩ := step
    obtain ⟨hnow, hrest⟩ := List.forall_mem_cons.1 hsteps
    obtain rfl : now = catalog := hnow
    obtain ⟨new, hnew⟩ := next_grows now σ o
    exact ih hrest _ (hnew.builtFrom hσ)

/-- A history with one catalog publishes what is built from it. -/
theorem ofHistory_built {steps : List (Catalog × Operation)}
    (hsteps : ∀ step ∈ steps, step.1 = catalog) : (Session.ofHistory steps).cache.BuiltFrom catalog :=
  after_built hsteps {} (List.forall_mem_nil _)

theorem ofHistory_map_built (catalog : Catalog) (operations : List Operation) :
    (Session.ofHistory (operations.map (catalog, ·))).cache.BuiltFrom catalog :=
  ofHistory_built (List.forall_mem_map.2 fun _ _ => rfl)

/-- With one catalog every schema that a session tells is the one that is built. -/
theorem schemaFor_ofHistory {steps : List (Catalog × Operation)}
    (hsteps : ∀ step ∈ steps, step.1 = catalog) (r : RecordType) :
    (Session.ofHistory steps).schemaFor catalog r = ({} : Session).schemaFor catalog r :=
  schemaFor_built (ofHistory_built hsteps) r

/-! ### Published schemas stay -/

/-- After any operations, with records declared anew at any time: a published schema is given out
unchanged by all that follows, and no schema goes away. The log tells of every published schema once, in
order. A schema that can not be built is not published, and the session stays as it is. A statement or
an expression to compile publishes the schemas of its records as far as they are registered, in the
order of registration, whether it compiles or not. If nothing is declared anew, it compiles as it does
in an empty session. -/
theorem history_writeOnce (steps : List (Catalog × Operation)) :
    (∀ r schema more catalog, (Session.ofHistory steps).cache.find? r = some schema →
      (schemaOf catalog r).runIn ((Session.ofHistory steps).after more) =
        (.ok schema, (Session.ofHistory steps).after more)) ∧
    (∀ more, (Session.ofHistory steps).cache.entries <+:
      ((Session.ofHistory steps).after more).cache.entries) ∧
    (Session.ofHistory steps).published = (Session.ofHistory steps).cache.records ∧
    (Session.ofHistory steps).cache.records.Nodup ∧
    (∀ catalog r e, ((schemaOf catalog r).runIn (Session.ofHistory steps)).1 = .error e →
      (Session.ofHistory steps).cache.find? r = none ∧
        ((schemaOf catalog r).runIn (Session.ofHistory steps)).2 = Session.ofHistory steps) ∧
    (∀ catalog options s, ∃ g stop, (compile catalog options s).Publishes catalog s.records
      (compiledIn options s) (Session.ofHistory steps) g stop) ∧
    (∀ catalog options e, ∃ g stop, (compileExpression catalog options e).Publishes catalog e.records
      (expressionIn options e) (Session.ofHistory steps) g stop) ∧
    ∀ catalog, (∀ step ∈ steps, step.1 = catalog) →
      (∀ options s, ((compile catalog options s).runIn (Session.ofHistory steps)).1 =
        ((compile catalog options s).runIn {}).1) ∧
      ∀ options e, ((compileExpression catalog options e).runIn (Session.ofHistory steps)).1 =
        ((compileExpression catalog options e).runIn {}).1 := by
  have told : (Session.ofHistory steps).Told := after_told steps {} ⟨rfl, List.nodup_nil⟩
  refine ⟨?found, fun more => after_grows more _, told.events, told.nodup, ?failed, ?statement,
    ?expression, ?alone⟩
  case found =>
    intro r schema more catalog hr
    exact schemaOf_published (find_after more hr)
  case failed =>
    intro catalog r e he
    rw [schemaOf_runIn] at he ⊢
    cases hr : (Session.ofHistory steps).schemaFor catalog r with
    | error _ => exact ⟨find_of_error hr, rfl⟩
    | ok schema => rw [hr] at he; cases he
  case statement => exact fun catalog options s => compile_publishes catalog options s _
  case expression => exact fun catalog options e => compileExpression_publishes catalog options e _
  case alone =>
    intro catalog hsteps
    refine ⟨fun options s => ?_, fun options e => ?_⟩
    · obtain ⟨g, stop, h⟩ := compile_publishes catalog options s (Session.ofHistory steps)
      obtain ⟨g', stop', h'⟩ := compile_publishes catalog options s {}
      exact h.result_eq h' (schemaFor_ofHistory hsteps)
    · obtain ⟨g, stop, h⟩ := compileExpression_publishes catalog options e (Session.ofHistory steps)
      obtain ⟨g', stop', h'⟩ := compileExpression_publishes catalog options e {}
      exact h.result_eq h' (schemaFor_ofHistory hsteps)

/-- The bookshop with novels in another table, and with authors who have one field twice. -/
def renamedShop : Catalog :=
  bookshop.redeclare
    [(novel, { typeName := "Novel", table := some "tales", fields := [numberDescriptor "id" true none] }),
      (author,
        { typeName := "Author",
          fields := [numberDescriptor "id" true none, numberDescriptor "id" true none] })]

/-- Novels keep the table that they have been published with, authors are not published, and a statement
on novels compiles as in an empty session. -/
theorem renamedShop_writeOnce :
    ∃ schema, (Session.ofHistory [(bookshop, .get novel)]).cache.find? novel = some schema ∧
      schema.table = some "novels" ∧
      (schemaOf renamedShop novel).runIn
          ((Session.ofHistory [(bookshop, .get novel)]).after [(renamedShop, .get review)]) =
        (.ok schema, (Session.ofHistory [(bookshop, .get novel)]).after [(renamedShop, .get review)]) ∧
      ((schemaOf renamedShop author).runIn (Session.ofHistory [(bookshop, .get novel)])).1 =
        .error (.invalidSchema "Author" (.duplicateField "id")) ∧
      (Session.ofHistory [(bookshop, .get novel)]).cache.find? author = none ∧
      ((compile bookshop {} (.select { record := novel })).runIn
          (Session.ofHistory [(bookshop, .get novel)])).1 =
        ((compile bookshop {} (.select { record := novel })).runIn {}).1 := by
  obtain ⟨hfound, -, -, -, hfailed, -, -, halone⟩ := history_writeOnce [(bookshop, .get novel)]
  have hget : (schemaOf bookshop novel).runIn {} =
      (.ok ((bookshop.descriptor novel).numbersSchema novel),
        ({} : Session).publishing [(novel, (bookshop.descriptor novel).numbersSchema novel)]) := by
    rfl
  have hhistory : Session.ofHistory [(bookshop, .get novel)] =
      ({} : Session).publishing [(novel, (bookshop.descriptor novel).numbersSchema novel)] :=
    congrArg Prod.snd hget
  have hnovel : (Session.ofHistory [(bookshop, .get novel)]).cache.find? novel =
      some ((bookshop.descriptor novel).numbersSchema novel) := by
    rw [hhistory]
    rfl
  have hauthor : ((schemaOf renamedShop author).runIn (Session.ofHistory [(bookshop, .get novel)])).1 =
      .error (.invalidSchema "Author" (.duplicateField "id")) := by
    rw [hhistory]
    rfl
  refine ⟨_, hnovel, rfl, hfound novel _ _ renamedShop hnovel, hauthor, (hfailed _ _ _ hauthor).1, ?_⟩
  exact (halone bookshop (by simp)).1 {} (.select { record := novel })

end RecordSql
