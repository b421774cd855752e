import RecordSql.Compile
import RecordSql.Proofs.Outcome

/-!
# What compiling does to a session

Compiling registers records, which may publish schemas, and fails or succeeds then without looking at the
session again.

- `SessionM.runIn`: the result of a computation and the session after it.
- `checkedPieces`: the pieces of a statement whose references are bound.
- `compile_runIn`, `compileExpression_runIn`: what compiling comes to, once the records are registered.
- `compile_ok`, `compileExpression_ok`: what has gone before where compiling succeeds.
- `extend_published`: one step of a registration whose record has a published schema.
- `build_register`: published records without shadows are registered without a trace.
-/

namespace RecordSql

/-- The result of a computation that starts in a session, and the session after it. -/
def SessionM.runIn {α : Type} (m : SessionM α) (σ : Session) : Except Error α × Session :=
  m.run.run σ

/-- The pieces of a statement, if its references are bound. -/
def checkedPieces (dialect : Dialect) (g : Registry) (s : Statement) : Rendered := do
  verify g s
  statementPieces dialect g s

/-- A session with one more event. -/
def Session.reported (σ : Session) (e : Event) : Session :=
  { σ with log := σ.log ++ [e] }

/-- The event that tells of a compiled statement. -/
def Compiled.event (options : Options) (s : Statement) (c : Compiled) : Event :=
  .statementCompiled s.kind s.record options.dialect c.parameters.length c.sql

section Running

variable {α β : Type}

theorem runIn_bind (m : SessionM α) (k : α → SessionM β) (σ : Session) :
    (m >>= k : SessionM β).runIn σ =
      match m.runIn σ with
      | (.ok a, σ') => (k a).runIn σ'
      | (.error e, σ') => (.error e, σ') := by
  show (ExceptT.bindCont k (m.run.run σ).1).run (m.run.run σ).2 = match m.run.run σ with
    | (.ok a, σ') => (k a).runIn σ'
    | (.error e, σ') => (.error e, σ')
  obtain ⟨r, σ'⟩ := m.run.run σ
  cases r <;> rfl

theorem runIn_get (σ : Session) : (get : SessionM Session).runIn σ = (.ok σ, σ) := rfl

theorem runIn_liftBind (x : Except Error α) (k : α → SessionM β) (σ : Session) :
    (liftM x >>= k : SessionM β).runIn σ =
      match x with
      | .ok a => (k a).runIn σ
      | .error e => (.error e, σ) := by
  cases x <;> rfl

end Running

/-- A statement is compiled in the session that registering its records leaves behind. -/
theorem compile_runIn (catalog : Catalog) (options : Options) (s : Statement) (σ : Session) :
    (compile catalog options s).runIn σ =
      match (Registry.build catalog s.records).runIn σ with
      | (.error e, σ') => (.error e, σ')
      | (.ok g, σ') =>
        match checkedPieces options.dialect g s with
        | .error e => (.error e, σ')
        | .ok ps =>
          (.ok (Compiled.ofPieces options ps), σ'.reported ((Compiled.ofPieces options ps).event options s)) := by
  rw [compile, runIn_bind]
  rcases (Registry.build catalog s.records).runIn σ with ⟨e | g, σ'⟩
  · rfl
  · show SessionM.runIn (liftM (verify g s) >>= fun _ => _) σ' =
      match verify g s >>= fun _ => statementPieces options.dialect g s with
      | .error e => (.error e, σ')
      | .ok ps =>
        (.ok (Compiled.ofPieces options ps), σ'.reported ((Compiled.ofPieces options ps).event options s))
    rw [runIn_liftBind]
    cases verify g s with
    | error e => rfl
    | ok _ =>
      show SessionM.runIn (liftM (statementPieces options.dialect g s) >>= fun _ => _) σ' = _
      rw [runIn_liftBind, ok_bind]
      cases statementPieces options.dialect g s <;> rfl

/-- An expression is compiled in the session that registering its records leaves behind. -/
theorem compileExpression_runIn (catalog : Catalog) (options : Options) (e : Expr) (σ : Session) :
    (compileExpression catalog options e).runIn σ =
      match (Registry.build catalog e.records).runIn σ with
      | (.error e, σ') => (.error e, σ')
      | (.ok g, σ') => ((freeExprPieces options.dialect g e).map (Compiled.ofPieces options), σ') := by
  rw [compileExpression, runIn_bind]
  rcases (Registry.build catalog e.records).runIn σ with ⟨e | g, σ'⟩
  · rfl
  · show SessionM.runIn (liftM (freeExprPieces options.dialect g e) >>= fun _ => _) σ' =
      ((freeExprPieces options.dialect g e).map (Compiled.ofPieces options), σ')
    rw [runIn_liftBind]
    cases freeExprPieces options.dialect g e <;> rfl

theorem compile_ok {catalog : Catalog} {options : Options} {s : Statement} {σ : Session}
    {c : Compiled} (h : ((compile catalog options s).runIn σ).1 = .ok c) :
    ∃ g σ' ps, (Registry.build catalog s.records).runIn σ = (.ok g, σ') ∧ verify g s = .ok () ∧
      statementPieces options.dialect g s = .ok ps ∧ c = .ofPieces options ps := by
  rw [compile_runIn] at h
  rcases hg : (Registry.build catalog s.records).runIn σ with ⟨e | g, σ'⟩
  · rw [hg] at h
    cases h
  · rw [hg] at h
    dsimp only [checkedPieces] at h
    cases hv : verify g s with
    | error e =>
      rw [hv] at h
      cases h
    | ok _ =>
      rw [hv, ok_bind] at h
      cases hs : statementPieces options.dialect g s with
      | error e =>
        rw [hs] at h
        cases h
      | ok ps =>
        rw [hs] at h
        cases h
        exact ⟨g, σ', ps, rfl, hv, hs, rfl⟩

theorem compileExpression_ok {catalog : Catalog} {options : Options} {e : Expr} {σ : Session}
    {c : Compiled} (h : ((compileExpression catalog options e).runIn σ).1 = .ok c) :
    ∃ g σ' ps, (Registry.build catalog e.records).runIn σ = (.ok g, σ') ∧
      freeExprPieces options.dialect g e = .ok ps ∧ c = .ofPieces options ps := by
  rw [compileExpression_runIn] at h
  rcases hg : (Registry.build catalog e.records).runIn σ with ⟨_ | g, σ'⟩
  · rw [hg] at h
    cases h
  · rw [hg] at h
    dsimp only at h
    cases hs : freeExprPieces options.dialect g e with
    | error _ =>
      rw [hs] at h
      cases h
    | ok ps =>
      rw [hs] at h
      cases h
      exact ⟨g, σ', ps, rfl, hs, rfl⟩

/-! ### Registering records -/

theorem extend_of_contained {catalog : Catalog} {known : List RecordType} {g : Registry} :
    ∀ {pending : List RecordType}, (∀ q ∈ pending, g.contains q = true) →
      Registry.extend catalog known g pending = pure g
  | [], _ => by rw [Registry.extend]
  | q :: pending, h => by
    rw [Registry.extend, dif_pos (h q List.mem_cons_self)]
    exact extend_of_contained fun p hp => h p (List.mem_cons_of_mem q hp)

/-- Without records nothing is registered. -/
theorem build_nil (catalog : Catalog) (σ : Session) : (Registry.build catalog []).runIn σ = (.ok {}, σ) := by
  show SessionM.runIn (Registry.extend catalog _ {} []) σ = _
  rw [extend_of_contained (List.forall_mem_nil _)]
  rfl

/-- A published schema is found again without a trace. -/
theorem schemaOf_published {catalog : Catalog} {σ : Session} {r : RecordType} {schema : RecordSchema}
    (hr : σ.cache.find? r = some schema) : (schemaOf catalog r).runIn σ = (.ok schema, σ) := by
  rw [schemaOf, runIn_bind, runIn_get]
  dsimp only
  rw [hr]
  rfl

/-- A schema that is not published yet is built, and it is published if it can be. -/
theorem schemaOf_unpublished {catalog : Catalog} {σ : Session} {r : RecordType}
    (hr : σ.cache.find? r = none) :
    (schemaOf catalog r).runIn σ =
      match RecordSchema.build catalog r with
      | .error e => (.error e, σ)
      | .ok s => (.ok s, { σ with cache := σ.cache.publish r s }.reported (.schemaPublished r)) := by
  rw [schemaOf, runIn_bind, runIn_get]
  dsimp only
  rw [hr]
  cases RecordSchema.build catalog r <;> rfl

/-- A new record whose schema is published is registered, and its shadows are next. -/
theorem extend_published {catalog : Catalog} {known : List RecordType} {g : Registry} {σ : Session}
    {r : RecordType} {schema : RecordSchema} {pending : List RecordType}
    (hr : σ.cache.find? r = some schema) (hnew : g.contains r = false) (hk : r ∈ known) :
    (Registry.extend catalog known g (r :: pending)).runIn σ =
      (Registry.extend catalog known (g.add r schema) (schema.shadows ++ pending)).runIn σ := by
  have step : Registry.extend catalog known g (r :: pending) =
      schemaOf catalog r >>= fun s =>
        Registry.extend catalog known (g.add r s) (s.shadows ++ pending) := by
    rw [Registry.extend, dif_neg (Bool.eq_false_iff.1 hnew)]
    simp only [dif_pos hk]
  rw [step, runIn_bind, schemaOf_published hr]

theorem mem_of_lookup {κ ν : Type} [BEq κ] [LawfulBEq κ] {l : List (κ × ν)} {k : κ} {v : ν}
    (h : l.lookup k = some v) : (k, v) ∈ l := by
  obtain ⟨before, after, rfl, -⟩ := List.lookup_eq_some_iff.1 h
  exact List.mem_append_right before List.mem_cons_self

/-- Published records are known to a registration. -/
theorem mem_records {c : PublishedSchemas} {r : RecordType} {schema : RecordSchema}
    (h : c.find? r = some schema) : r ∈ c.records :=
  List.mem_map_of_mem (mem_of_lookup h)

/-- The registry with a published record, which is added unless it is registered already. -/
def Registry.register (c : PublishedSchemas) (g : Registry) (r : RecordType) : Registry :=
  if g.contains r then g
  else
    match c.find? r with
    | some schema => g.add r schema
    | none => g

/-- Records without shadows whose schemas are published are registered in their order, and the session
does not change. -/
theorem extend_register {catalog : Catalog} {σ : Session} {known pending : List RecordType}
    (hk : ∀ r ∈ σ.cache.records, r ∈ known)
    (hr : ∀ r ∈ pending, (σ.cache.find? r).map RecordSchema.shadows = some []) :
    ∀ g, (Registry.extend catalog known g pending).runIn σ =
      (.ok (pending.foldl (Registry.register σ.cache) g), σ) := by
  induction pending with
  | nil =>
    intro g
    rw [extend_of_contained (List.forall_mem_nil _)]
    rfl
  | cons r pending ih =>
    intro g
    obtain ⟨hfirst, hrest⟩ := List.forall_mem_cons.1 hr
    obtain ⟨schema, hschema, hshadows⟩ := Option.map_eq_some_iff.1 hfirst
    rw [List.foldl_cons]
    cases hc : g.contains r with
    | true =>
      have step : Registry.extend catalog known g (r :: pending) =
          Registry.extend catalog known g pending := by
        rw [Registry.extend, dif_pos hc]
      rw [step, ih hrest, Registry.register, if_pos hc]
    | false =>
      rw [extend_published hschema hc (hk r (mem_records hschema)), hshadows, List.nil_append,
        ih hrest, Registry.register, if_neg (Bool.eq_false_iff.1 hc), hschema]

/-- Records without shadows whose schemas are published are registered in their order, and the session
does not change. -/
theorem build_register {catalog : Catalog} {σ : Session} {records : List RecordType}
    (hr : ∀ r ∈ records, (σ.cache.find? r).map RecordSchema.shadows = some []) :
    (Registry.build catalog records).runIn σ =
      (.ok (records.foldl (Registry.register σ.cache) {}), σ) :=
  extend_register (fun _ => List.mem_append_right _) hr {}

/-! ### A library -/

/-- Books. -/
def book : RecordType := ⟨"Book"⟩

/-- A field of whole numbers. -/
def numberField (name columnName : String) (id : Bool) (computed : Option Computed) : FieldSchema where
  name := name
  columnName := columnName
  type := .bigInt
  column := {}
  id := id
  generated := none
  computed := computed

/-- A declared field of whole numbers. -/
def numberDescriptor (name : String) (id : Bool) (computed : Option Computed) : FieldDescriptor where
  name := name
  type := .bigInt
  id := id
  computed := computed

/-- The schema of a record that has fields of whole numbers only. -/
def Descriptor.numbersSchema (d : Descriptor) (r : RecordType) : RecordSchema where
  record := r
  typeName := d.typeName
  table := if d.computed.isSome then none else some (d.table.getD d.typeName)
  computed := d.computed
  fields := d.fields.map fun f => numberField f.name f.name f.id f.computed
  keyGenerator := none
  indexes := []
  unique := []
  fullText := []
  generators := []

/-- The schema of books: their number, how many pages they have, and what a select has to define, the
price of a book and what all of them cost. -/
def bookSchema : RecordSchema where
  record := book
  typeName := "Book"
  table := some "books"
  computed := none
  fields :=
    [numberField "id" "id" true none, numberField "pages" "page_count" false none,
      numberField "price" "price" false (some { required := false }),
      numberField "total" "total" false (some { required := false })]
  keyGenerator := none
  indexes := []
  unique := []
  fullText := []
  generators := []

/-- A session in which the schema of books is published. -/
def library : Session where
  cache := ⟨[(book, bookSchema)]⟩

/-- The registry of statements on books alone. -/
def bookRegistry : Registry :=
  ({} : Registry).add book bookSchema

theorem build_library (catalog : Catalog) (more : List RecordType) (h : ∀ q ∈ more, q = book) :
    (Registry.build catalog (book :: more)).runIn library = (.ok bookRegistry, library) := by
  have found : ∀ r ∈ book :: more,
      (library.cache.find? r).map RecordSchema.shadows = some [] := by
    refine List.forall_mem_cons.2 ⟨by decide, fun q hq => ?_⟩
    rw [h q hq]
    decide
  have registered : more.foldl (Registry.register library.cache) bookRegistry = bookRegistry := by
    induction more with
    | nil => rfl
    | cons q more ih =>
      obtain ⟨rfl, hmore⟩ := List.forall_mem_cons.1 h
      exact ih hmore (List.forall_mem_cons.2 ⟨by decide, fun r hr => found r (by simp [hmore r hr])⟩)
  rw [build_register found, List.foldl_cons]
  exact congrArg (fun g => (Except.ok g, library)) registered

end RecordSql
