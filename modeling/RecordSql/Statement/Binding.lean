import RecordSql.Registry
import RecordSql.Statement

/-!
# Binding of references

Every column, key and full-text match of a statement has to refer to a record that is bound where it
stands: by its own select or by a statement around it, never by a sub-select.

- `Scope`: what one select, update or delete binds.
- `Scopes`: a statement's scope followed by those around it.
- `openScope`: the scope of a select, unless two of its names collide.
- `verify`: whether every reference of a statement is bound; the first that is not is the error.
-/

namespace RecordSql

/-- What a statement binds: the record it reads or writes, the records that columns may name, the owners
of tables written under their abbreviation, and the aliases of joins. -/
structure Scope where
  owner : RecordType
  records : List RecordType
  tables : List RecordType := []
  aliases : List (String × RecordType) := []
  deriving DecidableEq, Repr

/-- A scope followed by those around it. -/
abbrev Scopes := List Scope

namespace Scopes

/-- Whether columns may name a record. -/
def binds (scopes : Scopes) (r : RecordType) : Bool :=
  scopes.any fun s => s.records.contains r

/-- The record that an alias stands for. -/
def alias? (scopes : Scopes) (name : String) : Option RecordType :=
  scopes.findSome? fun s => s.aliases.lookup name

/-- Whether a table is already written under its abbreviation. -/
def claims (scopes : Scopes) (t : RecordType) : Bool :=
  scopes.any fun s => s.tables.contains t

/-- Whether a statement on the record is one of these. -/
def owns (scopes : Scopes) (r : RecordType) : Bool :=
  scopes.any fun s => s.owner == r

end Scopes

/-! ### Opening a scope -/

/-- Binds a record and the record that it shadows. -/
def bindRecord (g : Registry) (scope : Scope) (r : RecordType) : Except Error Scope := do
  let schema ← g.schema r
  return { scope with records := scope.records ++ r :: schema.shadowOf.toList }

/-- Claims the abbreviation of the table behind a record. A second claim on one table would give two
tables one name. -/
def claimTable (g : Registry) (outer : Scopes) (place : Place) (scope : Scope) (r : RecordType) :
    Except Error Scope := do
  match (← g.schema r).tableOwner with
  | none => return scope
  | some t =>
    if Scopes.claims (scope :: outer) t then
      throw (.aliasCollision (abbreviationText (← g.abbreviation t)) place)
    else return { scope with tables := scope.tables ++ [t] }

/-- Binds a record with its shadow and claims its table. -/
def bindSource (g : Registry) (outer : Scopes) (place : Place) (scope : Scope) (r : RecordType) :
    Except Error Scope := do
  claimTable g outer place (← bindRecord g scope r) r

/-- Binds a join: an alias alone if it has one, else its record and table. -/
def bindJoin (g : Registry) (outer : Scopes) (target : Target) (scope : Scope) (j : Join) :
    Except Error Scope :=
  let place := Place.join j.record target
  match j.tableAlias with
  | none => bindSource g outer place scope j.record
  | some a =>
    if isReservedAlias a || (Scopes.alias? (scope :: outer) a).isSome then
      .error (.aliasCollision a place)
    else .ok { scope with aliases := scope.aliases ++ [(a, j.record)] }

/-- The scope of a statement that binds one record and no table. -/
def ownScope (g : Registry) (r : RecordType) : Except Error Scope :=
  bindRecord g { owner := r, records := [r] } r

/-- The scope of a select. -/
def openScope (g : Registry) (outer : Scopes) (record : RecordType)
    (sources : Option (List RecordType)) (joins : List Join) : Except Error Scope := do
  let target := Target.select record
  let scope ← ownScope g record
  let scope ← match sources with
    | none => claimTable g outer (.whole target) scope record
    | some rs => rs.foldlM (bindSource g outer (.whole target)) scope
  joins.foldlM (bindJoin g outer target) scope

/-! ### Checks -/

/-- A definition supplies a computed value, an override replaces a concrete one. -/
def verifyDefinition (schema : RecordSchema) (record : RecordType) (field : String)
    (kind : DefinitionKind) : Except Error Unit := do
  let f ← schema.getField field
  match kind with
  | .override =>
    if f.isComputed then throw (.invalidDefinition record field .overridesComputed)
  | .definition =>
    if !f.isComputed && !schema.isComputed then
      throw (.invalidDefinition record field .definesConcrete)

/-- All definitions of a select fit their fields. -/
def verifyDefinitions (g : Registry) (record : RecordType) (definitions : List Definition) :
    Except Error Unit := do
  let schema ← g.schema record
  definitions.forM fun d => verifyDefinition schema record d.field d.kind

/-- A record has to be bound. -/
def verifyRecord (scopes : Scopes) (place : Place) (r : RecordType) : Except Error Unit :=
  if scopes.binds r then .ok () else .error (.unboundRecord r place none)

/-- A column without record is free. A qualified one needs an alias that stands for its record, any
other a bound record. -/
def verifyReference (scopes : Scopes) (place : Place) (c : FieldRef) : Except Error Unit :=
  match c.record with
  | none => .ok ()
  | some r =>
    match c.qualifier with
    | none => verifyRecord scopes place r
    | some a =>
      match scopes.alias? a with
      | none => .error (.unknownAlias a place)
      | some bound => if bound = r then .ok () else .error (.unboundRecord r place (some a))

mutual

/-- All references of an expression are bound. -/
def verifyExpr (g : Registry) (scopes : Scopes) (place : Place) : Expr → Except Error Unit
  | .column c | .isNull c | .inList c _ => verifyReference scopes place c
  | .literal _ | .value _ => .ok ()
  | .call _ args => verifyExprs g scopes place args
  | .epoch e | .not e => verifyExpr g scopes place e
  | .binary _ l r => do
    verifyExpr g scopes place l
    verifyExpr g scopes place r
  | .junction _ operands => verifyExprs g scopes place operands
  | .exists s => verifySelect g scopes s
  | .fullText record _ _ => verifyRecord scopes place record

/-- All references of some expressions are bound. -/
def verifyExprs (g : Registry) (scopes : Scopes) (place : Place) : List Expr → Except Error Unit
  | [] => .ok ()
  | e :: es => do
    verifyExpr g scopes place e
    verifyExprs g scopes place es

/-- All references of a condition are bound. -/
def verifyCondition (g : Registry) (scopes : Scopes) (place : Place) :
    Condition → Except Error Unit
  | .expr e => verifyExpr g scopes place e
  | .key k => verifyRecord scopes place k.record
  | .multiKey k => verifyRecord scopes place k.record

/-- All references of definitions are bound. -/
def verifyDefined (g : Registry) (scopes : Scopes) (target : Target) :
    List Definition → Except Error Unit
  | [] => .ok ()
  | ⟨field, e, _⟩ :: ds => do
    verifyExpr g scopes (.definition field target) e
    verifyDefined g scopes target ds

/-- All references of join conditions are bound. -/
def verifyJoins (g : Registry) (scopes : Scopes) (target : Target) : List Join → Except Error Unit
  | [] => .ok ()
  | ⟨record, condition, _, _⟩ :: js => do
    verifyExpr g scopes (.join record target) condition
    verifyJoins g scopes target js

/-- All references of the terms of an order are bound. -/
def verifyOrder (g : Registry) (scopes : Scopes) (place : Place) :
    List OrderTerm → Except Error Unit
  | [] => .ok ()
  | ⟨e, _⟩ :: ts => do
    verifyExpr g scopes place e
    verifyOrder g scopes place ts

/-- A select stands in no select on its own record, its names do not collide, its definitions fit, and
all its references are bound. -/
def verifySelect (g : Registry) (outer : Scopes) : Select → Except Error Unit
  | ⟨record, _, sources, joins, condition, groupBy, orderBy, _, _, definitions⟩ => do
    if outer.owns record then throw (.nestedSelect record)
    let target := Target.select record
    let scope ← openScope g outer record sources joins
    verifyDefinitions g record definitions
    let scopes := scope :: outer
    verifyDefined g scopes target definitions
    verifyJoins g scopes target joins
    match condition with
    | some c => verifyCondition g scopes (.condition target) c
    | none => pure ()
    match groupBy with
    | some es => verifyExprs g scopes (.groupBy target) es
    | none => pure ()
    match orderBy with
    | some ts => verifyOrder g scopes (.orderBy target) ts
    | none => pure ()

end

/-- All references of assignments are bound. -/
def verifyAssignments (g : Registry) (scopes : Scopes) (target : Target)
    (assignments : List (String × Expr)) : Except Error Unit :=
  assignments.forM fun a => verifyExpr g scopes (.assignment a.1 target) a.2

/-- Every reference of a statement is bound. An insert binds values and no references. -/
def verify (g : Registry) : Statement → Except Error Unit
  | .select s => verifySelect g [] s
  | .insert _ => .ok ()
  | .update u => do
    let scope ← ownScope g u.record
    let target := Target.update u.record
    verifyAssignments g [scope] target u.assignments
    match u.condition with
    | some c => verifyCondition g [scope] (.condition target) c
    | none => pure ()
  | .delete d => do
    let scope ← ownScope g d.record
    verifyCondition g [scope] (.condition (.delete d.record)) d.condition

end RecordSql
