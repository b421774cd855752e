import RecordSql.Event
import RecordSql.Schema.Build

/-!
# Sessions

A session keeps the schemas that have been built and the log of what has happened. A schema is published
once and never changes; a failed build publishes nothing.

- `PublishedSchemas`: the published schemas in the order of their publication.
- `SessionM`: computations that may fail and keep what they have published all the same.
- `schemaOf`: the published schema of a record, built on first demand.
-/

namespace RecordSql

/-- The published schemas, in the order of their publication. -/
structure PublishedSchemas where
  entries : List (RecordType × RecordSchema) := []

namespace PublishedSchemas

/-- The published schema of a record. -/
def find? (c : PublishedSchemas) (record : RecordType) : Option RecordSchema :=
  c.entries.lookup record

/-- Adds a schema after the ones before it. -/
def publish (c : PublishedSchemas) (record : RecordType) (schema : RecordSchema) : PublishedSchemas :=
  ⟨c.entries ++ [(record, schema)]⟩

/-- The number of published schemas. -/
def size (c : PublishedSchemas) : Nat :=
  c.entries.length

/-- The records with a published schema. -/
def records (c : PublishedSchemas) : List RecordType :=
  c.entries.map (·.1)

end PublishedSchemas

/-- The state of a session. -/
structure Session where
  cache : PublishedSchemas := {}
  log : List Event := []

/-- Computations in a session; a failure keeps the state reached so far. -/
abbrev SessionM := ExceptT Error (StateM Session)

/-- Reports an event. -/
def report (e : Event) : SessionM Unit :=
  modify fun s => { s with log := s.log ++ [e] }

/-- The published schema of a record; on first demand it is built from the catalog and published. -/
def schemaOf (catalog : Catalog) (record : RecordType) : SessionM RecordSchema := do
  match (← get).cache.find? record with
  | some schema => return schema
  | none =>
    let schema ← RecordSchema.build catalog record
    modify fun s => { s with cache := s.cache.publish record schema }
    report (.schemaPublished record)
    return schema

end RecordSql
