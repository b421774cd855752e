import RecordSql.Session

/-!
# Registries

Before a statement is written, the records it refers to are registered, each one followed by the records
it shadows. The records that own tables are abbreviated `t0`, `t1`, … in that order.

- `Registry`: the registered schemas and the table owners.
- `Registry.build`: registers records depth first, every one once, also when shadows form circles.
-/

namespace RecordSql

/-- The records of a statement with their schemas, and the owners of tables, both in the order of
registration. -/
structure Registry where
  schemas : List (RecordType × RecordSchema) := []
  tables : List RecordType := []

namespace Registry

/-- Whether a record is registered. -/
def contains (g : Registry) (r : RecordType) : Bool :=
  g.schemas.any fun p => p.1 == r

/-- The registered records. -/
def records (g : Registry) : List RecordType :=
  g.schemas.map (·.1)

/-- Registers one record; an owner of a table takes the next abbreviation. -/
def add (g : Registry) (r : RecordType) (schema : RecordSchema) : Registry where
  schemas := g.schemas ++ [(r, schema)]
  tables := if schema.table.isSome then g.tables ++ [r] else g.tables

@[simp] theorem contains_add (g : Registry) (r q : RecordType) (s : RecordSchema) :
    (g.add r s).contains q = (g.contains q || r == q) := by
  simp [contains, add]

/-- How many of the known records are not registered yet. -/
def missing (g : Registry) (known : List RecordType) : Nat :=
  known.countP fun r => !g.contains r

theorem missing_add_le (g : Registry) (known : List RecordType) (r : RecordType)
    (s : RecordSchema) : (g.add r s).missing known ≤ g.missing known := by
  apply List.countP_mono_left
  intro q _ h
  simp only [contains_add, Bool.not_or, Bool.and_eq_true] at h
  exact h.1

theorem missing_add_lt (g : Registry) {known : List RecordType} {r : RecordType}
    (s : RecordSchema) (hk : r ∈ known) (hr : g.contains r = false) :
    (g.add r s).missing known < g.missing known := by
  induction known with
  | nil => simp at hk
  | cons q qs ih =>
    have hle := missing_add_le g qs r s
    have hq : (if (!(g.add r s).contains q) = true then 1 else 0) ≤
        if (!g.contains q) = true then 1 else 0 := by
      rw [contains_add]
      cases g.contains q <;> simp
      split <;> omega
    unfold missing at *
    rw [List.countP_cons, List.countP_cons]
    rcases List.mem_cons.1 hk with rfl | hm
    · have hnew : ((g.add r s).contains r) = true := by simp
      rw [hnew, hr]
      simp only [Bool.not_true, Bool.false_eq_true, ↓reduceIte, Bool.not_false]
      omega
    · have := ih hm
      omega

/-- Registers the pending records in order, each new one followed by its shadows. Only known records,
declared or published ones, have shadows, which bounds the work. -/
def extend (catalog : Catalog) (known : List RecordType) (g : Registry) :
    List RecordType → SessionM Registry
  | [] => pure g
  | r :: pending =>
    if _ : g.contains r = true then extend catalog known g pending
    else do
      let schema ← schemaOf catalog r
      if _ : r ∈ known then
        extend catalog known (g.add r schema) (schema.shadows ++ pending)
      else extend catalog known (g.add r schema) pending
termination_by pending => (g.missing known, pending.length)
decreasing_by
  · exact Prod.Lex.right _ (by simp)
  · exact Prod.Lex.left _ _ (missing_add_lt g schema ‹_› (Bool.eq_false_iff.2 ‹_›))
  · exact Prod.Lex.right' _ (missing_add_le g known r schema) (by simp)

/-- The registry of some records, in their order. -/
def build (catalog : Catalog) (records : List RecordType) : SessionM Registry := do
  let known := catalog.declared.map (·.1) ++ (← get).cache.records
  extend catalog known {} records

/-- The schema of a registered record. -/
def schema (g : Registry) (r : RecordType) : Except Error RecordSchema :=
  match g.schemas.lookup r with
  | some s => .ok s
  | none => .error (.unknownRecord r)

/-- The record whose table backs a record. -/
def tableOf (g : Registry) (r : RecordType) : Except Error RecordType := do
  match (← g.schema r).tableOwner with
  | some t => return t
  | none => throw (.computedWithoutFrom r)

/-- The number in the abbreviation of the table behind a record. -/
def abbreviation (g : Registry) (r : RecordType) : Except Error Nat := do
  let t ← g.tableOf r
  match g.tables.idxOf? t with
  | some n => return n
  | none => throw (.unknownRecord t)

/-- The name of a record's own table. -/
def tableName (g : Registry) (r : RecordType) : Except Error String := do
  match (← g.schema r).table with
  | some t => return t
  | none => throw (.computedWithoutFrom r)

/-- The column name of a field. -/
def columnName (g : Registry) (r : RecordType) (field : String) : Except Error String := do
  let f ← (← g.schema r).getField field
  return f.columnName

end Registry

/-- How statements write an abbreviation. -/
def abbreviationText (n : Nat) : String :=
  "t" ++ toString n

theorem abbreviationText_toList (n : Nat) : (abbreviationText n).toList = 't' :: Nat.toDigits 10 n := by
  simp [abbreviationText, String.toList_append]

/-- The texts that are reserved for abbreviations: a `t` and digits. -/
def isReservedAlias (s : String) : Bool :=
  match s.toList with
  | 't' :: digits => !digits.isEmpty && digits.all Char.isDigit
  | _ => false

end RecordSql
