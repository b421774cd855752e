import RecordSql.Key

/-!
# Expressions and selects

Expressions and selects contain each other: an expression may ask whether a sub-select has rows.

- `Expr`, `Condition`, `Select` and the clauses of a select.
- `Expr.junction?`, `Expr.inList?`: constructors that refuse empty lists.
-/

namespace RecordSql

/-- A reference to a field. With no record it is a bare name; a qualifier addresses the field through the
alias of a join. -/
structure FieldRef where
  record : Option RecordType
  field : String
  qualifier : Option String := none
  deriving DecidableEq, Repr

/-- The unqualified field of a record. -/
def FieldRef.of (record : RecordType) (field : String) : FieldRef :=
  { record := some record, field := field }

/-- Binary operators. -/
inductive Operator
  | eq
  | notEq
  | lt
  | ltEq
  | gt
  | gtEq
  | like
  | add
  | sub
  | mul
  | div
  | bitAnd
  | bitOr
  deriving DecidableEq, Repr

namespace Operator

/-- The operator's symbol. -/
def text : Operator → String
  | .eq => "="
  | .notEq => "<>"
  | .lt => "<"
  | .ltEq => "<="
  | .gt => ">"
  | .gtEq => ">="
  | .like => "like"
  | .add => "+"
  | .sub => "-"
  | .mul => "*"
  | .div => "/"
  | .bitAnd => "&"
  | .bitOr => "|"

/-- All operators. -/
def all : List Operator :=
  [.eq, .notEq, .lt, .ltEq, .gt, .gtEq, .like, .add, .sub, .mul, .div, .bitAnd, .bitOr]

/-- The operator of a symbol. -/
def parse? (s : String) : Option Operator :=
  all.find? fun o => o.text = s

end Operator

/-- The kinds of joins. -/
inductive JoinKind
  | inner
  | left
  | right
  deriving DecidableEq, Repr

/-- The keywords of a join. -/
def JoinKind.text : JoinKind → String
  | .inner => "inner join"
  | .left => "left outer join"
  | .right => "right outer join"

/-- The directions of an order. -/
inductive Direction
  | ascending
  | descending
  deriving DecidableEq, Repr

/-- The keyword of a direction. -/
def Direction.text : Direction → String
  | .ascending => "asc"
  | .descending => "desc"

/-- How many rows to skip and how many to take. -/
structure Limit where
  offset : UInt64
  count : UInt64
  deriving DecidableEq, Repr

/-- A definition gives a computed field its value; an override replaces a concrete field in the
projection and in key conditions. -/
inductive DefinitionKind
  | definition
  | override
  deriving DecidableEq, Repr

mutual

/-- An expression. -/
inductive Expr
  | column (c : FieldRef)
  | literal (text : String)
  | value (v : Value)
  | call (name : String) (args : List Expr)
  | epoch (e : Expr)
  | binary (op : Operator) (l r : Expr)
  | junction (op : Junction) (operands : List Expr)
  | not (e : Expr)
  | isNull (c : FieldRef)
  | inList (c : FieldRef) (values : List Value)
  | exists (s : Select)
  | fullText (record : RecordType) (index : String) (query : String)

/-- The restriction of a statement to rows. -/
inductive Condition
  | expr (e : Expr)
  | key (k : Key)
  | multiKey (k : MultiKey)

/-- A join of another record's table. With an alias the table is known by it instead of its
abbreviation. -/
structure Join where
  record : RecordType
  condition : Expr
  kind : JoinKind := .inner
  tableAlias : Option String := none

/-- A term of an order. -/
structure OrderTerm where
  expr : Expr
  direction : Direction

/-- An expression that stands for a field of the selected record. -/
structure Definition where
  field : String
  expr : Expr
  kind : DefinitionKind

/-- A select over one record. No fields select all of them; `sources` replaces the table of the
record. -/
structure Select where
  record : RecordType
  fields : List String := []
  sources : Option (List RecordType) := none
  joins : List Join := []
  condition : Option Condition := none
  groupBy : Option (List Expr) := none
  orderBy : Option (List OrderTerm) := none
  limit : Option Limit := none
  forUpdate : Bool := false
  definitions : List Definition := []

end

namespace Expr

/-- Conditions joined by an operator; an empty list is refused. -/
def junction? (op : Junction) (operands : List Expr) : Except Error Expr :=
  if operands.isEmpty then .error (.emptyOperator op) else .ok (.junction op operands)

/-- A choice of values for a column; an empty one is refused. -/
def inList? (c : FieldRef) (values : List Value) : Except Error Expr :=
  if values.isEmpty then .error (.emptyInList c.field) else .ok (.inList c values)

/-- Whether the expression is written infix, so that it needs parentheses as an operand. -/
def isInfix : Expr → Bool
  | .binary .. | .junction .. => true
  | _ => false

/-- That a column has a value: `is null` for null, an equation for any other. -/
def equals (c : FieldRef) (v : Value) : Expr :=
  if v.isNull then .isNull c else .binary .eq (.column c) (.value v)

end Expr

/-- That all columns have their values. One pair stands alone; none at all are refused. -/
def Condition.ofPairs (pairs : List (FieldRef × Value)) : Except Error Condition :=
  match pairs with
  | [(c, v)] => .ok (.expr (.equals c v))
  | _ => (Expr.junction? .and (pairs.map fun p => .equals p.1 p.2)).map .expr

/-! ### Referenced records -/

/-- The record of a column. -/
def FieldRef.records (c : FieldRef) : List RecordType :=
  c.record.toList

mutual

/-- The records that an expression refers to, in the order of their mention. -/
def Expr.records : Expr → List RecordType
  | .column c | .isNull c | .inList c _ => c.records
  | .literal _ | .value _ => []
  | .call _ args => exprsRecords args
  | .epoch e | .not e => e.records
  | .binary _ l r => l.records ++ r.records
  | .junction _ operands => exprsRecords operands
  | .exists s => s.records
  | .fullText record _ _ => [record]

/-- The records of several expressions. -/
def exprsRecords : List Expr → List RecordType
  | [] => []
  | e :: es => e.records ++ exprsRecords es

/-- The records that a condition refers to. -/
def Condition.records : Condition → List RecordType
  | .expr e => e.records
  | .key k => [k.record]
  | .multiKey k => [k.record]

/-- The records of joins, each before those of its condition. -/
def joinsRecords : List Join → List RecordType
  | [] => []
  | ⟨record, condition, _, _⟩ :: js => record :: condition.records ++ joinsRecords js

/-- The records of the terms of an order. -/
def orderRecords : List OrderTerm → List RecordType
  | [] => []
  | ⟨e, _⟩ :: ts => e.records ++ orderRecords ts

/-- The records of definitions. -/
def definitionsRecords : List Definition → List RecordType
  | [] => []
  | ⟨_, e, _⟩ :: ds => e.records ++ definitionsRecords ds

/-- The records that a select refers to: its own, those of its definitions, sources and joins, and those
of the other clauses. -/
def Select.records : Select → List RecordType
  | ⟨record, _, sources, joins, condition, groupBy, orderBy, _, _, definitions⟩ =>
    record :: definitionsRecords definitions ++ sources.getD [] ++ joinsRecords joins ++
      (match condition with
        | some c => c.records
        | none => []) ++
      (match groupBy with
        | some es => exprsRecords es
        | none => []) ++
      (match orderBy with
        | some ts => orderRecords ts
        | none => [])

end

/-- The records of a list, each at its first mention. -/
def firstMentions (records : List RecordType) : List RecordType :=
  records.foldl (fun seen r => if seen.contains r then seen else seen ++ [r]) []

end RecordSql
