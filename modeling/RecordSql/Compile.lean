import RecordSql.Statement.Pieces
import RecordSql.Statement.Binding

/-!
# Compiling statements

- `compile`: a statement as SQL text with its parameters. The records it refers to are registered, its
  references are checked, and only then is it written.
- `compileExpression`: a free-standing expression, without a check of references.
-/

namespace RecordSql

/-- How statements are written. -/
structure Options where
  dialect : Dialect := .mySql
  layout : Layout := .compact
  deriving DecidableEq, Repr

/-- SQL text with the values of its placeholders in their order. -/
structure Compiled where
  sql : String
  parameters : Parameters

/-- The compiled form of some pieces. -/
def Compiled.ofPieces (options : Options) (ps : List Piece) : Compiled where
  sql := layout options.dialect options.layout ps
  parameters := RecordSql.parameters ps

/-- A statement as SQL text with its parameters. -/
def compile (catalog : Catalog) (options : Options) (s : Statement) : SessionM Compiled := do
  let registry ← Registry.build catalog s.records
  verify registry s
  let pieces ← statementPieces options.dialect registry s
  let compiled := Compiled.ofPieces options pieces
  report (.statementCompiled s.kind s.record options.dialect compiled.parameters.length compiled.sql)
  return compiled

/-- A free-standing expression. All records it refers to are abbreviated. -/
def compileExpression (catalog : Catalog) (options : Options) (e : Expr) : SessionM Compiled := do
  let registry ← Registry.build catalog e.records
  let pieces ← freeExprPieces options.dialect registry e
  return Compiled.ofPieces options pieces

end RecordSql
