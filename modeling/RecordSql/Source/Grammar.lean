import RecordSql.Source.Parse
import RecordSql.Source.Syntax

/-!
# Grammar

Types, expressions, patterns and items contain each other. Each of these is read with a `Grammar` that
says how to read what it contains; `Grammar.step` of the last module puts them together.

- `Grammar`: the readers of everything that may be nested.
- `Form`: what an expression is, as far as this decides what may follow it.
-/

namespace RecordSql.Source

/-- What an expression is, as far as this decides what may follow it: one that ends with a block, a call
of a macro with its brackets, a range, or any other. -/
inductive Form
  | block
  | macroCall (delimiter : Delimiter)
  | range
  | other
  deriving DecidableEq, Repr, Inhabited

/-- The readers of everything that may be nested. A type is read with or without bounds that a plus sign
adds; of a bound it is told whether it names a trait. An expression is read with or without the braces of
a structure; one at the beginning of a statement or a branch ends with its block. -/
structure Grammar where
  type : Bool → Parse Ty
  bound : Parse Bool
  pattern : Parse Unit
  expression : Bool → Parse Form
  boundary : Parse Form
  statements : Parse Unit
  item : Parse Item

namespace Grammar

/-- The grammar that reads nothing. -/
def empty : Grammar where
  type _ := failure
  bound := failure
  pattern := failure
  expression _ := failure
  boundary := failure
  statements := failure
  item := failure

instance : Inhabited Grammar := ⟨empty⟩

end Grammar

end RecordSql.Source
