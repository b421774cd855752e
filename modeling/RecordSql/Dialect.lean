import RecordSql.Text.Case

/-!
# Dialects

- `Dialect`: the two databases that statements are written for.
- `Dialect.quote`: an identifier as the dialect writes it.
- `Dialect.parse?`: the dialect of a name, in any case.
-/

namespace RecordSql

open RecordSql.Text

/-- A database whose SQL is written. -/
inductive Dialect
  | mySql
  | postgreSql
  deriving DecidableEq, Repr, Inhabited

namespace Dialect

/-- The name of a dialect. -/
def name : Dialect → String
  | .mySql => "mysql"
  | .postgreSql => "postgresql"

/-- A double quote is written twice inside of double quotes. -/
def doubleQuotes : List Char → List Char
  | [] => []
  | c :: cs => if c = '"' then '"' :: '"' :: doubleQuotes cs else c :: doubleQuotes cs

/-- An identifier: as it stands for MySQL, in double quotes for PostgreSQL. -/
def quote : Dialect → String → String
  | .mySql, ident => ident
  | .postgreSql, ident => String.ofList ('"' :: doubleQuotes ident.toList ++ ['"'])

/-- Only PostgreSQL lets a delete give its table an alias. -/
def deleteTakesAlias : Dialect → Bool
  | .mySql => false
  | .postgreSql => true

/-- The dialect of a lower-case name. -/
def ofLowerName? (s : String) : Option Dialect :=
  if s = "mysql" then some .mySql
  else if s = "postgres" ∨ s = "postgresql" ∨ s = "pg" then some .postgreSql
  else none

/-- The dialect of a name, or the name in lower case if it is none. -/
def parse (s : String) : Except String Dialect :=
  match ofLowerName? (lowerCase s) with
  | some d => .ok d
  | none => .error (lowerCase s)

/-- What is said of a name that is no dialect. -/
def unknownMessage (name : String) : String :=
  "unknown dialect: " ++ name

end Dialect

end RecordSql
