import RecordSql.Place

/-!
# Errors

Why an expression, a schema, a statement or an execution is rejected. `Error.message` is the one place
that words them.
-/

namespace RecordSql

/-- Operators that join any number of conditions. -/
inductive Junction
  | and
  | or
  deriving DecidableEq, Repr

/-- The keyword of a junction. -/
def Junction.text : Junction → String
  | .and => "and"
  | .or => "or"

/-- The clauses that a select has at most once. -/
inductive SingleClause
  | condition
  | source
  | groupBy
  | orderBy
  | limit
  | forUpdate
  deriving DecidableEq, Repr

/-- The keywords of a clause. -/
def SingleClause.text : SingleClause → String
  | .condition => "where"
  | .source => "from"
  | .groupBy => "group by"
  | .orderBy => "order by"
  | .limit => "limit"
  | .forUpdate => "for update"

/-- Why a key does not fit a primary key. -/
inductive KeyFault
  | noPrimaryKey
  | notKeyField (field : String)
  | notFixedField (field : String)
  | missingValue (field : String)
  | otherInstance (record : RecordType)
  deriving DecidableEq, Repr

/-- Wording of a key fault. -/
def KeyFault.text : KeyFault → String
  | .noPrimaryKey => "record has no primary key"
  | .notKeyField f => "`" ++ f ++ "` is not a primary key field"
  | .notFixedField f => "`" ++ f ++ "` is not a fixed primary key field"
  | .missingValue f => "missing value for `" ++ f ++ "`"
  | .otherInstance r => "instance is a " ++ r.ticked

/-- Why a field can not be defined or assigned. -/
inductive DefinitionFault
  | overridesComputed
  | definesConcrete
  | assignsComputed
  deriving DecidableEq, Repr

/-- Wording of a definition fault. -/
def DefinitionFault.text : DefinitionFault → String
  | .overridesComputed => "a field override needs a concrete field"
  | .definesConcrete => "a field definition needs a computed field"
  | .assignsComputed => "computed fields can not be assigned"

/-- Why a schema does not allow what is declared or asked of it. -/
inductive SchemaFault
  | shadowsItself
  | shadowsComputed (shadow : RecordType)
  | duplicateField (field : String)
  | severalGenerated
  | generatedOffKey (field : String)
  | generatedNotNumeric (field : String)
  | generatorUnnamed (field : String)
  | unknownGenerator (generator : String)
  | unknownIndexField (field : String)
  | unknownFullTextField (field : String)
  | noFullTextIndex (index : String)
  | insertsComputed
  | updatesComputed
  | deletesComputed
  deriving DecidableEq, Repr

/-- Wording of a schema fault. -/
def SchemaFault.text : SchemaFault → String
  | .shadowsItself => "record shadows itself"
  | .shadowsComputed r => "can not shadow computed record " ++ r.ticked
  | .duplicateField f => "duplicate field `" ++ f ++ "`"
  | .severalGenerated => "only one field may declare a generated value"
  | .generatedOffKey f =>
    "generated value on `" ++ f ++ "` requires it to be the single primary key field"
  | .generatedNotNumeric f => "generated value on non-numeric field `" ++ f ++ "`"
  | .generatorUnnamed f => "table strategy on `" ++ f ++ "` names no generator"
  | .unknownGenerator g => "unknown table generator `" ++ g ++ "`"
  | .unknownIndexField f => "index references unknown field `" ++ f ++ "`"
  | .unknownFullTextField f => "full-text index references unknown field `" ++ f ++ "`"
  | .noFullTextIndex i => "no full-text index named `" ++ i ++ "`"
  | .insertsComputed => "computed records can not be inserted"
  | .updatesComputed => "computed records can not be updated"
  | .deletesComputed => "computed records can not be deleted from"

/-- Why a field can not shadow the field of its name in another record. -/
inductive ShadowFault
  | computedRecord (shadow : RecordType)
  | noField (shadow : RecordType) (field : String)
  | shadowingField (shadow : RecordType) (field : String)
  | computedField (shadow : RecordType) (field : String)
  deriving DecidableEq, Repr

/-- Wording of a shadow fault. -/
def ShadowFault.text : ShadowFault → String
  | .computedRecord r => r.ticked ++ " is a computed record"
  | .noField r f => r.ticked ++ " has no field `" ++ f ++ "`"
  | .shadowingField r f => "`" ++ r.name ++ "." ++ f ++ "` is itself a shadowing field"
  | .computedField r f => "`" ++ r.name ++ "." ++ f ++ "` is a computed field"

/-- What is left out on purpose. -/
inductive Unsupported
  | emptyUpdate (record : RecordType)
  | sequenceKey (record field : String)
  | columnType (record field : String)
  | queryOf (kind : StatementKind)
  | updateOfSelect
  deriving DecidableEq, Repr

/-- Wording of what is left out. -/
def Unsupported.text : Unsupported → String
  | .emptyUpdate r => "update of " ++ r.ticked ++ " assigns no fields"
  | .sequenceKey r f => "sequence key generation on `" ++ r ++ "." ++ f ++ "`"
  | .columnType r f =>
    "no column type for `" ++ r ++ "." ++ f ++ "`; declare an explicit definition"
  | .queryOf k => "execute_query needs a select, got " ++ k.text
  | .updateOfSelect => "execute_update can not run a select"

/-- The causes of failure. Where a record is given by a string, that is the name its schema declares. -/
inductive Error
  | emptyInList (column : String)
  | emptyOperator (operator : Junction)
  | duplicateClause (clause : SingleClause)
  | unboundRecord (record : RecordType) (place : Place) (via : Option String)
  | unknownAlias (name : String) (place : Place)
  | aliasCollision (name : String) (place : Place)
  | unknownRecord (record : RecordType)
  | unknownField (record field : String)
  | nestedSelect (record : RecordType)
  | missingWhere (record : RecordType)
  | missingValue (record : RecordType) (field : String)
  | keyMismatch (record : String) (fault : KeyFault)
  | computedWithoutFrom (record : RecordType)
  | invalidDefinition (record : RecordType) (field : String) (fault : DefinitionFault)
  | noDefinition (record : RecordType) (field : String)
  | invalidSchema (record : String) (fault : SchemaFault)
  | invalidShadow (record field : String) (fault : ShadowFault)
  | unsupported (feature : Unsupported)
  | circularDefinition
  | execution (reason : String)
  deriving DecidableEq, Repr

namespace Error

/-- The wording of an error. -/
def message : Error → String
  | .emptyInList c => "in() condition on `" ++ c ++ "` needs at least one value"
  | .emptyOperator o => "`" ++ o.text ++ "` needs at least one operand"
  | .duplicateClause c => "query can't contain multiple " ++ c.text ++ " clauses"
  | .unboundRecord r p via =>
    let through := match via with
      | some a => " (via alias `" ++ a ++ "`)"
      | none => ""
    p.text ++ through ++ " references record " ++ r.ticked ++ " which is not bound by from or join"
  | .unknownAlias a p => p.text ++ " references table alias `" ++ a ++ "` which no join declares"
  | .aliasCollision a p =>
    p.text ++ " reuses table alias `" ++ a ++ "`; give the join an alias of its own"
  | .unknownRecord r => "record " ++ r.ticked ++ " was never registered with this statement"
  | .unknownField r f =>
    "unknown field on persistent record [record=" ++ r ++ ", field=" ++ f ++ "]"
  | .nestedSelect r => "can not nest selects on the same persistent record " ++ r.ticked
  | .missingWhere r => "refusing to update " ++ r.ticked ++ " without a where clause"
  | .missingValue r f => "no value supplied for column `" ++ f ++ "` of " ++ r.ticked
  | .keyMismatch r fault => "key does not match primary key of `" ++ r ++ "`: " ++ fault.text
  | .computedWithoutFrom r =>
    "query on computed record " ++ r.ticked ++ " needs a from override"
  | .invalidDefinition r f fault =>
    "invalid field definition for `" ++ r.name ++ "." ++ f ++ "`: " ++ fault.text
  | .noDefinition r f =>
    "persistent field has no definition [record=" ++ r.name ++ ", field=" ++ f ++ "]"
  | .invalidSchema r fault => "invalid schema for `" ++ r ++ "`: " ++ fault.text
  | .invalidShadow r f fault => "invalid shadow on `" ++ r ++ "." ++ f ++ "`: " ++ fault.text
  | .unsupported u => "unsupported: " ++ u.text
  | .circularDefinition => "field definitions refer to each other in a circle"
  | .execution reason => "execution failed: " ++ reason

end Error

end RecordSql
