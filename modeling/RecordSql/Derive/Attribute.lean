import RecordSql.Descriptor
import RecordSql.Source.Grammar.Item
import RecordSql.Source.Meta

/-!
# Attributes of records and fields

- `DeriveError`: why no descriptor can be derived, and its wording.
- `recordAttributes`: what the attributes in front of a record say.
- `fieldAttributes`: what the attributes in front of a field say.
-/

namespace RecordSql.Derive

open RecordSql RecordSql.Source RecordSql.Text

/-! ### Errors -/

/-- The lists that have entries of their own. -/
inductive Section
  | record
  | field
  | index
  | unique
  | fullText
  | generator
  | computed
  | column
  | generated
  deriving DecidableEq, Repr

/-- How messages name a list. -/
def Section.text : Section → String
  | .record => "depot record"
  | .field => "depot field"
  | .index => "index"
  | .unique => "unique"
  | .fullText => "full_text"
  | .generator => "table_generator"
  | .computed => "computed"
  | .column => "column"
  | .generated => "generated"

/-- Why no descriptor can be derived. -/
inductive DeriveError
  | noStructure
  | noNamedFields
  | noList (path : String)
  | valueForList (path : String)
  | malformed (fault : ReadFault)
  | unknownEntry (list : Section)
  | unnamed (list : Section)
  | noIndexFields
  | noUniqueColumns
  | unknownStrategy
  | tableOfComputed
  | transientWithAttributes
  deriving DecidableEq, Repr

/-- Wording of why no descriptor can be derived. -/
def DeriveError.message : DeriveError → String
  | .noStructure => "PersistentRecord can only be derived for structs"
  | .noNamedFields => "PersistentRecord can only be derived for structs with named fields"
  | .noList path => "expected attribute arguments in parentheses: #[" ++ path ++ "(...)]"
  | .valueForList path => "expected parentheses: #[" ++ path ++ "(...)]"
  | .malformed f => f.message
  | .unknownEntry l => "unknown " ++ l.text ++ " attribute"
  | .unnamed .fullText => "full_text index needs a name"
  | .unnamed l => l.text ++ " needs a name"
  | .noIndexFields => "index needs at least one field"
  | .noUniqueColumns => "unique constraint needs at least one column"
  | .unknownStrategy =>
    "strategy must be one of \"table\", \"sequence\", \"identity\", \"auto\""
  | .tableOfComputed => "a computed record can not declare a table"
  | .transientWithAttributes => "a transient field can not carry other depot attributes"

/-! ### What attributes say -/

/-- A mark that something is computed, with the path of the record that backs it. -/
structure ComputedMark where
  required : Bool := true
  definition : Option String := none
  shadow : Option (List Ident) := none
  deriving DecidableEq, Repr

/-- What the attributes in front of a record say. -/
structure RecordAttributes where
  table : Option String := none
  indexes : List Index := []
  unique : List (List String) := []
  fullText : List FullTextIndex := []
  generators : List TableGenerator := []
  computed : Option ComputedMark := none
  deriving DecidableEq, Repr

/-- What the attributes in front of a field say. -/
structure FieldAttributes where
  id : Bool := false
  transient : Bool := false
  column : Option Column := none
  generated : Option GeneratedValue := none
  computed : Option ComputedMark := none
  deriving DecidableEq, Repr

/-! ### Reading lists -/

/-- Reads a beginning of a list, or says why nothing can be derived from it. -/
abbrev Reader := StateT (List Tree) (Except DeriveError)

instance : MonadLift ListReader Reader where
  monadLift p := fun ts =>
    match p.run ts with
    | .ok r => .ok r
    | .error f => .error (.malformed f)

/-- Reads all of some trees. -/
def within {α : Type} (content : List Tree) (p : Reader α) : Reader α := do
  match p.run content with
  | .ok (a, _) => return a
  | .error e => throw e

/-- How an entry changes what has been read, given its path. -/
abbrev Entry (σ : Type) := PlainPath → σ → Reader σ

/-- Reads at most so many entries with commas between them. -/
def entries {σ : Type} (entry : Entry σ) : Nat → σ → Reader σ
  | 0, s => return s
  | n + 1, s => do
    let path ← ListReader.path
    let s ← entry path s
    if (← get).isEmpty then return s
    else
      ListReader.mark ","
      if (← get).isEmpty then return s else entries entry n s

/-- Reads a list in parentheses, which has at least one entry. -/
def nestedList {σ : Type} (entry : Entry σ) (s : σ) : Reader σ := do
  let content ← ListReader.parentheses
  within content (entries entry (content.length + 1) s)

/-- Reads a value behind an equals sign. -/
def assigned {α : Type} (p : ListReader α) : Reader α := do
  ListReader.mark "="
  p

/-- Reads a string behind an equals sign. -/
def text : Reader String := assigned ListReader.string

/-- Reads a truth value behind an equals sign; without one it is true. -/
def flag : Reader Bool := do
  if atOp "=" (← get) then assigned ListReader.truth else return true

/-- Reads strings in parentheses. -/
def texts : Reader (List String) := do
  let content ← ListReader.parentheses
  within content (ListReader.strings (content.length + 1))

/-- Whether an entry is a word alone. -/
def isBare (ts : List Tree) : Bool := ts.isEmpty || atOp "," ts

/-- Reads the arguments of a segment if there are any. A word for a module around has none. -/
def skipArguments (g : Grammar) (segment : Ident) : ListReader Unit := do
  let ts ← get
  if Grammar.atArguments false ts && !moduleWords.any segment.isWord then
    match (do let _ ← op? "::"; g.arguments : Parse (List Ty)).run ts with
    | some (_, rest) => set rest
    | none => ListReader.missing "identifier"

/-- Reads at most so many segments of the path of a record; their arguments do not count. A double colon
in front of parentheses belongs to what follows. -/
def recordSegments (g : Grammar) : Nat → ListReader (List Ident)
  | 0 => ListReader.missing "identifier"
  | n + 1 => do
    let i ← ListReader.segment
    skipArguments g i
    let ts ← get
    if atOp "::" ts && !atGroup .parenthesis (behind (behind ts)) then
      ListReader.mark "::"
      return i :: (← recordSegments g n)
    else return [i]

/-- Reads the path of a record. -/
def recordPath : ListReader (List Ident) := do
  if atOp "::" (← get) then ListReader.mark "::"
  let ts ← get
  recordSegments (Grammar.upToDepth (Tree.sizeList ts + 1)) (ts.length + 1)

/-! ### Entries -/

/-- An entry of what is computed. -/
def computedEntry : Entry ComputedMark := fun path c => do
  if path.isWord "required" then return { c with required := ← flag }
  else if path.isWord "definition" then return { c with definition := some (← text) }
  else if path.isWord "shadow_of" then return { c with shadow := some (← assigned recordPath) }
  else throw (.unknownEntry .computed)

/-- Reads what is computed; the word alone says nothing more. -/
def computedMark : Reader ComputedMark := do
  if isBare (← get) then return {} else nestedList computedEntry {}

/-- An index as it is being read. -/
structure PartialIndex where
  name : Option String := none
  fields : List String := []
  unique : Bool := false

/-- An entry of an index. -/
def indexEntry : Entry PartialIndex := fun path i => do
  if path.isWord "name" then return { i with name := some (← text) }
  else if path.isWord "fields" then return { i with fields := ← texts }
  else if path.isWord "unique" then return { i with unique := ← flag }
  else throw (.unknownEntry .index)

/-- Reads an index, which needs a name and fields. -/
def index : Reader Index := do
  let i ← nestedList indexEntry {}
  match i.name with
  | none => throw (.unnamed .index)
  | some name =>
    if i.fields.isEmpty then throw .noIndexFields else return ⟨name, i.fields, i.unique⟩

/-- An entry of a unique constraint. -/
def uniqueEntry : Entry (List String) := fun path _ => do
  if path.isWord "columns" then texts else throw (.unknownEntry .unique)

/-- Reads a unique constraint, which needs columns. -/
def uniqueConstraint : Reader (List String) := do
  let columns ← nestedList uniqueEntry []
  if columns.isEmpty then throw .noUniqueColumns else return columns

/-- An entry of a full-text index. -/
def fullTextEntry : Entry PartialIndex := fun path i => do
  if path.isWord "name" then return { i with name := some (← text) }
  else if path.isWord "fields" then return { i with fields := ← texts }
  else throw (.unknownEntry .fullText)

/-- Reads a full-text index, which needs a name. -/
def fullTextIndex : Reader FullTextIndex := do
  let i ← nestedList fullTextEntry {}
  match i.name with
  | none => throw (.unnamed .fullText)
  | some name => return ⟨name, i.fields⟩

/-- A key generator as it is being read. -/
structure PartialGenerator where
  name : Option String := none
  table : Option String := none
  pkColumn : Option String := none
  valueColumn : Option String := none
  pkValue : Option String := none

/-- An entry of a key generator. -/
def generatorEntry : Entry PartialGenerator := fun path g => do
  if path.isWord "name" then return { g with name := some (← text) }
  else if path.isWord "table" then return { g with table := some (← text) }
  else if path.isWord "pk_column" then return { g with pkColumn := some (← text) }
  else if path.isWord "value_column" then return { g with valueColumn := some (← text) }
  else if path.isWord "pk_value" then return { g with pkValue := some (← text) }
  else throw (.unknownEntry .generator)

/-- Reads a key generator, which needs a name. -/
def tableGenerator : Reader TableGenerator := do
  let g ← nestedList generatorEntry {}
  match g.name with
  | none => throw (.unnamed .generator)
  | some name =>
    let plain := TableGenerator.named name
    return ⟨name, g.table.getD plain.table, g.pkColumn.getD plain.pkColumn,
      g.valueColumn.getD plain.valueColumn, g.pkValue.getD plain.pkValue⟩

/-- An entry in front of a record. -/
def recordEntry : Entry RecordAttributes := fun path r => do
  if path.isWord "table" then return { r with table := some (← text) }
  else if path.isWord "index" then return { r with indexes := r.indexes ++ [← index] }
  else if path.isWord "unique" then return { r with unique := r.unique ++ [← uniqueConstraint] }
  else if path.isWord "full_text" then return { r with fullText := r.fullText ++ [← fullTextIndex] }
  else if path.isWord "table_generator" then
    return { r with generators := r.generators ++ [← tableGenerator] }
  else if path.isWord "computed" then return { r with computed := some (← computedMark) }
  else throw (.unknownEntry .record)

/-- An entry of a column. -/
def columnEntry : Entry Column := fun path c => do
  if path.isWord "name" then return { c with name := some (← text) }
  else if path.isWord "unique" then return { c with unique := ← flag }
  else if path.isWord "nullable" then return { c with nullable := ← flag }
  else if path.isWord "definition" then return { c with definition := some (← text) }
  else if path.isWord "length" then return { c with length := ← assigned ListReader.natural }
  else if path.isWord "default" then return { c with default := some (← text) }
  else throw (.unknownEntry .column)

/-- An entry of a generated field. -/
def generatedEntry : Entry GeneratedValue := fun path v => do
  if path.isWord "strategy" then
    match Generation.parse? (← text) with
    | some strategy => return { v with strategy := strategy }
    | none => throw .unknownStrategy
  else if path.isWord "generator" then return { v with generator := some (← text) }
  else throw (.unknownEntry .generated)

/-- Reads how a field is generated; the word alone leaves it to the database. -/
def generatedValue : Reader GeneratedValue := do
  if isBare (← get) then return { strategy := .auto }
  else nestedList generatedEntry { strategy := .auto }

/-- An entry in front of a field. -/
def fieldEntry : Entry FieldAttributes := fun path f => do
  if path.isWord "id" then return { f with id := true }
  else if path.isWord "transient" then return { f with transient := true }
  else if path.isWord "column" then return { f with column := some (← nestedList columnEntry {}) }
  else if path.isWord "generated" then return { f with generated := some (← generatedValue) }
  else if path.isWord "computed" then return { f with computed := some (← computedMark) }
  else throw (.unknownEntry .field)

/-! ### Attributes -/

/-- The attribute that says what a record or a field is. -/
def attributeName : String := "depot"

/-- What an attribute adds to what has been read. A list may be empty. -/
def readAttribute {σ : Type} (entry : Entry σ) (s : σ) (a : Attribute) : Except DeriveError σ :=
  match a.input with
  | .absent => .error (.noList a.path.text)
  | .value => .error (.valueForList a.path.text)
  | .list _ tokens =>
    if tokens.isEmpty then .ok s
    else ((entries entry (tokens.length + 1) s).run tokens).map Prod.fst

/-- What the attributes of records and fields among some attributes say. -/
def readAttributes {σ : Type} (entry : Entry σ) (s : σ) (attributes : List Attribute) :
    Except DeriveError σ :=
  (attributes.filter fun a => a.path.isWord attributeName).foldlM (readAttribute entry) s

/-- What the attributes in front of a record say. -/
def recordAttributes (attributes : List Attribute) : Except DeriveError RecordAttributes :=
  readAttributes recordEntry {} attributes

/-- What the attributes in front of a field say. -/
def fieldAttributes (attributes : List Attribute) : Except DeriveError FieldAttributes :=
  readAttributes fieldEntry {} attributes

end RecordSql.Derive
