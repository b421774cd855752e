import RecordSql.Descriptor
import RecordSql.Source.Parse
import RecordSql.Source.Syntax

/-!
# Kinds of values from types

- `typeText`: a type as text, with single blanks between its tokens.
- `fieldType`: the kind of values that a field of a type stores.
-/

namespace RecordSql.Derive

open RecordSql RecordSql.Source

/-! ### Text of a type -/

/-- Marks of several characters in types. -/
def typeMarks : List String := ["::", "->", "..."]

/-- Marks of several characters in expressions. -/
def expressionMarks : List String :=
  ["<<=", ">>=", "..=", "...", "::", "->", "=>", "==", "!=", "<=", ">=", "&&", "||", "+=", "-=", "*=",
    "/=", "%=", "^=", "&=", "|=", "<<", ">>", ".."]

/-- Words in the brackets of a group. -/
def bracketed (d : Delimiter) (content : String) : String :=
  match d with
  | .parenthesis => "(" ++ content ++ ")"
  | .bracket => "[" ++ content ++ "]"
  | .brace => if content.isEmpty then "\x7b \x7d" else "\x7b " ++ content ++ " \x7d"

/-- The words of some trees. Marks of one character stand alone in types; behind a semicolon there is an
expression, and what a macro is given stays as it is written. -/
def wordsAtMost : Nat → (inExpression : Bool) → List Tree → List String
  | 0, _, _ => []
  | _ + 1, _, [] => []
  | n + 1, e, ts@(t :: rest) =>
    match t, rest with
    | .punct '\'' true _, .ident i _ :: rest => ("'" ++ i.text) :: wordsAtMost n e rest
    | .punct '!' _ _, .group d content s :: rest =>
      "!" :: (Tree.group d content s).render :: wordsAtMost n e rest
    | .group d content _, rest =>
      bracketed d (" ".intercalate (wordsAtMost n e content)) :: wordsAtMost n e rest
    | .punct ';' _ _, rest => ";" :: wordsAtMost n true rest
    | t, rest =>
      match (if e then expressionMarks else typeMarks).find? fun m => atOp m ts with
      | some m => m :: wordsAtMost n e (rest.drop (m.length - 1))
      | none => t.render :: wordsAtMost n e rest

/-- A type as text, with single blanks between its tokens. -/
def typeText (tokens : List Tree) : String :=
  " ".intercalate (wordsAtMost (Tree.sizeList tokens + 1) false tokens)

/-! ### Kinds of values -/

/-- The first type among the arguments of a segment. -/
def firstArgument (s : Ident × Option (List Ty)) : Option Ty :=
  s.2.bind List.head?

/-- The type that an optional one wraps. -/
def optionalContent : Ty → Option Ty
  | .path _ _ segments => segments.getLast?.bind fun s =>
    if s.1.isWord "Option" then firstArgument s else none
  | .other _ => none

/-- Kinds of values by the name of a type. -/
def namedTypes : List (String × FieldType) :=
  [("bool", .boolean), ("i8", .tinyInt), ("u8", .tinyInt), ("i16", .smallInt), ("u16", .smallInt),
    ("i32", .integer), ("u32", .integer), ("i64", .bigInt), ("u64", .bigInt), ("isize", .bigInt),
    ("usize", .bigInt), ("f32", .float), ("f64", .double), ("String", .text), ("str", .text),
    ("NaiveDate", .date), ("NaiveDateTime", .timestamp), ("DateTime", .timestamp)]

/-- The kind of values of a type that is not optional: by the last name of its path, or else a kind of its
own. Only a value that is named with a module is a document. -/
def plainFieldType : Ty → FieldType
  | .other tokens => .custom (typeText tokens)
  | .path _ _ segments =>
    match segments.getLast? with
    | none => .custom ""
    | some s =>
      let name := s.1.text
      match namedTypes.lookup name with
      | some type => type
      | none =>
        if name = "Value" && 1 < segments.length then .json
        else if name = "Vec" && ((firstArgument s).any fun t => t.isWord "u8") then .bytes
        else .custom name

/-- The kind of values that a field of a type stores; an optional type stores what it wraps. -/
def fieldType (t : Ty) : FieldType :=
  plainFieldType ((optionalContent t).getD t)

end RecordSql.Derive
