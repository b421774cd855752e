import RecordSql.Json.Document
import RecordSql.Text.Numeral

/-!
# Reading documents

- `Document.parse?`: the document that a text stands for. A number without fraction and exponent that
  fits 64 bits stays whole, any other becomes the nearest binary word.

Every reader returns what follows the part it has read.
-/

namespace RecordSql.Json

open RecordSql.Decimal RecordSql.Text

/-- Blanks between tokens. -/
def isJsonBlank (c : Char) : Bool :=
  c = ' ' || c = '\n' || c = '\r' || c = '\t'

/-- The text after leading blanks. -/
def skipBlanks (cs : List Char) : List Char :=
  cs.dropWhile isJsonBlank

/-- The rest after a fixed beginning. -/
def expect? : List Char → List Char → Option (List Char)
  | [], cs => some cs
  | _ :: _, [] => none
  | e :: es, c :: cs => if e = c then expect? es cs else none

/-- Four hexadecimal digits. -/
def codeUnit? : List Char → Option (Nat × List Char)
  | a :: b :: c :: d :: rest => (hexadecimal? [a, b, c, d]).map fun n => (n, rest)
  | _ => none

/-- A character written by its code units: one, or a pair of surrogates. -/
def escapedChar? (cs : List Char) : Option (Char × List Char) :=
  match codeUnit? cs with
  | none => none
  | some (high, rest) =>
    if 0xD800 ≤ high && high < 0xDC00 then
      match rest with
      | '\\' :: 'u' :: rest =>
        match codeUnit? rest with
        | some (low, rest) =>
          if 0xDC00 ≤ low && low < 0xE000 then
            some (Char.ofNat (0x10000 + (high - 0xD800) * 0x400 + (low - 0xDC00)), rest)
          else none
        | none => none
      | _ => none
    else if 0xDC00 ≤ high && high < 0xE000 then none
    else some (Char.ofNat high, rest)

/-- The character after a backslash, other than the one written by code units. -/
def simpleEscape? (c : Char) : Option Char :=
  if c = '"' then some '"'
  else if c = '\\' then some '\\'
  else if c = '/' then some '/'
  else if c = 'b' then some '\x08'
  else if c = 'f' then some '\x0c'
  else if c = 'n' then some '\n'
  else if c = 'r' then some '\r'
  else if c = 't' then some '\t'
  else none

/-- The inside of a string up to its closing quote. `acc` holds what has been read, in reverse. -/
def stringBody? : Nat → List Char → List Char → Option (String × List Char)
  | 0, _, _ => none
  | _ + 1, _, [] => none
  | fuel + 1, acc, c :: cs =>
    if c = '"' then some (String.ofList acc.reverse, cs)
    else if c = '\\' then
      match cs with
      | 'u' :: rest =>
        match escapedChar? rest with
        | some (e, rest) => stringBody? fuel (e :: acc) rest
        | none => none
      | e :: rest =>
        match simpleEscape? e with
        | some e => stringBody? fuel (e :: acc) rest
        | none => none
      | [] => none
    else if c.val < 0x20 then none
    else stringBody? fuel (c :: acc) cs

/-- The digits and the exponent of a number's fraction and exponent parts. -/
def fraction? (cs : List Char) : Option (List Char × List Char) :=
  match cs with
  | '.' :: rest =>
    let (ds, rest) := spanDigits rest
    if ds.isEmpty then none else some (ds, rest)
  | _ => some ([], cs)

/-- The exponent part of a number; nothing read leaves `none` inside. -/
def exponent? (cs : List Char) : Option (Option Int × List Char) :=
  let read (negative : Bool) (cs : List Char) : Option (Option Int × List Char) :=
    let (ds, rest) := spanDigits cs
    (decimal? ds).map fun n => (some (if negative then -(n : Int) else n), rest)
  let signed (cs : List Char) :=
    match cs with
    | '-' :: rest => read true rest
    | '+' :: rest => read false rest
    | _ => read false cs
  match cs with
  | 'e' :: rest => signed rest
  | 'E' :: rest => signed rest
  | _ => some (none, cs)

/-- The number with the given parts. An exponent far outside of the range of words is cut short. -/
def numberOf (negative : Bool) (whole places : List Char) (exponent : Option Int) : Option Number :=
  match decimal? whole with
  | none => none
  | some n =>
    if places.isEmpty && exponent.isNone && (n != 0 || !negative) then
      let value : Int := if negative then -(n : Int) else n
      if -(twoTo 63) ≤ value && value < twoTo 64 then some (.integer value)
      else some (.float (Binary64.ofDecimal negative n 0))
    else
      match decimal? (whole ++ places) with
      | none => none
      | some mantissa =>
        let exponent := exponent.getD 0 - places.length
        let bounded := max (min exponent 400) (-(places.length + whole.length + 400 : Int))
        some (.float (Binary64.ofDecimal negative mantissa bounded))

/-- A number in front of the text. -/
def number? (cs : List Char) : Option (Number × List Char) := do
  let (negative, cs) := match cs with
    | '-' :: rest => (true, rest)
    | _ => (false, cs)
  let (whole, cs) := spanDigits cs
  if whole.isEmpty || (whole.head? == some '0' && whole.length != 1) then none
  let (places, cs) ← fraction? cs
  let (exponent, cs) ← exponent? cs
  let n ← numberOf negative whole places exponent
  return (n, cs)

mutual

/-- A document in front of the text. -/
def document? : Nat → List Char → Option (Document × List Char)
  | 0, _ => none
  | fuel + 1, cs =>
    match skipBlanks cs with
    | '"' :: rest => (stringBody? fuel [] rest).map fun (s, rest) => (.string s, rest)
    | '[' :: rest =>
      match skipBlanks rest with
      | ']' :: rest => some (.array [], rest)
      | _ => (items? fuel rest).map fun (ds, rest) => (.array ds, rest)
    | '\x7b' :: rest =>
      match skipBlanks rest with
      | '\x7d' :: rest => some (.object [], rest)
      | _ => (members? fuel rest).map fun (ms, rest) => (.ofMembers ms, rest)
    | 'n' :: rest => (expect? "ull".toList rest).map fun rest => (.null, rest)
    | 't' :: rest => (expect? "rue".toList rest).map fun rest => (.bool true, rest)
    | 'f' :: rest => (expect? "alse".toList rest).map fun rest => (.bool false, rest)
    | cs => (number? cs).map fun (n, rest) => (.number n, rest)

/-- One item or more up to the closing bracket. -/
def items? : Nat → List Char → Option (List Document × List Char)
  | 0, _ => none
  | fuel + 1, cs =>
    match document? fuel cs with
    | none => none
    | some (d, rest) =>
      match skipBlanks rest with
      | ',' :: rest => (items? fuel rest).map fun (ds, rest) => (d :: ds, rest)
      | ']' :: rest => some ([d], rest)
      | _ => none

/-- One member or more up to the closing brace. -/
def members? : Nat → List Char → Option (List (String × Document) × List Char)
  | 0, _ => none
  | fuel + 1, cs =>
    match skipBlanks cs with
    | '"' :: rest =>
      match stringBody? fuel [] rest with
      | none => none
      | some (key, rest) =>
        match skipBlanks rest with
        | ':' :: rest =>
          match document? fuel rest with
          | none => none
          | some (d, rest) =>
            match skipBlanks rest with
            | ',' :: rest => (members? fuel rest).map fun (ms, rest) => ((key, d) :: ms, rest)
            | '\x7d' :: rest => some ([(key, d)], rest)
            | _ => none
        | _ => none
    | _ => none

end

/-- The document that the whole text stands for. A nested document costs two units, one for the list
that holds it, and takes at least one character, so twice the length of the text is enough. -/
def Document.parse? (s : String) : Option Document :=
  match document? (2 * s.length + 2) s.toList with
  | some (d, rest) => if (skipBlanks rest).isEmpty then some d else none
  | none => none

end RecordSql.Json
