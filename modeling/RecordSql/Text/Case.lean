import RecordSql.Text.CaseTables
import RecordSql.Text.LetterCase

/-!
# Upper and lower case

Full case mapping of Unicode: a character may map to several (`ß` to `SS`), and the capital sigma at
the end of a word maps to the final small sigma.

- `upperCase`, `lowerCase`: the two mappings on strings.
-/

namespace RecordSql.Text

/-- The image of a code point under the first run that holds it, else itself. -/
def shiftBy (shifts : List CaseShift) (c : Char) : Char :=
  match shifts.find? (·.run.contains c.toNat) with
  | some s => Char.ofNat ((c.toNat : Int) + s.offset).toNat
  | none => c

/-- The mapping by expansion where there is one, else by offset. -/
def mapCase (expansions : List (Nat × List Nat)) (shifts : List CaseShift) (c : Char) : List Char :=
  match expansions.lookup c.toNat with
  | some ns => ns.map Char.ofNat
  | none => [shiftBy shifts c]

/-- The upper case of one character. -/
def upperChar (c : Char) : List Char :=
  if c.val < 0x80 then [c.toUpper] else mapCase upperExpansions upperShifts c

/-- The lower case of one character on its own. -/
def lowerChar (c : Char) : List Char :=
  if c.val < 0x80 then [c.toLower] else mapCase lowerExpansions lowerShifts c

/-- Upper case, character by character. -/
def upperCase (s : String) : String :=
  String.ofList (s.toList.flatMap upperChar)

/-- Whether the first character that takes part in casing is cased. -/
def meetsCased (cs : List Char) : Bool :=
  match cs.dropWhile isCaseIgnorable with
  | c :: _ => isCased c
  | [] => false

/-- Lower case of `cs`, given what stands before it in reverse. A capital sigma is final when a cased
character precedes it and none follows. -/
def lowerAfter (before : List Char) : List Char → List Char
  | [] => []
  | c :: cs =>
    let image :=
      if c = 'Σ' then
        if meetsCased before && !meetsCased cs then ['ς'] else ['σ']
      else lowerChar c
    image ++ lowerAfter (c :: before) cs

/-- Lower case with the final form of sigma. -/
def lowerCase (s : String) : String :=
  String.ofList (lowerAfter [] s.toList)

end RecordSql.Text
