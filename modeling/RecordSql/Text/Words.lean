import RecordSql.Text.Alphanumeric
import RecordSql.Text.Case

/-!
# Words of an identifier

Words are runs of alphanumeric characters, cut again where a lower-case letter meets an upper-case one
and before the last letter of an upper-case run that a lower-case letter follows.

- `words`: the words in order, none of them empty.
- `shoutyCase`: the words in upper case, joined by underscores.
-/

namespace RecordSql.Text

/-- What the letters read so far in the current word say about its case. -/
inductive CaseMode
  | boundary
  | lower
  | upper
  deriving DecidableEq

/-- The mode after a character: letters without case keep the mode. -/
def CaseMode.next (m : CaseMode) (c : Char) : CaseMode :=
  if isLower c then .lower else if isUpper c then .upper else m

/-- Cuts one alphanumeric run at its case changes. `cur` is the word under way, in reverse. -/
def splitByCase (mode : CaseMode) (cur : List Char) : List Char → List (List Char)
  | [] => []
  | [c] => [(c :: cur).reverse]
  | c :: n :: cs =>
    if mode.next c = .lower && isUpper n then
      (c :: cur).reverse :: splitByCase .boundary [] (n :: cs)
    else if mode = .upper && isUpper c && isLower n then
      cur.reverse :: splitByCase .boundary [c] (n :: cs)
    else splitByCase (mode.next c) (c :: cur) (n :: cs)

/-- The maximal runs of alphanumeric characters. `cur` is the run under way, in reverse. -/
def alphanumericRuns (cur : List Char) : List Char → List (List Char)
  | [] => if cur.isEmpty then [] else [cur.reverse]
  | c :: cs =>
    if isAlphanumeric c then alphanumericRuns (c :: cur) cs
    else if cur.isEmpty then alphanumericRuns [] cs
    else cur.reverse :: alphanumericRuns [] cs

/-- The words of an identifier. -/
def words (s : String) : List (List Char) :=
  (alphanumericRuns [] s.toList).flatMap (splitByCase .boundary [])

/-- The words in upper case, joined by underscores. -/
def shoutyCase (s : String) : String :=
  "_".intercalate ((words s).map fun w => String.ofList (w.flatMap upperChar))

end RecordSql.Text
