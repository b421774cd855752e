import RecordSql.Source.Literal
import RecordSql.Source.Token
import RecordSql.Text.Blank

/-!
# Tokens of a text

- `lexemes?`: the tokens and brackets of a text, without blanks and comments. A documentation comment
  stands for an attribute.
- `nest?`: tokens and brackets as trees.
- `trees?`: the token trees of a text; nothing if a token is malformed or brackets do not match.
-/

namespace RecordSql.Source

open RecordSql.Text

/-- A bracket, or a tree without brackets. -/
inductive Lexeme
  | opening (delimiter : Delimiter) (span : Span)
  | closing (delimiter : Delimiter) (span : Span)
  | leaf (tree : Tree)
  deriving Repr, Inhabited

/-! ### Blanks and comments -/

/-- Blanks between tokens; the marks of writing direction count as such. -/
def isTokenBlank (c : Char) : Bool :=
  isBlank c || c = '\u200e' || c = '\u200f'

/-- A text up to the end of its line, and the rest from the line feed on. -/
def spanLine : List Char → List Char × List Char
  | [] => ([], [])
  | c :: cs =>
    if c = '\n' then ([], c :: cs)
    else
      match c, cs with
      | '\r', '\n' :: _ => ([], cs)
      | _, _ =>
        let (line, rest) := spanLine cs
        (c :: line, rest)

/-- The rest behind a block comment; comments nest. `depth` counts the ones that are open around it, and
its opening has been read. -/
def blockEnd? : Nat → List Char → Option (List Char)
  | _, [] => none
  | depth, '/' :: '*' :: cs => blockEnd? (depth + 1) cs
  | 0, '*' :: '/' :: cs => some cs
  | depth + 1, '*' :: '/' :: cs => blockEnd? depth cs
  | depth, _ :: cs => blockEnd? depth cs

/-- The part of a text before one of its ends. -/
def before (cs rest : List Char) : List Char :=
  cs.take (cs.length - rest.length)

/-- A documentation comment: whether it belongs to what encloses it, its text, and the rest. -/
def documentation? : List Char → Option (Bool × List Char × List Char)
  | '/' :: '/' :: '!' :: cs => some (true, spanLine cs)
  | '/' :: '*' :: '!' :: cs =>
    (blockEnd? 0 ('!' :: cs)).map fun rest => (true, (before cs rest).dropLast.dropLast, rest)
  | '/' :: '/' :: '/' :: cs =>
    match cs with
    | '/' :: _ => none
    | _ => some (false, spanLine cs)
  | '/' :: '*' :: '*' :: cs =>
    match cs with
    | '*' :: _ => none
    | _ => (blockEnd? 0 ('*' :: cs)).map fun rest =>
      (false, (before cs rest).dropLast.dropLast, rest)
  | _ => none

/-- The rest behind a comment that is no documentation. -/
def commentEnd? : List Char → Option (List Char)
  | '/' :: '*' :: '*' :: '/' :: cs => some cs
  | '/' :: '/' :: cs =>
    match cs with
    | '!' :: _ => none
    | '/' :: '/' :: _ => some (spanLine cs).2
    | '/' :: _ => none
    | _ => some (spanLine cs).2
  | '/' :: '*' :: cs =>
    match cs with
    | '!' :: _ => none
    | '*' :: '*' :: _ => blockEnd? 0 cs
    | '*' :: _ => none
    | _ => blockEnd? 0 cs
  | _ => none

/-- The rest behind blanks and comments. -/
def skipBlanks : Nat → List Char → List Char
  | 0, cs => cs
  | fuel + 1, cs =>
    match commentEnd? cs with
    | some rest => skipBlanks fuel rest
    | none =>
      match cs with
      | [] => []
      | c :: rest => if isTokenBlank c then skipBlanks fuel rest else c :: rest

/-- Whether every carriage return has its line feed. -/
def returnsPaired : List Char → Bool
  | [] => true
  | '\r' :: '\n' :: cs => returnsPaired cs
  | c :: cs => c ≠ '\r' && returnsPaired cs

/-- The attribute that a documentation comment stands for. -/
def documentationLexemes (inner : Bool) (text : List Char) (span : Span) : List Lexeme :=
  [Lexeme.leaf (.punct '#' false span)] ++ (if inner then [Lexeme.leaf (.punct '!' false span)] else []) ++
    [Lexeme.opening .bracket span, .leaf (.ident (.plain "doc") span), .leaf (.punct '=' false span),
      .leaf (.literal ('"' :: text ++ ['"']) span), .closing .bracket span]

/-! ### Tokens -/

/-- The characters of punctuation. -/
def marks : List Char :=
  ['~', '!', '@', '#', '$', '%', '^', '&', '*', '-', '=', '+', '|', ';', ':', ',', '<', '.', '>', '/',
    '?', '\'']

/-- The mark that a text begins with; the slash of a comment is none. -/
def mark? : List Char → Option (Char × List Char)
  | [] => none
  | '/' :: '/' :: _ => none
  | '/' :: '*' :: _ => none
  | c :: cs => if marks.contains c then some (c, cs) else none

/-- The raw identifiers that there are not. -/
def neverRaw : List String := ["_", "super", "self", "Self", "crate"]

/-- The identifier that a text begins with, and the rest. -/
def ident? (cs : List Char) : Option (Ident × List Char) :=
  let (raw, named) := match cs with
    | 'r' :: '#' :: rest => (true, rest)
    | _ => (false, cs)
  (identEnd? named).bind fun rest =>
    let name := String.ofList (before named rest)
    if raw && neverRaw.contains name then none else some (⟨raw, name⟩, rest)

/-- The beginnings of quoted and raw text, which are no identifiers. -/
def literalFronts : List (List Char) :=
  [['r', '"'], ['r', '#', '"'], ['r', '#', '#'], ['b', '"'], ['b', '\''], ['b', 'r', '"'],
    ['b', 'r', '#'], ['c', '"'], ['c', 'r', '"'], ['c', 'r', '#']]

/-- The rest behind an apostrophe that begins a lifetime: an identifier follows, and then neither an
apostrophe nor the mark of a raw one. -/
def lifetimeFront? (cs : List Char) : Option (List Char) :=
  match ident? cs with
  | some (_, '\'' :: _) => none
  | some (i, '#' :: _) => if i.raw then some cs else none
  | some _ => some cs
  | none => none

/-- The token that a text begins with, made from its place, and the rest. -/
def leaf? (cs : List Char) : Option ((Span → Tree) × List Char) :=
  match literalEnd? cs with
  | some rest => some (.literal (before cs rest), rest)
  | none =>
    match mark? cs with
    | some ('\'', rest) => (lifetimeFront? rest).map fun rest => (.punct '\'' true, rest)
    | some (c, rest) => some (.punct c (mark? rest).isSome, rest)
    | none =>
      if literalFronts.any fun front => front.isPrefixOf cs then none
      else (ident? cs).map fun (i, rest) => (.ident i, rest)

/-- The bracket that a character is. -/
def bracket? (c : Char) : Option (Span → Lexeme) :=
  if c = '(' then some (.opening .parenthesis)
  else if c = '[' then some (.opening .bracket)
  else if c = '\x7b' then some (.opening .brace)
  else if c = ')' then some (.closing .parenthesis)
  else if c = ']' then some (.closing .bracket)
  else if c = '\x7d' then some (.closing .brace)
  else none

/-- The tokens and brackets of a text that begins at a position. `acc` holds the ones before it, in
reverse. -/
def lexemesFrom? : Nat → List Lexeme → Position → List Char → Option (List Lexeme)
  | 0, _, _, _ => none
  | fuel + 1, acc, p, text =>
    let cs := skipBlanks (text.length + 1) text
    let start := p.afterAll (before text cs)
    match documentation? cs with
    | some (inner, comment, rest) =>
      if returnsPaired comment then
        let stop := start.afterAll (before cs rest)
        let lexemes := documentationLexemes inner comment ⟨start, stop⟩
        lexemesFrom? fuel (lexemes.reverse ++ acc) stop rest
      else none
    | none =>
      match cs with
      | [] => some acc.reverse
      | c :: rest =>
        match bracket? c with
        | some lexeme =>
          let stop := start.after c
          lexemesFrom? fuel (lexeme ⟨start, stop⟩ :: acc) stop rest
        | none =>
          match leaf? cs with
          | some (tree, rest) =>
            let stop := start.afterAll (before cs rest)
            lexemesFrom? fuel (.leaf (tree ⟨start, stop⟩) :: acc) stop rest
          | none => none

/-- The tokens and brackets of a text. -/
def lexemes? (text : List Char) : Option (List Lexeme) :=
  lexemesFrom? (text.length + 1) [] .origin text

/-! ### Trees -/

/-- A group that is still open: its delimiter, where it begins, and the trees before it, in reverse. -/
structure OpenGroup where
  delimiter : Delimiter
  start : Position
  earlier : List Tree

/-- Tokens and brackets as trees. `done` holds the trees of the innermost open group, in reverse. -/
def nest? : List OpenGroup → List Tree → List Lexeme → Option (List Tree)
  | [], done, [] => some done.reverse
  | _ :: _, _, [] => none
  | opened, done, .opening d span :: ls => nest? (⟨d, span.start, done⟩ :: opened) [] ls
  | [], _, .closing _ _ :: _ => none
  | g :: opened, done, .closing d span :: ls =>
    if g.delimiter = d then
      nest? opened (.group d done.reverse ⟨g.start, span.stop⟩ :: g.earlier) ls
    else none
  | opened, done, .leaf t :: ls => nest? opened (t :: done) ls

/-- The token trees of a text. -/
def trees? (text : List Char) : Option (List Tree) :=
  (lexemes? text).bind (nest? [] [])

end RecordSql.Source
