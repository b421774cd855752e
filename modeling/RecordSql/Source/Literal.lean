import RecordSql.Text.Identifier
import RecordSql.Text.Numeral

/-!
# Literals

- `literalEnd?`: the rest behind the literal that a text begins with.
- `stringValue?`: the text that a string literal stands for.
- `naturalValue?`: the number that a literal of a whole number stands for.

Every reader here returns what follows the part it has read.
-/

namespace RecordSql.Source

open RecordSql.Text

/-! ### Suffixes -/

/-- The rest behind an identifier. -/
def identEnd? : List Char → Option (List Char)
  | [] => none
  | c :: cs => if isIdentStart c then some (cs.dropWhile isIdentContinue) else none

/-- The rest behind a suffix, if there is one. -/
def skipSuffix (cs : List Char) : List Char :=
  (identEnd? cs).getD cs

/-! ### Escapes -/

/-- The kinds of quoted text. -/
inductive QuotedKind
  | text
  | bytes
  | zeroTerminated
  deriving DecidableEq, Repr

namespace QuotedKind

/-- Whether a character may stand for itself. -/
def allows : QuotedKind → Char → Bool
  | .text, _ => true
  | .bytes, c => c.val < 0x80
  | .zeroTerminated, c => c ≠ '\x00'

/-- Whether a character may be written by its number in two hexadecimal digits. -/
def allowsCode : QuotedKind → Nat → Bool
  | .text, n => n < 0x80
  | .bytes, _ => true
  | .zeroTerminated, n => n ≠ 0

/-- Whether a character may be written by its number in braces. -/
def allowsUnicode : QuotedKind → Nat → Bool
  | .text, n => n.isValidChar
  | .bytes, _ => false
  | .zeroTerminated, n => n ≠ 0 && n.isValidChar

end QuotedKind

/-- The number in braces of up to six hexadecimal digits; underscores may follow the first digit. -/
def bracedCode? : Nat → Nat → List Char → Option (Nat × List Char)
  | _, _, [] => none
  | digits, value, c :: cs =>
    match hexValue? c with
    | some d => if digits < 6 then bracedCode? (digits + 1) (16 * value + d) cs else none
    | none =>
      if digits = 0 then none
      else if c = '_' then bracedCode? digits value cs
      else if c = '\x7d' then some (value, cs)
      else none

/-- The character after a backslash, other than one written by its number. -/
def simpleEscaped? (kind : QuotedKind) (c : Char) : Option Char :=
  if c = 'n' then some '\n'
  else if c = 'r' then some '\r'
  else if c = 't' then some '\t'
  else if c = '\\' || c = '\'' || c = '"' then some c
  else if c = '0' && kind ≠ .zeroTerminated then some '\x00'
  else none

/-- The character that is written by what follows a backslash. -/
def escaped? (kind : QuotedKind) : List Char → Option (Char × List Char)
  | 'x' :: a :: b :: rest =>
    match hexValue? a, hexValue? b with
    | some x, some y =>
      let n := 16 * x + y
      if kind.allowsCode n then some (Char.ofNat n, rest) else none
    | _, _ => none
  | 'u' :: '\x7b' :: rest =>
    match bracedCode? 0 0 rest with
    | some (n, rest) => if kind.allowsUnicode n then some (Char.ofNat n, rest) else none
    | none => none
  | c :: rest => (simpleEscaped? kind c).map fun e => (e, rest)
  | [] => none

/-- The rest behind the line end and the blanks that a backslash removes. A carriage return needs its line
feed. -/
def continuation? : List Char → Option (List Char)
  | [] => none
  | '\r' :: '\n' :: cs => continuation? cs
  | c :: cs =>
    if c = ' ' || c = '\t' || c = '\n' then continuation? cs
    else if c = '\r' then none
    else some (c :: cs)

/-! ### Quoted text -/

/-- The inside of quoted text up to its closing quote. `acc` holds what it stands for so far, in
reverse. -/
def quotedBody? (kind : QuotedKind) : Nat → List Char → List Char → Option (List Char × List Char)
  | 0, _, _ => none
  | _ + 1, _, [] => none
  | fuel + 1, acc, c :: cs =>
    if c = '"' then some (acc.reverse, cs)
    else if c = '\\' then
      match cs with
      | '\n' :: _ | '\r' :: _ => (continuation? cs).bind (quotedBody? kind fuel acc)
      | _ => (escaped? kind cs).bind fun (e, rest) => quotedBody? kind fuel (e :: acc) rest
    else if c = '\r' then
      match cs with
      | '\n' :: rest => quotedBody? kind fuel ('\n' :: acc) rest
      | _ => none
    else if kind.allows c then quotedBody? kind fuel (c :: acc) cs
    else none

/-- What quoted text stands for, and the rest; the opening quote has been read. -/
def quoted? (kind : QuotedKind) (cs : List Char) : Option (List Char × List Char) :=
  quotedBody? kind (cs.length + 1) [] cs

/-- The inside of raw text, up to a quote with as many hashes as were opened. -/
def rawBody? (kind : QuotedKind) (hashes : Nat) (acc : List Char) :
    List Char → Option (List Char × List Char)
  | [] => none
  | '\r' :: '\n' :: cs => rawBody? kind hashes ('\n' :: '\r' :: acc) cs
  | c :: cs =>
    if c = '"' && (cs.take hashes == List.replicate hashes '#') then
      some (acc.reverse, cs.drop hashes)
    else if c = '\r' then none
    else if kind.allows c then rawBody? kind hashes (c :: acc) cs
    else none

/-- What raw text stands for, and the rest; it begins with its hashes. -/
def raw? (kind : QuotedKind) (cs : List Char) : Option (List Char × List Char) :=
  let hashes := (cs.takeWhile (· = '#')).length
  match cs.drop hashes with
  | '"' :: rest => if hashes ≤ 255 then rawBody? kind hashes [] rest else none
  | _ => none

/-- A string literal: what it stands for, and the rest behind it. -/
def string? : List Char → Option (List Char × List Char)
  | '"' :: cs => quoted? .text cs
  | 'r' :: cs => raw? .text cs
  | _ => none

/-- The rest behind quoted or raw text of any kind. -/
def stringEnd? : List Char → Option (List Char)
  | 'b' :: '"' :: cs => (quoted? .bytes cs).map Prod.snd
  | 'b' :: 'r' :: cs => (raw? .bytes cs).map Prod.snd
  | 'c' :: '"' :: cs => (quoted? .zeroTerminated cs).map Prod.snd
  | 'c' :: 'r' :: cs => (raw? .zeroTerminated cs).map Prod.snd
  | cs => (string? cs).map Prod.snd

/-- The rest behind one character and a closing apostrophe. -/
def characterBody? (kind : QuotedKind) (cs : List Char) : Option (List Char) :=
  let rest := match cs with
    | '\\' :: cs => (escaped? kind cs).map Prod.snd
    | c :: cs => if kind.allows c then some cs else none
    | [] => none
  match rest with
  | some ('\'' :: rest) => some rest
  | _ => none

/-- The rest behind a character or a byte. -/
def characterEnd? : List Char → Option (List Char)
  | '\'' :: cs => characterBody? .text cs
  | 'b' :: '\'' :: cs => characterBody? .bytes cs
  | _ => none

/-! ### Numbers -/

/-- A decimal digit or an underscore. -/
def isDigitOrGap (c : Char) : Bool := c.isDigit || c = '_'

/-- The rest behind an exponent, which needs a digit. -/
def exponentEnd? (signed valued : Bool) : List Char → Option (List Char)
  | [] => if valued then some [] else none
  | c :: cs =>
    if c.isDigit then exponentEnd? signed true cs
    else if c = '_' then exponentEnd? signed valued cs
    else if valued then some (c :: cs)
    else if (c = '+' || c = '-') && !signed then exponentEnd? true valued cs
    else none

/-- The rest behind the digits of a number with a fraction or an exponent. -/
def floatDigitsEnd? (cs : List Char) : Option (List Char) :=
  match cs with
  | [] => none
  | d :: _ =>
    if !d.isDigit then none
    else
      match cs.dropWhile isDigitOrGap with
      | '.' :: rest =>
        let touching := match rest with
          | c :: _ => c = '.' || isIdentStart c
          | [] => false
        if touching then none
        else
          let fraction := rest.dropWhile isDigitOrGap
          match fraction with
          | e :: power =>
            if e = 'e' || e = 'E' then some ((exponentEnd? false false power).getD fraction)
            else some fraction
          | [] => some []
      | e :: power => if e = 'e' || e = 'E' then exponentEnd? false false power else none
      | [] => none

/-- The rest behind the digits of a whole number. -/
def baseDigitsEnd? (base : Nat) (empty : Bool) : List Char → Option (List Char)
  | [] => if empty then none else some []
  | c :: cs =>
    if c = '_' then
      if empty && base = 10 then none else baseDigitsEnd? base empty cs
    else
      match hexValue? c with
      | some d =>
        if d < base then baseDigitsEnd? base false cs
        else if c.isDigit || empty then none
        else some (c :: cs)
      | none => if empty then none else some (c :: cs)

/-- The base of a whole number, and its digits. -/
def numberBase : List Char → Nat × List Char
  | '0' :: 'x' :: cs => (16, cs)
  | '0' :: 'o' :: cs => (8, cs)
  | '0' :: 'b' :: cs => (2, cs)
  | cs => (10, cs)

/-- The rest behind the digits of a whole number with its base. -/
def wholeDigitsEnd? (cs : List Char) : Option (List Char) :=
  let (base, digits) := numberBase cs
  baseDigitsEnd? base true digits

/-- The rest behind the suffix of a number; a letter may not follow. -/
def numberEnd? (digitsEnd : List Char) : Option (List Char) :=
  match skipSuffix digitsEnd with
  | [] => some []
  | c :: cs => if isIdentContinue c then none else some (c :: cs)

/-- The rest behind a literal. -/
def literalEnd? (cs : List Char) : Option (List Char) :=
  match stringEnd? cs <|> characterEnd? cs with
  | some rest => some (skipSuffix rest)
  | none => (floatDigitsEnd? cs).bind numberEnd? <|> (wholeDigitsEnd? cs).bind numberEnd?

/-! ### Values -/

/-- The text that a string literal stands for. -/
def stringValue? (literal : List Char) : Option String :=
  (string? literal).map fun p => String.ofList p.1

/-- Whether a literal begins like a number. -/
def isNumber : List Char → Bool
  | [] => false
  | c :: _ => c.isDigit

/-- Digits of a base up to the first other character; underscores do not count. -/
def digitsValue (base : Nat) : Nat → List Char → Nat
  | value, [] => value
  | value, c :: cs =>
    match hexValue? c with
    | some d => if d < base then digitsValue base (base * value + d) cs else value
    | none => if c = '_' then digitsValue base value cs else value

/-- Whether a decimal number has a fraction or an exponent, so that it is no whole one. -/
def isFractional (literal : List Char) : Bool :=
  match literal.dropWhile isDigitOrGap with
  | '.' :: _ => true
  | e :: rest =>
    (e = 'e' || e = 'E') &&
      match rest.dropWhile (· = '_') with
      | c :: _ => c.isDigit || c = '+' || c = '-'
      | [] => false
  | [] => false

/-- The number that a literal of a whole number stands for; its suffix does not count. -/
def naturalValue? (literal : List Char) : Option Nat :=
  if !isNumber literal then none
  else
    let (base, digits) := numberBase literal
    if base = 10 && isFractional literal then none
    else some (digitsValue base 0 digits)

/-- Whether a literal is the number of a field: a whole number of 32 bits without a suffix. -/
def isIndex (literal : List Char) : Bool :=
  let (base, digits) := numberBase literal
  isNumber literal && digitsValue base 0 digits < 4294967296 &&
    digits.all fun c => c = '_' || (hexValue? c).any fun d => d < base

/-- The parts of a literal between dots. -/
def splitAtDots : List Char → List (List Char)
  | [] => [[]]
  | c :: cs =>
    match splitAtDots cs with
    | part :: parts => if c = '.' then [] :: part :: parts else (c :: part) :: parts
    | [] => [[c]]

end RecordSql.Source
