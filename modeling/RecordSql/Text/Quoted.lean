import RecordSql.Text.Printable

/-!
# Quoted debug text

- `debugQuoted`: a string between double quotes, with quotes, backslashes, line breaks and everything
  that cannot be shown escaped.
-/

namespace RecordSql.Text

/-- A code point by its hexadecimal number. -/
def codePointEscape (c : Char) : String :=
  "\\u\x7b" ++ String.ofList (Nat.toDigits 16 c.toNat) ++ "\x7d"

/-- One character inside of quoted debug text. -/
def debugChar (c : Char) : String :=
  if c = '"' then "\\\""
  else if c = '\\' then "\\\\"
  else if c = '\n' then "\\n"
  else if c = '\t' then "\\t"
  else if c = '\r' then "\\r"
  else if c = '\x00' then "\\0"
  else if isPrintable c then c.toString
  else codePointEscape c

/-- A string between double quotes. -/
def debugQuoted (s : String) : String :=
  "\"" ++ String.join (s.toList.map debugChar) ++ "\""

end RecordSql.Text
