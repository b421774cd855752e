import RecordSql.Dialect
import RecordSql.Expression
import RecordSql.Registry

/-!
# Tokens of expressions

The text of an expression is cut into tokens before it is read. Words are as long as they can be, and so
are the symbols of comparisons; names may stand between double quotes where the dialect has them.

- `Token`, `tokens`: tokens, and those of a text.
- `Lexes`: a text and its tokens, in front of everything that does not continue it.
- `Lexes.append`, `lexes_word`, `lexes_quoted`: texts that are put together, words, and quoted names.
- `Writable`, `lexes_name`: the names that a dialect writes as they are read.
-/

namespace RecordSql.Grouping

/-- The tokens that expressions are written in. -/
inductive Token
  | name (s : String)
  | operator (op : Operator)
  | junction (op : Junction)
  | not
  | is
  | null
  | in
  | dot
  | comma
  | opening
  | closing
  | placeholder
  deriving DecidableEq

/-- Characters that names without quotes consist of. -/
def isWordChar (c : Char) : Bool :=
  c.isAlphanum || c == '_' || c == '$' || 128 ≤ c.toNat

/-- The token of a word: a keyword, in whatever case it is written, or a name. -/
def wordToken (cs : List Char) : Token :=
  match cs.map Char.toLower with
  | ['o', 'r'] => .junction .or
  | ['a', 'n', 'd'] => .junction .and
  | ['n', 'o', 't'] => .not
  | ['l', 'i', 'k', 'e'] => .operator .like
  | ['i', 's'] => .is
  | ['n', 'u', 'l', 'l'] => .null
  | ['i', 'n'] => .in
  | _ => .name (String.ofList cs)

/-- What is being read. -/
inductive Lexeme
  | blank
  | word (cs : List Char)
  | quoted (cs : List Char)
  /-- A name whose closing quote may turn out to be the first half of a quote in the name. -/
  | closed (cs : List Char)
  | less
  | greater

namespace Lexeme

/-- The token that ends where nothing continues it; a quoted name needs its closing quote. -/
def finish : Lexeme → Option (List Token)
  | .blank => some []
  | .word cs => some [wordToken cs]
  | .quoted _ => none
  | .closed cs => some [.name (String.ofList cs)]
  | .less => some [.operator .lt]
  | .greater => some [.operator .gt]

/-- The tokens of one character, and the characters that more may follow. -/
def symbol (dialect : Dialect) : Char → Option (List Token × Lexeme)
  | '"' => if dialect = .postgreSql then some ([], .quoted []) else none
  | '<' => some ([], .less)
  | '>' => some ([], .greater)
  | '=' => some ([.operator .eq], .blank)
  | '+' => some ([.operator .add], .blank)
  | '-' => some ([.operator .sub], .blank)
  | '*' => some ([.operator .mul], .blank)
  | '/' => some ([.operator .div], .blank)
  | '&' => some ([.operator .bitAnd], .blank)
  | '|' => some ([.operator .bitOr], .blank)
  | '.' => some ([.dot], .blank)
  | ',' => some ([.comma], .blank)
  | '(' => some ([.opening], .blank)
  | ')' => some ([.closing], .blank)
  | '?' => some ([.placeholder], .blank)
  | _ => none

/-- The first character of a token. -/
def start (dialect : Dialect) (c : Char) : Option (List Token × Lexeme) :=
  if c.isWhitespace then some ([], .blank)
  else if isWordChar c then some ([], .word [c])
  else symbol dialect c

/-- One token ends and another one starts. -/
def restart (dialect : Dialect) (s : Lexeme) (c : Char) : Option (List Token × Lexeme) :=
  s.finish.bind fun ended => (start dialect c).map fun p => (ended ++ p.1, p.2)

/-- The next character. -/
def next (dialect : Dialect) (s : Lexeme) (c : Char) : Option (List Token × Lexeme) :=
  match s with
  | .blank => start dialect c
  | .word cs => if isWordChar c then some ([], .word (cs ++ [c])) else s.restart dialect c
  | .quoted cs => if c = '"' then some ([], .closed cs) else some ([], .quoted (cs ++ [c]))
  | .closed cs => if c = '"' then some ([], .quoted (cs ++ ['"'])) else s.restart dialect c
  | .less =>
    if c = '=' then some ([.operator .ltEq], .blank)
    else if c = '>' then some ([.operator .notEq], .blank)
    else s.restart dialect c
  | .greater => if c = '=' then some ([.operator .gtEq], .blank) else s.restart dialect c

end Lexeme

/-- The tokens of some characters behind what is being read. -/
def tokensFrom (dialect : Dialect) : Lexeme → List Char → Option (List Token)
  | s, [] => s.finish
  | s, c :: cs => (s.next dialect c).bind fun p => (tokensFrom dialect p.2 cs).map (p.1 ++ ·)

/-- The tokens of a text. -/
def tokens (dialect : Dialect) (text : String) : Option (List Token) :=
  tokensFrom dialect .blank text.toList

/-! ### Texts and their tokens -/

/-- The characters of which none continues a token. -/
def Stops : List Char → Prop
  | [] => True
  | c :: _ => isWordChar c = false ∧ c ≠ '"' ∧ c ≠ '=' ∧ c ≠ '>'

instance (cs : List Char) : Decidable (Stops cs) :=
  match cs with
  | [] => inferInstanceAs (Decidable True)
  | c :: _ => inferInstanceAs (Decidable (isWordChar c = false ∧ c ≠ '"' ∧ c ≠ '=' ∧ c ≠ '>'))

/-- The tokens of a text in front of whatever does not continue it. -/
def Lexes (dialect : Dialect) (cs : List Char) (ts : List Token) : Prop :=
  ∀ rest, Stops rest →
    tokensFrom dialect .blank (cs ++ rest) = (tokensFrom dialect .blank rest).map (ts ++ ·)

/-- The tokens of a text that nothing continues. -/
def LexesWhole (dialect : Dialect) (cs : List Char) (ts : List Token) : Prop :=
  ∀ rest, tokensFrom dialect .blank (cs ++ rest) = (tokensFrom dialect .blank rest).map (ts ++ ·)

section Lexing

variable {dialect : Dialect} {cs ds : List Char} {ts us : List Token}

theorem LexesWhole.lexes (h : LexesWhole dialect cs ts) : Lexes dialect cs ts :=
  fun rest _ => h rest

theorem map_append_map (o : Option (List Token)) :
    (o.map (us ++ ·)).map (ts ++ ·) = o.map (ts ++ us ++ ·) := by
  rw [Option.map_map]
  exact congrArg (o.map ·) (funext fun vs => (List.append_assoc ts us vs).symm)

theorem LexesWhole.append (h : LexesWhole dialect cs ts) (h' : LexesWhole dialect ds us) :
    LexesWhole dialect (cs ++ ds) (ts ++ us) := by
  intro rest
  rw [List.append_assoc, h, h', map_append_map]

theorem LexesWhole.append_lexes (h : LexesWhole dialect cs ts) (h' : Lexes dialect ds us) :
    Lexes dialect (cs ++ ds) (ts ++ us) := by
  intro rest hrest
  rw [List.append_assoc, h, h' rest hrest, map_append_map]

/-- What stops a token does so with whatever follows. -/
theorem Stops.append (hs : Stops ds) (hne : ds ≠ []) (rest : List Char) : Stops (ds ++ rest) := by
  cases ds with
  | nil => exact absurd rfl hne
  | cons d ds => exact hs

/-- What follows must not continue the first text. -/
theorem Lexes.append (h : Lexes dialect cs ts) (h' : Lexes dialect ds us) (hne : ds ≠ [])
    (hs : Stops ds) : Lexes dialect (cs ++ ds) (ts ++ us) := by
  intro rest hrest
  rw [List.append_assoc, h _ (hs.append hne rest), h' rest hrest, map_append_map]

theorem Lexes.append_whole (h : Lexes dialect cs ts) (h' : LexesWhole dialect ds us) (hne : ds ≠ [])
    (hs : Stops ds) : LexesWhole dialect (cs ++ ds) (ts ++ us) := by
  intro rest
  rw [List.append_assoc, h _ (hs.append hne rest), h', map_append_map]

/-- A text on its own. -/
theorem Lexes.tokens_eq {text : String} (h : Lexes dialect text.toList ts) :
    tokens dialect text = some ts := by
  have hrest := h [] trivial
  rw [List.append_nil] at hrest
  rw [tokens, hrest]
  exact congrArg some (List.append_nil ts)

/-! ### Words and quoted names -/

/-- A character, and the rest behind it. -/
theorem tokensFrom_cons {s s' : Lexeme} {c : Char} (h : s.next dialect c = some (ts, s'))
    (rest : List Char) :
    tokensFrom dialect s (c :: rest) = (tokensFrom dialect s' rest).map (ts ++ ·) := by
  rw [tokensFrom, h]
  rfl

theorem tokensFrom_cons_nil {s s' : Lexeme} {c : Char} (h : s.next dialect c = some ([], s'))
    (rest : List Char) : tokensFrom dialect s (c :: rest) = tokensFrom dialect s' rest := by
  rw [tokensFrom_cons h]
  exact Option.map_id'

/-- A token ends in front of what does not continue it. -/
theorem tokensFrom_stops {s : Lexeme} (hs : s.finish = some ts) {rest : List Char} (hr : Stops rest) :
    tokensFrom dialect s rest = (tokensFrom dialect .blank rest).map (ts ++ ·) := by
  cases rest with
  | nil =>
    rw [tokensFrom, tokensFrom, hs]
    exact congrArg some (List.append_nil ts).symm
  | cons c rest =>
    obtain ⟨hword, hquote, heq, hgt⟩ := hr
    have hnext : s.next dialect c =
        (Lexeme.start dialect c).map fun p => (ts ++ p.1, p.2) := by
      have hrestart : s.restart dialect c =
          (Lexeme.start dialect c).map fun p => (ts ++ p.1, p.2) := by
        rw [Lexeme.restart, hs]
        rfl
      cases s with
      | quoted _ => cases hs
      | blank =>
        cases hs
        exact Option.map_id'.symm
      | word _ => rw [Lexeme.next, if_neg (by simp [hword]), hrestart]
      | closed _ => rw [Lexeme.next, if_neg hquote, hrestart]
      | less => rw [Lexeme.next, if_neg heq, if_neg hgt, hrestart]
      | greater => rw [Lexeme.next, if_neg heq, hrestart]
    rw [tokensFrom, hnext]
    show _ = ((Lexeme.start dialect c).bind _).map _
    cases Lexeme.start dialect c with
    | none => rfl
    | some p => exact (map_append_map _).symm

theorem next_word {c : Char} (hc : isWordChar c = true) (ds : List Char) :
    Lexeme.next dialect (.word ds) c = some ([], .word (ds ++ [c])) :=
  if_pos hc

theorem next_quoted {c : Char} (hc : c ≠ '"') (ds : List Char) :
    Lexeme.next dialect (.quoted ds) c = some ([], .quoted (ds ++ [c])) :=
  if_neg hc

theorem next_quote (ds : List Char) : Lexeme.next dialect (.quoted ds) '"' = some ([], .closed ds) :=
  rfl

theorem next_secondQuote (ds : List Char) :
    Lexeme.next dialect (.closed ds) '"' = some ([], .quoted (ds ++ ['"'])) :=
  rfl

theorem tokensFrom_word (hcs : cs.all isWordChar = true) (ds rest : List Char) :
    tokensFrom dialect (.word ds) (cs ++ rest) = tokensFrom dialect (.word (ds ++ cs)) rest := by
  induction cs generalizing ds with
  | nil =>
    rw [List.append_nil]
    rfl
  | cons c cs ih =>
    obtain ⟨hc, hcs⟩ := Bool.and_eq_true_iff.1 hcs
    rw [List.cons_append, tokensFrom_cons_nil (next_word hc ds), ih hcs, List.append_assoc]
    rfl

/-- A character of a word is no blank. -/
theorem not_isWhitespace {c : Char} (h : isWordChar c = true) : ¬c.isWhitespace = true := by
  intro hc
  simp only [Char.isWhitespace, Bool.or_eq_true, decide_eq_true_eq] at hc
  obtain ((rfl | rfl) | rfl) | rfl := hc <;> revert h <;> decide

theorem lexes_word (hne : cs ≠ []) (hcs : cs.all isWordChar = true) :
    Lexes dialect cs [wordToken cs] := by
  intro rest hrest
  cases cs with
  | nil => exact absurd rfl hne
  | cons c cs =>
    obtain ⟨hc, hcs⟩ := Bool.and_eq_true_iff.1 hcs
    have hstart : Lexeme.next dialect .blank c = some ([], .word [c]) := by
      rw [Lexeme.next, Lexeme.start, if_neg (not_isWhitespace hc), if_pos hc]
    rw [List.cons_append, tokensFrom_cons_nil hstart, tokensFrom_word hcs, tokensFrom_stops rfl hrest]
    rfl

theorem tokensFrom_quoted (ds rest : List Char) :
    tokensFrom dialect (.quoted ds) (Dialect.doubleQuotes cs ++ rest) =
      tokensFrom dialect (.quoted (ds ++ cs)) rest := by
  induction cs generalizing ds with
  | nil =>
    rw [List.append_nil]
    rfl
  | cons c cs ih =>
    rw [Dialect.doubleQuotes]
    split
    case isTrue hc =>
      subst hc
      rw [List.cons_append, List.cons_append, tokensFrom_cons_nil (next_quote ds),
        tokensFrom_cons_nil (next_secondQuote ds), ih, List.append_assoc]
      rfl
    case isFalse hc =>
      rw [List.cons_append, tokensFrom_cons_nil (next_quoted hc ds), ih, List.append_assoc]
      rfl

/-- A quoted name is one token, whatever it consists of. -/
theorem lexes_quoted (name : String) :
    Lexes .postgreSql (Dialect.quote .postgreSql name).toList [.name name] := by
  intro rest hrest
  have hopens : Lexeme.next .postgreSql .blank '"' = some ([], .quoted []) := rfl
  rw [Dialect.quote, String.toList_ofList, List.cons_append, List.cons_append,
    tokensFrom_cons_nil hopens, List.append_assoc, tokensFrom_quoted, List.nil_append, List.cons_append,
    tokensFrom_cons_nil (next_quote _), List.nil_append, tokensFrom_stops rfl hrest, String.ofList_toList]

end Lexing

/-! ### Words -/

section Words

variable {d : Dialect}

theorem whole_char {c : Char} {t : Token} (h : Lexeme.next d .blank c = some ([t], .blank)) :
    LexesWhole d [c] [t] :=
  fun rest => tokensFrom_cons h rest

theorem whole_blank : LexesWhole d [' '] [] :=
  fun rest => tokensFrom_cons rfl rest

theorem stops_blank (cs : List Char) : Stops (' ' :: cs) :=
  ⟨by decide, by decide, by decide, by decide⟩

theorem lexes_operator (op : Operator) : Lexes d op.text.toList [.operator op] := by
  cases op with
  | like => exact lexes_word (List.cons_ne_nil 'l' ['i', 'k', 'e']) (by decide)
  | lt =>
    intro rest hrest
    show tokensFrom d .blank ('<' :: rest) = _
    rw [tokensFrom_cons_nil rfl, tokensFrom_stops rfl hrest]
  | gt =>
    intro rest hrest
    show tokensFrom d .blank ('>' :: rest) = _
    rw [tokensFrom_cons_nil rfl, tokensFrom_stops rfl hrest]
  | notEq =>
    intro rest _
    show tokensFrom d .blank ('<' :: '>' :: rest) = _
    rw [tokensFrom_cons_nil rfl, tokensFrom_cons rfl]
  | ltEq =>
    intro rest _
    show tokensFrom d .blank ('<' :: '=' :: rest) = _
    rw [tokensFrom_cons_nil rfl, tokensFrom_cons rfl]
  | gtEq =>
    intro rest _
    show tokensFrom d .blank ('>' :: '=' :: rest) = _
    rw [tokensFrom_cons_nil rfl, tokensFrom_cons rfl]
  | _ => exact (whole_char rfl).lexes

theorem lexes_junction (op : Junction) : Lexes d op.text.toList [.junction op] := by
  cases op with
  | and => exact lexes_word (List.cons_ne_nil 'a' ['n', 'd']) (by decide)
  | or => exact lexes_word (List.cons_ne_nil 'o' ['r']) (by decide)

/-- A word between blanks. -/
theorem whole_spaced {s : String} {ts : List Token} (h : Lexes d s.toList ts) :
    LexesWhole d (" " ++ s ++ " ").toList ts := by
  rw [String.toList_append, String.toList_append]
  have hw := (whole_blank.append_lexes h).append_whole whole_blank (by simp) (stops_blank [])
  rwa [List.nil_append, List.append_nil] at hw

theorem whole_not : LexesWhole d "not ".toList [.not] := by
  have hword : Lexes d ['n', 'o', 't'] [.not] := lexes_word (by simp) (by decide)
  exact hword.append_whole whole_blank (by simp) (stops_blank [])

theorem lexes_isNull : Lexes d " is null".toList [.is, .null] := by
  have his : Lexes d ['i', 's'] [.is] := lexes_word (by simp) (by decide)
  have hnull : Lexes d ['n', 'u', 'l', 'l'] [.null] := lexes_word (by simp) (by decide)
  exact ((whole_blank.append_lexes his).append_whole whole_blank (by simp) (stops_blank [])).append_lexes
    hnull

theorem whole_in : LexesWhole d " in (".toList [.in, .opening] := by
  have hin : Lexes d ['i', 'n'] [.in] := lexes_word (by simp) (by decide)
  exact (((whole_blank.append_lexes hin).append_whole whole_blank (by simp) (stops_blank []))).append
    (whole_char rfl)

theorem whole_comma : LexesWhole d ", ".toList [.comma] :=
  (whole_char (c := ',') rfl).append whole_blank

end Words

/-! ### Names -/

/-- A name that is read as it stands: characters of names alone, and no keyword. -/
def PlainName (n : String) : Prop :=
  n.toList ≠ [] ∧ n.toList.all isWordChar = true ∧ wordToken n.toList = .name n

instance (n : String) : Decidable (PlainName n) :=
  inferInstanceAs (Decidable (_ ∧ _ ∧ _))

/-- A name that a dialect writes as it is read: names are not quoted for MySQL. -/
def Writable (d : Dialect) (n : String) : Prop :=
  d = .mySql → PlainName n

instance (d : Dialect) (n : String) : Decidable (Writable d n) :=
  inferInstanceAs (Decidable (_ → _))

theorem PlainName.lexes {d : Dialect} {n : String} (h : PlainName n) : Lexes d n.toList [.name n] :=
  h.2.2 ▸ lexes_word h.1 h.2.1

theorem lexes_name {d : Dialect} {n : String} (h : Writable d n) :
    Lexes d (d.quote n).toList [.name n] := by
  cases d with
  | mySql => exact (h rfl).lexes
  | postgreSql => exact lexes_quoted n

/-- Abbreviations are no keywords. -/
theorem abbreviation_plain (n : Nat) : PlainName (abbreviationText n) := by
  have hlist := abbreviationText_toList n
  refine ⟨by simp [hlist], ?_, ?_⟩
  · rw [hlist]
    refine List.all_eq_true.2 (List.forall_mem_cons.2 ⟨by decide, fun c hc => ?_⟩)
    have hdigit : c.isDigit = true := Nat.isDigit_of_mem_toDigits (by decide) (by decide) hc
    simp [isWordChar, Char.isAlphanum, hdigit]
  · have hname : ∀ ds : List Char, wordToken ('t' :: ds) = .name (String.ofList ('t' :: ds)) :=
      fun _ => rfl
    rw [hlist, hname, ← hlist, String.ofList_toList]

end RecordSql.Grouping
