import RecordSql.Proofs.Rendering.Nesting
import RecordSql.Proofs.Writing.Writer

/-!
# Quoted identifiers

PostgreSQL reads an identifier from its opening quote on. Two quotes in a row stand for one, and the first
quote that no other one follows is the end. Whatever an identifier consists of, it ends where it was meant to
end, and nothing of it is read as SQL.

- `Dialect.writeIdent`: an identifier behind what a buffer holds, written character by character.
- `readIdent?`: the identifier that a text begins with, and the rest of the text.
- `readQuoted?_doubleQuotes`, `eq_doubleQuotes`: reading accepts exactly what is written.
- `identifiers_contained`: identifiers are read as they were, and writing them only appends.
-/

namespace RecordSql

open Dialect (doubleQuotes)

/-! ### Writing to a buffer -/

namespace Dialect

/-- Appends a character of an identifier in double quotes. -/
def pushQuoted (out : String) (c : Char) : String :=
  if c = '"' then (out.push '"').push c else out.push c

/-- Appends an identifier to a buffer. -/
def writeIdent (d : Dialect) (out ident : String) : String :=
  match d with
  | .mySql => out ++ ident
  | .postgreSql => (ident.toList.foldl pushQuoted (out.push '"')).push '"'

theorem foldl_pushQuoted (cs : List Char) (out : String) :
    cs.foldl pushQuoted out = out ++ String.ofList (doubleQuotes cs) := by
  induction cs generalizing out with
  | nil => simp [doubleQuotes]
  | cons c cs ih =>
    show cs.foldl pushQuoted (pushQuoted out c) = _
    rw [ih, pushQuoted, doubleQuotes]
    by_cases hc : c = '"'
    · rw [if_pos hc, if_pos hc, ← String.toList_inj]
      simp [hc]
    · rw [if_neg hc, if_neg hc, ← String.toList_inj]
      simp

/-- The buffer keeps what it holds, and the quoted identifier comes behind it. -/
theorem writeIdent_eq (d : Dialect) (out ident : String) : d.writeIdent out ident = out ++ d.quote ident := by
  cases d with
  | mySql => rfl
  | postgreSql =>
    rw [writeIdent, foldl_pushQuoted, quote, ← String.toList_inj]
    simp

end Dialect

/-! ### Reading -/

/-- What stands between the opening quote, which has been read, and the closing one, and the rest behind it. -/
def readQuoted? : List Char → Option (List Char × List Char)
  | [] => none
  | '"' :: '"' :: cs => (readQuoted? cs).map fun p => ('"' :: p.1, p.2)
  | c :: cs => if c = '"' then some ([], cs) else (readQuoted? cs).map fun p => (c :: p.1, p.2)

/-- The quoted identifier that a text begins with, and the rest. -/
def readIdent? (text : String) : Option (String × String) :=
  match text.toList with
  | '"' :: cs => (readQuoted? cs).map fun p => (String.ofList p.1, String.ofList p.2)
  | _ => none

section

variable {cs name rest : List Char}

/-- The first quote that no other one follows is the end. -/
theorem readQuoted?_closing (hrest : rest.head? ≠ some '"') : readQuoted? ('"' :: rest) = some ([], rest) := by
  cases rest with
  | nil => rfl
  | cons c rest =>
    have hc : c ≠ '"' := fun h => hrest (by rw [h, List.head?_cons])
    rw [readQuoted?.eq_3 _ _ fun _ _ h => hc (List.cons.inj h).1, if_pos rfl]

theorem readQuoted?_cons {c : Char} (hc : c ≠ '"') (cs : List Char) :
    readQuoted? (c :: cs) = (readQuoted? cs).map fun p => (c :: p.1, p.2) := by
  rw [readQuoted?.eq_3 _ _ fun _ h => absurd h hc, if_neg hc]

/-- Whatever an identifier consists of, it is read up to its closing quote. -/
theorem readQuoted?_doubleQuotes (name : List Char) (hrest : rest.head? ≠ some '"') :
    readQuoted? (doubleQuotes name ++ '"' :: rest) = some (name, rest) := by
  induction name with
  | nil => exact readQuoted?_closing hrest
  | cons c name ih =>
    rw [doubleQuotes]
    by_cases hc : c = '"'
    · rw [if_pos hc, List.cons_append, List.cons_append, readQuoted?, ih, hc]
      rfl
    · rw [if_neg hc, List.cons_append, readQuoted?_cons hc, ih]
      rfl

/-- What is read has been written, and the quote at its end is its last one. -/
theorem eq_doubleQuotes (h : readQuoted? cs = some (name, rest)) :
    cs = doubleQuotes name ++ '"' :: rest ∧ rest.head? ≠ some '"' := by
  fun_induction readQuoted? cs generalizing name with
  | case1 => cases h
  | case2 cs ih =>
    obtain ⟨⟨name, _⟩, hread, heq⟩ := Option.map_eq_some_iff.1 h
    cases heq
    obtain ⟨hcs, hrest⟩ := ih hread
    exact ⟨by rw [hcs]; rfl, hrest⟩
  | case3 cs hlone =>
    cases h
    refine ⟨rfl, fun hhead => ?_⟩
    obtain ⟨more, rfl⟩ := List.head?_eq_some_iff.1 hhead
    exact hlone more rfl rfl
  | case4 c cs _ hc ih =>
    obtain ⟨⟨name, _⟩, hread, heq⟩ := Option.map_eq_some_iff.1 h
    cases heq
    obtain ⟨hcs, hrest⟩ := ih hread
    exact ⟨by rw [doubleQuotes, if_neg hc, hcs]; rfl, hrest⟩

/-- Reading accepts exactly what is written. -/
theorem readQuoted?_eq_some :
    readQuoted? cs = some (name, rest) ↔ cs = doubleQuotes name ++ '"' :: rest ∧ rest.head? ≠ some '"' := by
  constructor
  · exact eq_doubleQuotes
  · rintro ⟨rfl, hrest⟩
    exact readQuoted?_doubleQuotes name hrest

example : readQuoted? ['a', '"', '"', '"', ' '] = some (['a', '"'], [' ']) := rfl

end

/-- A text begins with an identifier exactly if it begins with its quoted form, and no quote goes on behind
it. -/
theorem readIdent?_eq_some {text name rest : String} :
    readIdent? text = some (name, rest) ↔
      text = Dialect.postgreSql.quote name ++ rest ∧ rest.toList.head? ≠ some '"' := by
  have hquote : (Dialect.postgreSql.quote name ++ rest).toList =
      '"' :: (doubleQuotes name.toList ++ '"' :: rest.toList) := by
    simp [Dialect.quote]
  rw [← String.toList_inj, hquote, readIdent?]
  split
  · rename_i cs htext
    rw [htext]
    constructor
    · intro h
      obtain ⟨⟨name, rest⟩, hread, heq⟩ := Option.map_eq_some_iff.1 h
      cases heq
      obtain ⟨rfl, hrest⟩ := readQuoted?_eq_some.1 hread
      simpa using hrest
    · rintro ⟨heq, hrest⟩
      have hread : readQuoted? cs = some (name.toList, rest.toList) :=
        readQuoted?_eq_some.2 ⟨(List.cons.inj heq).2, hrest⟩
      rw [hread, Option.map_some, String.ofList_toList, String.ofList_toList]
  · rename_i hopening
    exact iff_of_false nofun fun h => hopening _ h.1

/-! ### Identifiers in statements -/

/-- The text of a statement up to an identifier is the buffer that the identifier is written to. -/
theorem layoutWith_ident (print : Value → String) (d : Dialect) (l : Layout) (depth : Nat) (ps qs : List Piece)
    (name : String) :
    layoutWith print d l depth (ps ++ .ident name :: qs) =
      d.writeIdent (layoutWith print d l depth ps) name ++ layoutWith print d l (depthAfterAll depth ps) qs := by
  rw [layoutWith_append, Dialect.writeIdent_eq, String.append_assoc]
  rfl

/-- A quoted identifier can not be left from within: a text is read as an identifier and a rest exactly if it is
the quoted identifier with this rest, and the rest does not go on with a quote. So identifiers with one quoted
form are the same. An identifier is written behind what has been written before, which stays as it is; this is
so where a statement is written step by step and where its pieces are laid out. -/
theorem identifiers_contained :
    (∀ text name rest : String, readIdent? text = some (name, rest) ↔
      text = Dialect.postgreSql.quote name ++ rest ∧ rest.toList.head? ≠ some '"') ∧
    Function.Injective Dialect.postgreSql.quote ∧
    (∀ (d : Dialect) (out name : String), d.writeIdent out name = out ++ d.quote name) ∧
    (∀ (w : Writer) (name : String),
      writeIdent name w = .ok () { w with output := w.options.dialect.writeIdent w.output name }) ∧
    ∀ (print : Value → String) (d : Dialect) (l : Layout) (depth : Nat) (ps qs : List Piece) (name : String),
      layoutWith print d l depth (ps ++ .ident name :: qs) =
        d.writeIdent (layoutWith print d l depth ps) name ++
          layoutWith print d l (depthAfterAll depth ps) qs := by
  refine ⟨fun text name rest => readIdent?_eq_some, ?_, Dialect.writeIdent_eq, ?_, layoutWith_ident⟩
  · intro name name' hquote
    have hread : ∀ n : String, readIdent? (Dialect.postgreSql.quote n) = some (n, "") := by
      intro n
      rw [readIdent?_eq_some]
      exact ⟨by simp, nofun⟩
    have hsame : some (name, "") = some (name', "") := by rw [← hread, ← hread, hquote]
    exact (Prod.mk.inj (Option.some.inj hsame)).1
  · intro w name
    rw [Dialect.writeIdent_eq]
    rfl

/-- A quote within an identifier does not end it. -/
theorem quotedName_contained :
    " as t".toList.head? ≠ some '"' ∧
      readIdent? (Dialect.postgreSql.quote "user\"name" ++ " as t") = some ("user\"name", " as t") := by
  have hrest : " as t".toList.head? ≠ some '"' := by decide
  exact ⟨hrest, (identifiers_contained.1 _ _ _).2 ⟨rfl, hrest⟩⟩

end RecordSql
