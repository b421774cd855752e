import RecordSql.Proofs.Compilation
import RecordSql.Proofs.Grouping.Trees
import RecordSql.Proofs.Rendering.Nesting

/-!
# Reading compiled expressions back

The text of an expression is followed token by token: what the reader has taken of it are the elements of
the expression, the operands between parentheses read already.

- `Takes`: tokens, the values they bind, and the elements that the reader makes of them.
- `Written`: pieces with their text, its tokens and their elements.
- `written`: the pieces of an expression.
- `readBack_compiled`: a compiled expression is read back as what it says exactly if it is grouped.
-/

namespace RecordSql

namespace Grouping

/-! ### Tokens -/

/-- Elements behind which a name or parentheses have nothing to do with them. -/
def Ready : List Element → Prop
  | .dot :: _ | .in :: _ => False
  | _ => True

/-- The elements that the reader makes of some tokens, and the values that these bind. -/
def Takes (ts : List Token) (bound : List Value) (es : Option (List Element)) : Prop :=
  ∀ (r : Reader) (values : List Value), r.values = bound ++ values → Ready r.elements →
    ts.foldlM Reader.take r =
      es.map fun es => { r with elements := es.reverse ++ r.elements, values := values }

namespace Takes

variable {ts us : List Token} {bound more : List Value} {es es' : Option (List Element)}

theorem takeName_ready {r : Reader} (h : Ready r.elements) (n : String) :
    r.takeName n = r.push (.term (.column none n)) := by
  unfold Reader.takeName
  split
  · rename_i heq
    rw [heq] at h
    exact h.elim
  · rfl

theorem name (n : String) : Takes [.name n] [] (some [.term (.column none n)]) := by
  rintro ⟨elements, outer, bound⟩ values hv hready
  cases hv
  show some (Reader.takeName _ n) = _
  rw [takeName_ready hready]
  rfl

theorem qualified (table n : String) :
    Takes [.name table, .dot, .name n] [] (some [.term (.column (some table) n)]) := by
  rintro ⟨elements, outer, bound⟩ values hv hready
  cases hv
  show [Token.dot, Token.name n].foldlM Reader.take (Reader.takeName _ table) = _
  rw [takeName_ready hready]
  rfl

theorem value (v : Value) : Takes [.placeholder] [v] (some [.term (.value v)]) := by
  rintro ⟨elements, outer, bound⟩ values hv _
  cases hv
  rfl

/-- An operator or a junction between two operands. -/
theorem between {t : Token} {x : Element} (ht : ∀ r : Reader, r.take t = some (r.push x))
    (hx : ∀ es, Ready (x :: es)) (h : Takes ts bound es) (h' : Takes us more es') :
    Takes (ts ++ t :: us) (bound ++ more) (es.bind fun a => es'.map fun b => a ++ x :: b) := by
  intro r values hv hready
  rw [List.append_assoc] at hv
  rw [List.foldlM_append, h r _ hv hready]
  cases es with
  | none => rfl
  | some a =>
    show (Reader.take _ t).bind _ = _
    rw [ht, Option.bind_some, h' _ values rfl (hx _)]
    cases es' with
    | none => rfl
    | some b => simp [Reader.push]

/-- A negation in front. -/
theorem not (h : Takes ts bound es) : Takes (.not :: ts) bound (es.map (.not :: ·)) := by
  intro r values hv _
  rw [List.foldlM_cons]
  show (ts.foldlM Reader.take (r.push .not)) = _
  rw [h (r.push .not) values hv trivial]
  cases es with
  | none => rfl
  | some a => simp [Reader.push]

theorem close_ready {content around : List Element} (h : Ready around) :
    Reader.close content around = (reduce content).map fun t => .term t :: around := by
  unfold Reader.close
  split
  · exact h.elim
  · rfl

/-- Parentheses. -/
theorem group (h : Takes ts bound es) :
    Takes (.opening :: ts ++ [Token.closing]) bound ((es.bind reduce).map fun t => [.term t]) := by
  intro r values hv hready
  rw [List.cons_append, List.foldlM_cons]
  show (ts ++ [Token.closing]).foldlM Reader.take ⟨[], r.elements :: r.outer, r.values⟩ = _
  rw [List.foldlM_append, h ⟨[], r.elements :: r.outer, r.values⟩ values hv trivial]
  cases es with
  | none => rfl
  | some a =>
    rw [Option.bind_some]
    show ((Reader.close (a.reverse ++ []).reverse r.elements).map _).bind _ = _
    rw [List.append_nil, List.reverse_reverse, close_ready hready]
    cases reduce a with
    | none => rfl
    | some t => rfl

/-- A comparison with null behind a column. -/
theorem isNull (h : Takes ts bound es) :
    Takes (ts ++ [Token.is, .null]) bound (es.map (· ++ [Element.isNull])) := by
  intro r values hv hready
  rw [List.foldlM_append, h r values hv hready]
  cases es with
  | none => rfl
  | some a =>
    show some _ = some _
    simp [Reader.push]

/-- The tokens of a list of values. -/
def listTokens : List Value → List Token
  | [] => []
  | [_] => [.placeholder]
  | _ :: v :: vs => .placeholder :: .comma :: listTokens (v :: vs)

/-- The elements of a list of values. -/
def listElements : List Value → List Element
  | [] => []
  | [v] => [.term (.value v)]
  | v :: w :: vs => .term (.value v) :: .comma :: listElements (w :: vs)

theorem list : ∀ vs : List Value, Takes (listTokens vs) vs (some (listElements vs))
  | [] => by
    rintro ⟨elements, outer, bound⟩ values hv _
    cases hv
    rfl
  | [v] => value v
  | v :: w :: vs =>
    between (x := .comma) (fun _ => rfl) (fun _ => trivial) (value v) (list (w :: vs))

theorem listed_listElements : ∀ (v : Value) (vs : List Value),
    listed (listElements (v :: vs)) = some (v :: vs)
  | v, [] => rfl
  | v, w :: vs => by
    show (listed (listElements (w :: vs))).map (v :: ·) = _
    rw [listed_listElements]
    rfl

theorem close_list (vs : List Value) (around : List Element) :
    Reader.close (listElements vs) (.in :: around) = some (.among vs :: around) := by
  cases vs with
  | nil => rfl
  | cons v vs =>
    have hne : (listElements (v :: vs)).isEmpty = false := by cases vs <;> rfl
    rw [Reader.close, hne, if_neg Bool.false_ne_true, listed_listElements]
    rfl

/-- A choice of values behind a column. -/
theorem among (h : Takes ts bound es) (vs : List Value) :
    Takes (ts ++ .in :: .opening :: listTokens vs ++ [Token.closing]) (bound ++ vs)
      (es.map (· ++ [Element.among vs])) := by
  intro r values hv hready
  rw [List.append_assoc] at hv
  rw [List.append_assoc, List.foldlM_append, h r _ hv hready]
  cases es with
  | none => rfl
  | some a =>
    show (listTokens vs ++ [Token.closing]).foldlM Reader.take
      ⟨[], (.in :: (a.reverse ++ r.elements)) :: r.outer, vs ++ values⟩ = _
    rw [List.foldlM_append, list vs ⟨[], _, vs ++ values⟩ values rfl trivial]
    show ((Reader.close ((listElements vs).reverse ++ []).reverse _).map _).bind _ = _
    rw [List.append_nil, List.reverse_reverse, close_list]
    simp [Option.bind]

end Takes

/-! ### Texts -/

/-- The label of a table is written as the name that it is read as. -/
theorem lexes_label {d : Dialect} {label : TableLabel} (h : Writable d label.name) :
    Lexes d (label.text d).toList [.name label.name] := by
  cases label with
  | abbreviation n => exact (abbreviation_plain n).lexes
  | named s => exact lexes_name h

/-- Pieces of whose text the reader makes some elements. -/
def Written (d : Dialect) (l : Layout) (ps : List Piece) (es : Option (List Element)) : Prop :=
  ∃ text ts, TextOf (fun _ => "?") d l 0 text ps ∧ Lexes d text.toList ts ∧ Takes ts (parameters ps) es

namespace Written

variable {d : Dialect} {l : Layout} {ps qs : List Piece} {es es' : Option (List Element)}

theorem ident {n : String} (hn : Writable d n) :
    Written d l [.ident n] (some [.term (.column none n)]) :=
  ⟨_, _, .plain rfl, lexes_name hn, .name n⟩

theorem column {label : TableLabel} {n : String} (hl : Writable d label.name) (hn : Writable d n) :
    Written d l [.column label n] (some [.term (.column (some label.name) n)]) := by
  refine ⟨_, _, .plain rfl, ?_, .qualified label.name n⟩
  show Lexes d (label.text d ++ "." ++ d.quote n).toList _
  rw [String.toList_append, String.toList_append]
  have hdot : LexesWhole d ['.'] [.dot] := whole_char rfl
  exact ((lexes_label hl).append_whole hdot (by simp) (by decide)).append_lexes (lexes_name hn)

theorem textOf_value (v : Value) : TextOf (fun _ => "?") d l 0 "?" [.value v] :=
  .plain (p := .value v) rfl

theorem value (v : Value) : Written d l [.value v] (some [.term (.value v)]) :=
  ⟨"?", _, textOf_value v, (whole_char (c := '?') rfl).lexes, .value v⟩

/-- A word between two operands. -/
theorem between {s : String} {t : Token} {x : Element} (hs : LexesWhole d s.toList [t])
    (hstops : ∃ c cs, s.toList = c :: cs ∧ Stops (c :: cs)) (hq : '?' ∉ s.toList)
    (ht : ∀ r : Reader, r.take t = some (r.push x)) (hx : ∀ es, Ready (x :: es))
    (h : Written d l ps es) (h' : Written d l qs es') :
    Written d l (ps ++ [Piece.word s] ++ qs) (es.bind fun a => es'.map fun b => a ++ x :: b) := by
  obtain ⟨text, ts, htext, hlex, htakes⟩ := h
  obtain ⟨text', us, htext', hlex', htakes'⟩ := h'
  refine ⟨text ++ s ++ text', ts ++ t :: us, (htext.append (.word hq)).append htext', ?_, ?_⟩
  · obtain ⟨c, cs, hcs, hstop⟩ := hstops
    rw [String.toList_append, String.toList_append]
    have hfirst := hlex.append_whole hs (by simp [hcs]) (hcs ▸ hstop)
    have hall := hfirst.append_lexes hlex'
    rwa [List.append_assoc ts] at hall
  · rw [parameters_append, parameters_append]
    show Takes _ (parameters ps ++ [] ++ parameters qs) _
    rw [List.append_nil]
    exact htakes.between ht hx htakes'

/-- Text between blanks stops what is in front of it. -/
theorem spaced_stops (s : String) : ∃ c cs, (" " ++ s ++ " ").toList = c :: cs ∧ Stops (c :: cs) :=
  ⟨' ', s.toList ++ [' '], by simp [String.toList_append], stops_blank _⟩

theorem operator (op : Operator) (h : Written d l ps es) (h' : Written d l qs es') :
    Written d l (ps ++ [Piece.word (" " ++ op.text ++ " ")] ++ qs)
      (es.bind fun a => es'.map fun b => a ++ .operator op :: b) :=
  between (whole_spaced (lexes_operator op)) (spaced_stops op.text) (by cases op <;> decide)
    (fun _ => rfl) (fun _ => trivial) h h'

theorem junction (op : Junction) (h : Written d l ps es) (h' : Written d l qs es') :
    Written d l (ps ++ [Piece.word (" " ++ op.text ++ " ")] ++ qs)
      (es.bind fun a => es'.map fun b => a ++ .junction op :: b) :=
  between (whole_spaced (lexes_junction op)) (spaced_stops op.text) (by cases op <;> decide)
    (fun _ => rfl) (fun _ => trivial) h h'

/-- Parentheses. -/
theorem parens (h : Written d l ps es) :
    Written d l (parenthesized ps) ((es.bind reduce).map fun t => [.term t]) := by
  obtain ⟨text, ts, htext, hlex, htakes⟩ := h
  refine ⟨"(" ++ text ++ ")", .opening :: ts ++ [Token.closing], ?_, ?_, ?_⟩
  · exact (TextOf.append (.word (by decide)) htext).append (.word (by decide))
  · rw [String.toList_append, String.toList_append]
    have hopen : LexesWhole d ['('] [.opening] := whole_char rfl
    have hclose : LexesWhole d [')'] [.closing] := whole_char rfl
    exact ((hopen.append_lexes hlex).append_whole hclose (by simp) (by decide)).lexes
  · show Takes _ (parameters (ps ++ [Piece.word ")"])) _
    rw [parameters_append]
    show Takes _ (parameters ps ++ []) _
    rw [List.append_nil]
    exact htakes.group

/-- A negation in front. -/
theorem not (h : Written d l ps es) : Written d l (.word "not " :: ps) (es.map (.not :: ·)) := by
  obtain ⟨text, ts, htext, hlex, htakes⟩ := h
  refine ⟨"not " ++ text, .not :: ts, .cons (.word (by decide)) htext, ?_, htakes.not⟩
  rw [String.toList_append]
  exact whole_not.append_lexes hlex

/-- A comparison with null. -/
theorem isNull (h : Written d l ps es) :
    Written d l (ps ++ [Piece.word " is null"]) (es.map (· ++ [Element.isNull])) := by
  obtain ⟨text, ts, htext, hlex, htakes⟩ := h
  refine ⟨text ++ " is null", ts ++ [Token.is, .null], htext.append (.word (by decide)), ?_, ?_⟩
  · rw [String.toList_append]
    exact hlex.append lexes_isNull (by decide) (stops_blank _)
  · rw [parameters_append]
    show Takes _ (parameters ps ++ []) _
    rw [List.append_nil]
    exact htakes.isNull

theorem values : ∀ vs : List Value, ∃ text, TextOf (fun _ => "?") d l 0 text (valueList vs) ∧
    LexesWhole d text.toList (Takes.listTokens vs)
  | [] => ⟨"", .nil, fun _ => Option.map_id'.symm⟩
  | [v] => ⟨"?", textOf_value v, whole_char (c := '?') rfl⟩
  | v :: w :: vs => by
    obtain ⟨text, htext, hlex⟩ := values (w :: vs)
    refine ⟨"?" ++ (", " ++ text), .cons (textOf_value v) (.cons (.word (by decide)) htext), ?_⟩
    rw [String.toList_append, String.toList_append]
    have hmark : LexesWhole d ['?'] [.placeholder] := whole_char rfl
    exact hmark.append (whole_comma.append hlex)

theorem parameters_valueList : ∀ vs : List Value, parameters (valueList vs) = vs
  | [] => rfl
  | [_] => rfl
  | v :: w :: vs => congrArg (v :: ·) (parameters_valueList (w :: vs))

/-- A choice of values. -/
theorem among (h : Written d l ps es) (vs : List Value) :
    Written d l (ps ++ .word " in (" :: valueList vs ++ [Piece.word ")"]) (es.map (· ++ [Element.among vs])) := by
  obtain ⟨text, ts, htext, hlex, htakes⟩ := h
  obtain ⟨text', htext', hlex'⟩ := values (d := d) (l := l) vs
  refine ⟨text ++ (" in (" ++ text') ++ ")", ts ++ .in :: .opening :: Takes.listTokens vs ++ [Token.closing],
    ?_, ?_, ?_⟩
  · exact (htext.append (.cons (.word (by decide)) htext')).append (.word (by decide))
  · rw [String.toList_append, String.toList_append, String.toList_append]
    have hclose : LexesWhole d [')'] [.closing] := whole_char rfl
    have hin := whole_in.append hlex'
    exact ((hlex.append_whole hin (by simp) (stops_blank _)).append hclose).lexes
  · rw [parameters_append, parameters_append]
    show Takes _ (parameters ps ++ parameters (valueList vs) ++ []) _
    rw [List.append_nil, parameters_valueList]
    exact htakes.among vs

end Written

/-! ### Expressions -/

mutual

/-- The names in a term. -/
def Term.names : Term → List String
  | .column table name => table.toList ++ [name]
  | .value _ => []
  | .binary _ l r => l.names ++ r.names
  | .junction _ ts => termsNames ts
  | .not t | .isNull t | .among t _ => t.names

/-- The names in several terms. -/
def termsNames : List Term → List String
  | [] => []
  | t :: ts => t.names ++ termsNames ts

end

section Expressions

variable {f : Frame} {l : Layout} (expand : Frame → Expr → Rendered)

/-- A reference is written as the column that it stands for. -/
theorem reference_written {c : FieldRef} {t : Term} (h : f.column? c = some t)
    (hn : ∀ n ∈ t.names, Writable f.dialect n) :
    ∃ ps, referencePieces expand f .plain c = .ok ps ∧ Written f.dialect l ps (some [.term t]) := by
  unfold Frame.column? at h
  rw [referencePieces_eq]
  split at h
  · rename_i n hr
    cases h
    rw [hr]
    exact ⟨_, rfl, .ident (hn n (List.mem_singleton_self n))⟩
  · rename_i label n hr
    cases h
    rw [hr]
    exact ⟨_, rfl, .column (hn _ List.mem_cons_self) (hn _ (List.mem_cons_of_mem _ List.mem_cons_self))⟩
  · cases h

/-- An operand has parentheses if it is compound. -/
theorem operand_written {e : Expr} {t : Term} {ps : List Piece} (ht : e.tree? f = some t)
    (h : Written f.dialect l ps (e.flat? f)) :
    Written f.dialect l (if e.isInfix then parenthesized ps else ps)
      ((e.core? f).map fun t => (e.operand t).elements) := by
  split
  case isTrue hi =>
    have hw := h.parens
    rw [reduce_flat ht, Expr.read, Option.map_map] at hw
    simp only [isInfix_operand hi] at hw ⊢
    exact hw
  case isFalse hi =>
    cases e with
    | binary _ _ _ => exact absurd rfl hi
    | junction _ _ => exact absurd rfl hi
    | _ => exact h

theorem exprsPieces_cons {e : Expr} {es : List Expr} {pss : List (List Piece)}
    (h : exprsPieces expand f (e :: es) = .ok pss) : ∃ ps rest, pss = ps :: rest := by
  change (exprPieces expand f e >>= fun first => exprsPieces expand f es >>= fun rest =>
    .ok (first :: rest)) = _ at h
  cases hfirst : exprPieces expand f e with
  | error _ =>
    rw [hfirst] at h
    cases h
  | ok ps =>
    cases hrest : exprsPieces expand f es with
    | error _ =>
      rw [hfirst, hrest] at h
      cases h
    | ok rest =>
      rw [hfirst, hrest] at h
      cases h
      exact ⟨ps, rest, rfl⟩

/-- The pieces of several expressions, each of them in parentheses, with a junction between any two. -/
theorem chain_written (op : Junction) : ∀ {es : List Expr} {ts : List Term},
    (∀ e ∈ es, ∀ t, e.tree? f = some t → (∀ n ∈ t.names, Writable f.dialect n) →
      ∃ ps, exprPieces expand f e = .ok ps ∧ Written f.dialect l ps (e.flat? f)) →
    exprsTrees f es = some ts → (∀ n ∈ termsNames ts, Writable f.dialect n) →
    ∃ pss, exprsPieces expand f es = .ok pss ∧ (es ≠ [] →
      Written f.dialect l (separated (" " ++ op.text ++ " ") (pss.map parenthesized))
        ((exprsRead f es).map (chained op)))
  | [], ts, _, _, _ => ⟨[], rfl, fun h => absurd rfl h⟩
  | e :: es, ts, ih, h, hn => by
    obtain ⟨t, ht, h⟩ := Option.bind_eq_some_iff.1 h
    obtain ⟨us, hus, rfl⟩ := Option.map_eq_some_iff.1 h
    obtain ⟨ps, hps, hw⟩ := ih e List.mem_cons_self t ht fun n hmem => hn n (List.mem_append_left _ hmem)
    obtain ⟨pss, hpss, hrest⟩ := chain_written op (fun e' he => ih e' (List.mem_cons_of_mem e he)) hus
      fun n hmem => hn n (List.mem_append_right _ hmem)
    refine ⟨ps :: pss, ?_, fun _ => ?_⟩
    · show (exprPieces expand f e >>= fun first => exprsPieces expand f es >>= fun rest =>
        .ok (first :: rest)) = _
      rw [hps, hpss]
      rfl
    · have first := hw.parens
      rw [reduce_flat ht, Expr.read, Option.map_map] at first
      cases es with
      | nil =>
        cases hpss
        show Written _ _ (parenthesized ps) (((e.core? f).bind _).map (chained op))
        cases hc : e.core? f with
        | none =>
          rw [hc] at first
          exact first
        | some x =>
          rw [hc] at first
          exact first
      | cons e' es =>
        obtain ⟨qs, qss, rfl⟩ := exprsPieces_cons expand hpss
        have both := first.junction op (hrest (List.cons_ne_nil e' es))
        show Written _ _ (parenthesized ps ++ .word _ :: separated _ (parenthesized qs :: qss.map parenthesized))
          (((e.core? f).bind _).map (chained op))
        rw [List.append_assoc] at both
        cases hc : e.core? f with
        | none =>
          rw [hc] at both
          exact both
        | some x =>
          rw [hc] at both
          cases hr : exprsRead f (e' :: es) with
          | none =>
            rw [hr] at both
            exact both
          | some rest =>
            obtain ⟨u, us, rfl⟩ := List.exists_cons_of_length_eq_add_one (exprsRead_length hr)
            rw [hr] at both
            exact both

/-- The pieces of an expression, and the elements that the reader makes of their text. -/
theorem written {e : Expr} {t : Term} (ht : e.tree? f = some t)
    (hn : ∀ n ∈ t.names, Writable f.dialect n) :
    ∃ ps, exprPieces expand f e = .ok ps ∧ Written f.dialect l ps (e.flat? f) := by
  have cases : ExprCases (fun e => ∀ t, e.tree? f = some t → (∀ n ∈ t.names, Writable f.dialect n) →
      ∃ ps, exprPieces expand f e = .ok ps ∧ Written f.dialect l ps (e.flat? f)) (fun _ => True) := by
    refine ⟨?column, nofun, ?value, nofun, nofun, ?binary, ?junction, ?not, ?isNull, ?inList, nofun,
      nofun, fun _ _ _ _ _ _ => trivial⟩
    case column =>
      intro c t h hn
      obtain ⟨ps, hps, hw⟩ := reference_written expand (l := l) h hn
      refine ⟨ps, hps, ?_⟩
      show Written _ _ _ ((f.column? c).map _)
      rw [show f.column? c = some t from h]
      exact hw
    case value => exact fun v _ _ _ => ⟨_, rfl, .value v⟩
    case binary =>
      intro op l' r ihl ihr t h hn
      obtain ⟨a, ha, h⟩ := Option.bind_eq_some_iff.1 h
      obtain ⟨b, hb, rfl⟩ := Option.map_eq_some_iff.1 h
      obtain ⟨ps, hps, hw⟩ := ihl a ha fun n hmem => hn n (List.mem_append_left _ hmem)
      obtain ⟨qs, hqs, hw'⟩ := ihr b hb fun n hmem => hn n (List.mem_append_right _ hmem)
      refine ⟨(if l'.isInfix then parenthesized ps else ps) ++ [Piece.word (" " ++ op.text ++ " ")] ++
        (if r.isInfix then parenthesized qs else qs), ?_, ?_⟩
      · show (exprPieces expand f l' >>= fun left => exprPieces expand f r >>= fun right => _) = _
        rw [hps, hqs]
        rfl
      · have both := (operand_written ha hw).operator op (operand_written hb hw')
        simp only [Option.bind_map, Option.map_map, Function.comp_def] at both
        exact both
    case junction =>
      intro op operands ih t h hn
      obtain ⟨ts, hts, h⟩ := Option.bind_eq_some_iff.1 h
      obtain ⟨htwo, heq⟩ := Option.ite_none_right_eq_some.1 h
      cases heq
      obtain ⟨pss, hpss, hw⟩ := chain_written expand op ih hts hn
      refine ⟨separated (" " ++ op.text ++ " ") (pss.map parenthesized), ?_, hw ?_⟩
      · show (exprsPieces expand f operands >>= fun items => _) = _
        rw [hpss]
        rfl
      · rintro rfl
        cases hts
        simp at htwo
    case not =>
      intro e ih t h hn
      obtain ⟨u, hu, rfl⟩ := Option.map_eq_some_iff.1 h
      obtain ⟨ps, hps, hw⟩ := ih u hu hn
      refine ⟨.word "not " :: parenthesized ps, ?_, ?_⟩
      · show (exprPieces expand f e >>= fun inner => _) = _
        rw [hps]
        rfl
      · have inner := hw.parens.not
        rw [reduce_flat hu, Option.map_map] at inner
        show Written _ _ _ (((e.core? f).map _).map _)
        exact inner
    case isNull =>
      intro c t h hn
      obtain ⟨u, hu, rfl⟩ := Option.map_eq_some_iff.1 h
      obtain ⟨ps, hps, hw⟩ := reference_written expand (l := l) hu hn
      refine ⟨ps ++ [Piece.word " is null"], ?_, ?_⟩
      · show (referencePieces expand f .plain c >>= fun column => _) = _
        rw [hps]
        rfl
      · show Written _ _ _ ((f.column? c).map _)
        rw [hu]
        exact hw.isNull
    case inList =>
      intro c values t h hn
      obtain ⟨u, hu, rfl⟩ := Option.map_eq_some_iff.1 h
      obtain ⟨ps, hps, hw⟩ := reference_written expand (l := l) hu hn
      refine ⟨ps ++ .word " in (" :: valueList values ++ [Piece.word ")"], ?_, ?_⟩
      · show (referencePieces expand f .plain c >>= fun column => _) = _
        rw [hps]
        rfl
      · show Written _ _ _ ((f.column? c).map _)
        rw [hu]
        exact hw.among values
  exact cases.expr e t ht hn

/-- The text of some pieces is read as the term that their elements are put together to. -/
theorem Written.readBack_eq {d : Dialect} {ps : List Piece} {es : Option (List Element)}
    (h : Written d l ps es) : readBack d (layout d l ps) (parameters ps) = es.bind reduce := by
  obtain ⟨text, ts, htext, hlex, htakes⟩ := h
  have htokens : tokens d (layout d l ps) = some ts := by
    rw [layout, ← htext.1]
    exact hlex.tokens_eq
  have htake := htakes { elements := [], values := parameters ps } [] (List.append_nil _).symm trivial
  show (tokens d _).bind _ = _
  rw [htokens, Option.bind_some]
  show (ts.foldlM Reader.take _).bind _ = _
  rw [htake]
  cases es with
  | none => rfl
  | some es => simp

end Expressions

end Grouping

open Grouping

/-- An expression of columns, values, operators, junctions, negations and comparisons compiles, and its
text is read back as what the expression says exactly if the expression is grouped. -/
theorem readBack_compiled (catalog : Catalog) (options : Options) {σ σ' : Session} {e : Expr}
    {g : Registry} {t : Term} (hg : (Registry.build catalog e.records).runIn σ = (.ok g, σ'))
    (ht : e.tree? { dialect := options.dialect, registry := g } = some t)
    (hn : ∀ n ∈ t.names, Writable options.dialect n) :
    ∃ c, ((compileExpression catalog options e).runIn σ).1 = .ok c ∧
      (readBack options.dialect c.sql c.parameters = some t ↔ e.Grouped) := by
  obtain ⟨n, hdepth⟩ : ∃ n, expansionDepth e.definitionCount = n + 1 := ⟨_, rfl⟩
  obtain ⟨ps, hps, hw⟩ := written (expandWith n) (l := options.layout) ht hn
  have hfree : freeExprPieces options.dialect g e = .ok ps := by
    rw [freeExprPieces, hdepth]
    exact hps
  refine ⟨.ofPieces options ps, ?_, ?_⟩
  · rw [compileExpression_runIn, hg]
    show (freeExprPieces options.dialect g e).map _ = _
    rw [hfree]
    rfl
  · show readBack options.dialect (layout options.dialect options.layout ps) (parameters ps) = _ ↔ _
    rw [hw.readBack_eq, reduce_flat ht]
    exact read_iff_grouped ht

/-- Books that are cheap even at twice their length, or that are none of two given ones. -/
def shortOrOther : Expr :=
  .junction .or
    [.binary .lt (.binary .mul (.binary .add (.column (.of book "pages")) (.value (.integer 1)))
        (.value (.integer 2))) (.value (.integer 10)),
      .not (.inList (.of book "id") [.integer 3, .integer 4])]

/-- Sums in products and negations in junctions are read as they are meant. -/
theorem shortOrOther_readBack :
    ∃ c t, ((compileExpression {} {} shortOrOther).runIn library).1 = .ok c ∧
      c.sql = "(((t0.page_count + ?) * ?) < ?) or (not (t0.id in (?, ?)))" ∧
      shortOrOther.tree? { dialect := .mySql, registry := bookRegistry } = some t ∧
      readBack .mySql c.sql c.parameters = some t := by
  have hg : (Registry.build {} shortOrOther.records).runIn library = (.ok bookRegistry, library) :=
    build_library {} [book] (by decide)
  obtain ⟨t, ht, hn⟩ : ∃ t, shortOrOther.tree? { dialect := .mySql, registry := bookRegistry } = some t ∧
      ∀ n ∈ t.names, Writable .mySql n :=
    ⟨_, rfl, by decide⟩
  have hgrouped : shortOrOther.Grouped := by
    simp [shortOrOther, Expr.Grouped, exprsGrouped, Expr.StandsBefore, Expr.StandsBehind]
  obtain ⟨c, hc, hread⟩ := readBack_compiled {} {} hg ht hn
  refine ⟨c, t, hc, ?_, ht, hread.2 hgrouped⟩
  rw [compileExpression_runIn, hg] at hc
  cases hc
  decide +kernel

/-- The comparison of a negated column. -/
def negatedEquality : Expr :=
  .binary .eq (.not (.column ⟨none, "a", none⟩)) (.value (.integer 1))

/-- The comparison of a column whose name reads as a junction. -/
def junctionNamed : Expr :=
  .binary .eq (.column ⟨none, "a or b", none⟩) (.value (.integer 1))

/-- Negations are written without parentheses in front of an operator, which takes their operand then; and
a name that is not quoted may be read as something else. -/
theorem negatedEquality_regrouped :
    (∃ c, ((compileExpression {} {} negatedEquality).runIn {}).1 = .ok c ∧ c.sql = "not (a) = ?" ∧
      negatedEquality.tree? { dialect := .mySql, registry := {} } =
        some (.binary .eq (.not (.column none "a")) (.value (.integer 1))) ∧
      readBack .mySql c.sql c.parameters =
        some (.not (.binary .eq (.column none "a") (.value (.integer 1))))) ∧
    ∃ c, ((compileExpression {} {} junctionNamed).runIn {}).1 = .ok c ∧ c.sql = "a or b = ?" ∧
      junctionNamed.tree? { dialect := .mySql, registry := {} } =
        some (.binary .eq (.column none "a or b") (.value (.integer 1))) ∧
      readBack .mySql c.sql c.parameters =
        some (.junction .or [.column none "a", .binary .eq (.column none "b") (.value (.integer 1))]) := by
  constructor
  · refine ⟨.ofPieces {} [.word "not ", .word "(", .ident "a", .word ")", .word " = ",
      .value (.integer 1)], ?_, by decide +kernel, rfl, rfl⟩
    rw [compileExpression_runIn, show negatedEquality.records = [] from rfl, build_nil]
    rfl
  · refine ⟨.ofPieces {} [.ident "a or b", .word " = ", .value (.integer 1)], ?_, by decide +kernel, rfl, rfl⟩
    rw [compileExpression_runIn, show junctionNamed.records = [] from rfl, build_nil]
    rfl

end RecordSql
