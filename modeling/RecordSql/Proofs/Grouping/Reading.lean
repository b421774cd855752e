import RecordSql.Proofs.Grouping.Lexing
import RecordSql.Value

/-!
# Reading expressions

Tokens are read with SQL's precedence of operators. What stands between parentheses is read on its own,
level by level: products first, then sums, `&`, `|`, the comparisons with `is null` and `in`, `not`, `and`,
and `or` at last. Operators of one level associate to the left; a chain of the same junction is one
junction. A placeholder takes the next of the bound values.

- `Term`: what is read.
- `foldAt`, `negate`, `joinAt`, `reduce`: the levels.
- `Reader`, `Reader.take`, `readBack`: parentheses, and whole texts.
- `between_operands`, `between_misplaced`, `reduce_chained`: one operator between operands.
-/

namespace RecordSql.Grouping

/-- What a text says. -/
inductive Term
  | column (table : Option String) (name : String)
  | value (v : Value)
  | binary (op : Operator) (l r : Term)
  | junction (op : Junction) (operands : List Term)
  | not (t : Term)
  | isNull (t : Term)
  | among (t : Term) (values : List Value)

/-- The parts of what stands between parentheses. -/
inductive Element
  | term (t : Term)
  | operator (op : Operator)
  | junction (op : Junction)
  | not
  | is
  | isNull
  | in
  | among (values : List Value)
  | dot
  | comma

/-! ### Levels -/

/-- The levels of binary operators. -/
inductive Level
  | product
  | sum
  | bitAnd
  | bitOr
  | comparison
  deriving DecidableEq

/-- The level of an operator. -/
def level : Operator → Level
  | .mul | .div => .product
  | .add | .sub => .sum
  | .bitAnd => .bitAnd
  | .bitOr => .bitOr
  | .eq | .notEq | .lt | .ltEq | .gt | .gtEq | .like => .comparison

/-- One more element behind others, the last of them first: an operator of the given level gets its
operands when the right one is there. -/
def pushAt (k : Level) (es : List Element) (x : Element) : List Element :=
  match x, es with
  | .term right, .operator op :: .term left :: rest =>
    if level op = k then .term (.binary op left right) :: rest else x :: es
  | .isNull, .term left :: rest => if k = .comparison then .term (.isNull left) :: rest else x :: es
  | .among values, .term left :: rest =>
    if k = .comparison then .term (.among left values) :: rest else x :: es
  | _, _ => x :: es

/-- The operators of one level get their operands, from left to right. -/
def foldAt (k : Level) (es : List Element) : List Element :=
  (es.foldl (pushAt k) []).reverse

/-- All operators get their operands, the tightest ones first. -/
def foldAll (es : List Element) : List Element :=
  foldAt .comparison (foldAt .bitOr (foldAt .bitAnd (foldAt .sum (foldAt .product es))))

/-- A negation in front of other elements. -/
def negateNext : List Element → List Element
  | .term t :: rest => .term (.not t) :: rest
  | rest => .not :: rest

/-- Negations get their operands. -/
def negate : List Element → List Element
  | [] => []
  | .not :: rest => negateNext (negate rest)
  | x :: rest => x :: negate rest

/-- One more element in front of the first part. -/
def consFirst (x : Element) : List (List Element) → List (List Element)
  | [] => [[x]]
  | part :: parts => (x :: part) :: parts

/-- The parts between the occurrences of a junction. -/
def partsAt (op : Junction) : List Element → List (List Element)
  | [] => [[]]
  | .junction op' :: rest =>
    if op' = op then [] :: partsAt op rest else consFirst (.junction op') (partsAt op rest)
  | x :: rest => consFirst x (partsAt op rest)

/-- The operands of a junction; a single one stands for itself. -/
def chain (op : Junction) : List Term → Term
  | [t] => t
  | ts => .junction op ts

/-- A junction of what its parts say. -/
def joinAt (op : Junction) (read : List Element → Option Term) (es : List Element) : Option Term :=
  ((partsAt op es).mapM read).map (chain op)

/-- A term on its own. -/
def single : List Element → Option Term
  | [.term t] => some t
  | _ => none

/-- What some elements say. -/
def reduce (es : List Element) : Option Term :=
  joinAt .or (joinAt .and single) (negate (foldAll es))

/-! ### Parentheses -/

/-- Values that are separated by commas. -/
def listed : List Element → Option (List Value)
  | [.term (.value v)] => some [v]
  | .term (.value v) :: .comma :: rest => (listed rest).map (v :: ·)
  | _ => none

/-- What is being read: the elements of the innermost parentheses and of those around it, the last ones
first, and the values that are not bound yet. -/
structure Reader where
  elements : List Element
  outer : List (List Element) := []
  values : List Value := []

namespace Reader

/-- One more element. -/
def push (r : Reader) (x : Element) : Reader :=
  { r with elements := x :: r.elements }

/-- A name is a column, qualified if a dot stands in front of it. -/
def takeName (r : Reader) (n : String) : Reader :=
  match r.elements with
  | .dot :: .term (.column none table) :: es =>
    { r with elements := .term (.column (some table) n) :: es }
  | _ => r.push (.term (.column none n))

/-- Parentheses are values behind `in`, and terms elsewhere. -/
def close (content around : List Element) : Option (List Element) :=
  match around with
  | .in :: es =>
    (if content.isEmpty then some [] else listed content).map fun vs => .among vs :: es
  | _ => (reduce content).map fun t => .term t :: around

/-- The next token. -/
def take (r : Reader) : Token → Option Reader
  | .name n => some (r.takeName n)
  | .operator op => some (r.push (.operator op))
  | .junction op => some (r.push (.junction op))
  | .not => some (r.push .not)
  | .is => some (r.push .is)
  | .in => some (r.push .in)
  | .dot => some (r.push .dot)
  | .comma => some (r.push .comma)
  | .null =>
    match r.elements with
    | .is :: es => some { r with elements := .isNull :: es }
    | _ => none
  | .placeholder =>
    match r.values with
    | v :: vs => some { r with elements := .term (.value v) :: r.elements, values := vs }
    | [] => none
  | .opening => some { r with elements := [], outer := r.elements :: r.outer }
  | .closing =>
    match r.outer with
    | around :: outer =>
      (close r.elements.reverse around).map fun es => { r with elements := es, outer := outer }
    | [] => none

end Reader

/-- What a text says, given the values of its placeholders: all parentheses are closed and all values
bound in the end. -/
def readBack (dialect : Dialect) (sql : String) (values : List Value) : Option Term := do
  let ts ← tokens dialect sql
  let r ← ts.foldlM Reader.take { elements := [], values := values }
  if r.outer.isEmpty && r.values.isEmpty then reduce r.elements.reverse else none

/-! ### Operands -/

/-- What an operand looks like where it stands without parentheses of its own. -/
inductive Operand
  /-- A column, a value, or anything between parentheses. -/
  | plain (t : Term)
  | negated (t : Term)
  | isNull (t : Term)
  | among (t : Term) (values : List Value)

namespace Operand

/-- The elements of an operand. -/
def elements : Operand → List Element
  | .plain t => [.term t]
  | .negated t => [.not, .term t]
  | .isNull t => [.term t, .isNull]
  | .among t vs => [.term t, .among vs]

/-- What an operand says. -/
def term : Operand → Term
  | .plain t => t
  | .negated t => .not t
  | .isNull t => .isNull t
  | .among t vs => .among t vs

/-- An operand that an operator may follow: a comparison may follow another one. -/
def BeforeOperator (op : Operator) : Operand → Prop
  | .plain _ => True
  | .negated _ => False
  | .isNull _ | .among _ _ => level op = .comparison

/-- An operand that may follow an operator. -/
def AfterOperator : Operand → Prop
  | .plain _ => True
  | _ => False

end Operand

/-! ### Levels without operators -/

/-- An element of which a level takes no notice. -/
def Untouched (k : Level) : Element → Prop
  | .operator op => level op ≠ k
  | .isNull | .among _ => k ≠ .comparison
  | _ => True

/-- Nothing belongs to a level. -/
def Absent (k : Level) (es : List Element) : Prop :=
  ∀ x ∈ es, Untouched k x

section Levels

variable {k : Level} {es : List Element}

theorem pushAt_absent {x : Element} (hx : Untouched k x) (h : Absent k es) : pushAt k es x = x :: es := by
  unfold pushAt
  split
  · exact if_neg (h _ List.mem_cons_self)
  · exact if_neg hx
  · exact if_neg hx
  · rfl

/-- Where nothing belongs to a level nothing changes. -/
theorem foldAt_absent (h : Absent k es) : foldAt k es = es := by
  have pushed : ∀ (es stack : List Element), Absent k es → Absent k stack →
      es.foldl (pushAt k) stack = es.reverse ++ stack := by
    intro es
    induction es with
    | nil => exact fun _ _ _ => rfl
    | cons x es ih =>
      intro stack hes hstack
      obtain ⟨hx, hes⟩ := List.forall_mem_cons.1 hes
      rw [List.foldl_cons, pushAt_absent hx hstack, ih _ hes (List.forall_mem_cons.2 ⟨hx, hstack⟩),
        List.reverse_cons, List.append_assoc]
      rfl
  rw [foldAt, pushed es [] h (List.forall_mem_nil _), List.append_nil, List.reverse_reverse]

theorem foldAll_absent (h : ∀ k, Absent k es) : foldAll es = es := by
  rw [foldAll, foldAt_absent (h .product), foldAt_absent (h .sum), foldAt_absent (h .bitAnd),
    foldAt_absent (h .bitOr), foldAt_absent (h .comparison)]

/-- Of operators of one tight level, no other level takes notice. -/
theorem foldAll_tight {op : Operator} (hop : level op ≠ .comparison)
    (h : ∀ op', .operator op' ∈ es → op' = op)
    (h' : ∀ op', .operator op' ∈ foldAt (level op) es → op' = op) :
    foldAll es = foldAt .comparison (foldAt (level op) es) := by
  have others : ∀ {es : List Element}, (∀ op', .operator op' ∈ es → op' = op) →
      ∀ {j : Level}, level op ≠ j → j ≠ .comparison → Absent j es := by
    intro es hes j hj hne x hx
    cases x with
    | operator op' => exact hes op' hx ▸ hj
    | isNull => exact hne
    | among _ => exact hne
    | _ => trivial
  have before : ∀ {j : Level}, level op ≠ j → j ≠ .comparison → Absent j es := others h
  have after : ∀ {j : Level}, level op ≠ j → j ≠ .comparison → Absent j (foldAt (level op) es) :=
    others h'
  rw [foldAll]
  cases hk : level op with
  | comparison => exact absurd hk hop
  | product =>
    rw [hk] at after
    rw [foldAt_absent (after (j := .sum) nofun nofun), foldAt_absent (after (j := .bitAnd) nofun nofun),
      foldAt_absent (after (j := .bitOr) nofun nofun)]
  | sum =>
    rw [hk] at before after
    rw [foldAt_absent (before (j := .product) nofun nofun),
      foldAt_absent (after (j := .bitAnd) nofun nofun), foldAt_absent (after (j := .bitOr) nofun nofun)]
  | bitAnd =>
    rw [hk] at before after
    rw [foldAt_absent (before (j := .product) nofun nofun),
      foldAt_absent (before (j := .sum) nofun nofun), foldAt_absent (after (j := .bitOr) nofun nofun)]
  | bitOr =>
    rw [hk] at before after
    rw [foldAt_absent (before (j := .product) nofun nofun),
      foldAt_absent (before (j := .sum) nofun nofun), foldAt_absent (before (j := .bitAnd) nofun nofun)]

/-- Comparisons are the only operators there are. -/
theorem foldAll_comparison (h : ∀ op, .operator op ∈ es → level op = .comparison) :
    foldAll es = foldAt .comparison es := by
  have absent : ∀ {k : Level}, k ≠ .comparison → Absent k es := by
    intro k hk x hx
    cases x with
    | operator op => exact fun heq => hk (heq.symm.trans (h op hx))
    | isNull => exact hk
    | among _ => exact hk
    | _ => trivial
  rw [foldAll, foldAt_absent (absent (k := .product) nofun), foldAt_absent (absent (k := .sum) nofun),
    foldAt_absent (absent (k := .bitAnd) nofun), foldAt_absent (absent (k := .bitOr) nofun)]

theorem negate_absent (h : .not ∉ es) : negate es = es := by
  induction es with
  | nil => rfl
  | cons x es ih =>
    have hrest := ih fun hmem => h (List.mem_cons_of_mem x hmem)
    cases x with
    | not => exact absurd List.mem_cons_self h
    | _ => exact congrArg (_ :: ·) hrest

/-- Without a junction there is one part. -/
theorem partsAt_absent {op : Junction} (h : .junction op ∉ es) : partsAt op es = [es] := by
  induction es with
  | nil => rfl
  | cons x es ih =>
    have hrest := ih fun hmem => h (List.mem_cons_of_mem x hmem)
    cases x with
    | junction op' =>
      have hne : op' ≠ op := fun heq => h (heq ▸ List.mem_cons_self)
      rw [partsAt, if_neg hne, hrest]
      rfl
    | _ => exact congrArg (consFirst _) hrest

theorem joinAt_absent {op : Junction} {read : List Element → Option Term} (h : .junction op ∉ es) :
    joinAt op read es = read es := by
  rw [joinAt, partsAt_absent h, List.mapM_cons, List.mapM_nil]
  cases read es <;> rfl

end Levels

/-! ### One operator -/

namespace Operand

/-- What an operand is built on. -/
def core : Operand → Term
  | .plain t | .negated t | .isNull t | .among t _ => t

/-- A term with the negation of an operand in front of it. -/
def negates : Operand → Term → Term
  | .negated _, t => .not t
  | _, t => t

/-- A term with the comparison of an operand behind it. -/
def compares : Operand → Term → Term
  | .isNull _, t => .isNull t
  | .among _ vs, t => .among t vs
  | _, t => t

/-- What an operator between two operands stands for: a negation reaches beyond it, and so does a
comparison behind it. -/
def between (op : Operator) (l r : Operand) : Option Term :=
  match l, r with
  | _, .negated _ => none
  | .isNull _, _ | .among _ _, _ =>
    if level op = .comparison then some (r.compares (.binary op l.term r.core)) else none
  | _, _ => some (l.negates (r.compares (.binary op l.core r.core)))

end Operand

section Between

variable {op : Operator} {l r : Operand}

/-- An operand on its own. -/
theorem reduce_elements (o : Operand) : reduce o.elements = some o.term := by
  have hes : ∀ op, .operator op ∈ o.elements → level op = .comparison := by
    intro op h
    cases o <;> simp [Operand.elements] at h
  rw [reduce, foldAll_comparison hes]
  cases o <;> simp [Operand.elements, foldAt, pushAt, negate, negateNext, joinAt_absent, single,
    Operand.term]

theorem reduce_between (op : Operator) (l r : Operand) :
    reduce (l.elements ++ .operator op :: r.elements) = Operand.between op l r := by
  have hes : ∀ op', .operator op' ∈ l.elements ++ .operator op :: r.elements → op' = op := by
    intro op' h
    cases l <;> cases r <;> simpa [Operand.elements] using h
  by_cases hop : level op = .comparison
  · rw [reduce, foldAll_comparison fun op' h => hes op' h ▸ hop]
    cases l <;> cases r <;>
      simp [Operand.elements, Operand.between, foldAt, pushAt, negate, negateNext, joinAt_absent, single,
        hop, Operand.negates, Operand.compares, Operand.core, Operand.term]
  · have hfolded : ∀ op', .operator op' ∈ foldAt (level op) (l.elements ++ .operator op :: r.elements) →
        op' = op := by
      intro op' h
      cases l <;> cases r <;> simp [Operand.elements, foldAt, pushAt, hop] at h <;> exact h
    rw [reduce, foldAll_tight hop hes hfolded]
    cases l <;> cases r <;>
      simp [Operand.elements, Operand.between, foldAt, pushAt, negate, negateNext, joinAt_absent, single,
        hop, Operand.negates, Operand.compares, Operand.core]

/-- An operator between operands that may stand there. -/
theorem between_operands (hl : l.BeforeOperator op) (hr : r.AfterOperator) :
    Operand.between op l r = some (.binary op l.term r.term) := by
  cases r with
  | plain b =>
    cases l with
    | plain a => rfl
    | negated a => exact hl.elim
    | isNull a => exact if_pos hl
    | among a vs => exact if_pos hl
  | _ => exact hr.elim

/-- Whether a term is a binary operator with its operands. -/
def Term.isBinary : Term → Bool
  | .binary .. => true
  | _ => false

/-- Between other operands, what is read is no binary operator with two operands. -/
theorem between_misplaced (h : ¬(l.BeforeOperator op ∧ r.AfterOperator)) :
    (Operand.between op l r).any Term.isBinary = false := by
  have tight : ∀ {o : Option Term}, ¬level op = .comparison →
      (if level op = .comparison then o else none).any Term.isBinary = false := fun hop => by
    rw [if_neg hop]
    rfl
  have compared : ∀ {a : Term}, a.isBinary = false →
      (if level op = .comparison then some a else none).any Term.isBinary = false := fun ha => by
    split
    · exact ha
    · rfl
  cases r with
  | plain b =>
    cases l with
    | plain a => exact absurd ⟨trivial, trivial⟩ h
    | negated a => rfl
    | isNull a => exact tight fun hop => h ⟨hop, trivial⟩
    | among a vs => exact tight fun hop => h ⟨hop, trivial⟩
  | negated b => rfl
  | isNull b =>
    cases l with
    | plain a => rfl
    | negated a => rfl
    | isNull a => exact compared rfl
    | among a vs => exact compared rfl
  | among b ws =>
    cases l with
    | plain a => rfl
    | negated a => rfl
    | isNull a => exact compared rfl
    | among a vs => exact compared rfl

end Between

/-! ### Chains of a junction -/

/-- Terms with a junction between any two. -/
def chained (op : Junction) : List Term → List Element
  | [] => []
  | [t] => [.term t]
  | t :: u :: ts => .term t :: .junction op :: chained op (u :: ts)

theorem mem_chained {op : Junction} {x : Element} : ∀ {ts : List Term}, x ∈ chained op ts →
    (∃ t, x = .term t) ∨ x = .junction op
  | [], h => nomatch h
  | [t], h => .inl ⟨t, List.mem_singleton.1 h⟩
  | t :: u :: ts, h => by
    rw [chained, List.mem_cons, List.mem_cons] at h
    obtain rfl | rfl | h := h
    · exact .inl ⟨t, rfl⟩
    · exact .inr rfl
    · exact mem_chained h

theorem partsAt_chained (op : Junction) : ∀ (t : Term) (ts : List Term),
    partsAt op (chained op (t :: ts)) = (t :: ts).map fun t => [.term t]
  | t, [] => rfl
  | t, u :: ts => by
    show consFirst (.term t) (if op = op then [] :: partsAt op (chained op (u :: ts)) else _) = _
    rw [if_pos rfl, partsAt_chained op u ts]
    rfl

/-- A chain of a junction is one junction of all its operands. -/
theorem reduce_chained (op : Junction) {ts : List Term} (h : 2 ≤ ts.length) :
    reduce (chained op ts) = some (.junction op ts) := by
  have hfold : foldAll (chained op ts) = chained op ts := foldAll_absent fun k x hx => by
    obtain ⟨t, rfl⟩ | rfl := mem_chained hx <;> trivial
  have hnegate : negate (chained op ts) = chained op ts := negate_absent fun hmem => by
    obtain ⟨t, heq⟩ | heq := mem_chained hmem <;> cases heq
  obtain ⟨t, u, rest, rfl⟩ : ∃ t u rest, ts = t :: u :: rest := by
    match ts, h with
    | t :: u :: rest, _ => exact ⟨t, u, rest, rfl⟩
  have parts : ∀ {read : List Element → Option Term}, (∀ t, read [.term t] = some t) →
      joinAt op read (chained op (t :: u :: rest)) = some (.junction op (t :: u :: rest)) := by
    intro read hread
    have all : ∀ l : List Term, (l.map fun t => [Element.term t]).mapM read = some l := by
      intro l
      induction l with
      | nil => rfl
      | cons a l ih =>
        rw [List.map_cons, List.mapM_cons, hread, ih]
        rfl
    rw [joinAt, partsAt_chained, all]
    rfl
  rw [reduce, hfold, hnegate]
  cases op with
  | or => exact parts fun t => joinAt_absent (by simp)
  | and =>
    rw [joinAt_absent]
    · exact parts fun t => rfl
    · intro hmem
      obtain ⟨t, heq⟩ | heq := mem_chained hmem <;> cases heq

end RecordSql.Grouping
