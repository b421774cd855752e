import RecordSql.Proofs.Rendering.Laid
import RecordSql.Proofs.Writing.Writer

/-!
# Writers follow pieces

A writer that stands where some pieces are rendered writes the text and the parameters of these pieces, and
nothing else of its state is different behind them; or both fail alike. In either case each expression that
it has come by has been begun with both switches off, and each part that has not failed has ended in the
stance that it was begun in.

- `Passage.Orderly`: a part that was begun and left as it should be.
- `Writer.Continues`: one state behind another, with some pieces in between.
- `Ends`: how a run ends that follows a rendering; `Ends.bind`, `Ends.emit`, `Ends.look` go through its
  steps.
- `Writes`: a part that follows a rendering wherever it can be reached.
- `writes_cases`: expressions and selects, by induction over both.
-/

namespace RecordSql

/-- An expression has been begun with both switches off, and a part that has not failed has been left in the
stance that it was begun in. -/
def Passage.Orderly (p : Passage) : Prop :=
  (p.ofExpr → p.before.overrides = false ∧ p.before.aliasing = false) ∧ ∀ s ∈ p.after, s = p.before

namespace Writer

/-- The state behind some pieces and parts. -/
def put (w : Writer) (ps : List Piece) (parts : List Passage) : Writer :=
  { w with
    output := w.output ++ layoutWith (fun _ => "?") w.options.dialect w.options.layout w.depth ps
    parameters := w.parameters ++ RecordSql.parameters ps
    depth := depthAfterAll w.depth ps
    passages := w.passages ++ parts }

theorem put_nil (w : Writer) : w.put [] [] = w := by
  simp [put, layoutWith, RecordSql.parameters, depthAfterAll]

theorem put_put (w : Writer) (ps qs : List Piece) (parts others : List Passage) :
    (w.put ps parts).put qs others = w.put (ps ++ qs) (parts ++ others) := by
  simp [put, layoutWith_append, RecordSql.parameters_append, depthAfterAll_append, String.append_assoc]

theorem put_one (w : Writer) (p : Piece) : w.put [p] [] =
    { w with
      output := w.output ++ p.text (fun _ => "?") w.options.dialect w.options.layout w.depth
      parameters := w.parameters ++ p.value?.toList
      depth := p.depthAfter w.depth } := by
  cases h : p.value? <;> simp [put, layoutWith, RecordSql.parameters, depthAfterAll, h]

/-- A state behind another one: some pieces have been written, and all parts in between are orderly. -/
def Continues (w : Writer) (ps : List Piece) (w' : Writer) : Prop :=
  ∃ parts, (∀ p ∈ parts, p.Orderly) ∧ w' = w.put ps parts

variable {w w' w'' : Writer} {ps qs : List Piece}

theorem Continues.refl (w : Writer) : w.Continues [] w :=
  ⟨[], List.forall_mem_nil _, w.put_nil.symm⟩

theorem Continues.trans (h : w.Continues ps w') (h' : w'.Continues qs w'') : w.Continues (ps ++ qs) w'' := by
  obtain ⟨parts, horderly, rfl⟩ := h
  obtain ⟨others, hothers, rfl⟩ := h'
  exact ⟨parts ++ others, List.forall_mem_append.2 ⟨horderly, hothers⟩, put_put ..⟩

/-- Only orderly parts have been added to those of a state. -/
def Keeps (w w' : Writer) : Prop :=
  ∃ parts, (∀ p ∈ parts, p.Orderly) ∧ w'.passages = w.passages ++ parts

theorem Continues.keeps (h : w.Continues ps w') : w.Keeps w' := by
  obtain ⟨parts, horderly, rfl⟩ := h
  exact ⟨parts, horderly, rfl⟩

theorem Keeps.trans (h : w.Keeps w') (h' : w'.Keeps w'') : w.Keeps w'' := by
  obtain ⟨parts, horderly, hparts⟩ := h
  obtain ⟨others, hothers, hall⟩ := h'
  refine ⟨parts ++ others, List.forall_mem_append.2 ⟨horderly, hothers⟩, ?_⟩
  rw [hall, hparts, List.append_assoc]

end Writer

/-! ### Runs -/

section Steps

variable {α β : Type} {m : Writing α} {k : α → Writing β} {w w' : Writer}

theorem run_of_ok {a : α} (h : m w = .ok a w') : (m >>= k) w = k a w' := by
  show EStateM.bind m k w = _
  rw [EStateM.bind, h]

theorem run_of_error {e : Error} (h : m w = .error e w') : (m >>= k) w = .error e w' := by
  show EStateM.bind m k w = _
  rw [EStateM.bind, h]

theorem run_look_ok {lookup : Frame → Except Error α} {a : α} (h : lookup w.frame = .ok a) :
    look lookup w = .ok a w := by
  show (MonadExcept.ofExcept (lookup w.frame) : Writing α) w = _
  rw [h]
  rfl

theorem run_look_error {lookup : Frame → Except Error α} {e : Error} (h : lookup w.frame = .error e) :
    look lookup w = .error e w := by
  show (MonadExcept.ofExcept (lookup w.frame) : Writing α) w = _
  rw [h]
  rfl

end Steps

/-- How a run from some state ends that follows a rendering. -/
def Ends (w : Writer) : EStateM.Result Error Writer Unit → Rendered → Prop
  | .ok _ w', .ok ps => w.Continues ps w'
  | .error e w', .error e' => e = e' ∧ w.Keeps w'
  | _, _ => False

/-- Steps that write some pieces, wherever they are taken. -/
def Emits (m : Writing Unit) (ps : List Piece) : Prop :=
  ∀ w, m w = .ok () (w.put ps [])

section Runs

variable {w₀ w : Writer} {m : Writing Unit} {ps qs rs : List Piece} {x : Rendered}

theorem Ends.fail (hw : w₀.Continues qs w) (e : Error) : Ends w₀ ((throw e : Writing Unit) w) (.error e) :=
  ⟨rfl, hw.keeps⟩

/-- A part whose pieces depend on some result, and what comes behind it. -/
theorem Ends.bind {α : Type} {x : Except Error α} {g : α → List Piece} {k : Unit → Writing Unit}
    {y : α → Rendered} (hw : w₀.Continues qs w) (hm : Ends w (m w) (x >>= fun a => .ok (g a)))
    (hk : ∀ a w', x = .ok a → w₀.Continues (qs ++ g a) w' → Ends w₀ (k () w') (y a)) :
    Ends w₀ ((m >>= k) w) (x >>= y) := by
  cases hr : m w with
  | ok _ w' =>
    rw [hr] at hm
    rw [run_of_ok hr]
    cases x with
    | ok a => exact hk a w' rfl (hw.trans hm)
    | error e => exact hm.elim
  | error e w' =>
    rw [hr] at hm
    rw [run_of_error hr]
    cases x with
    | ok a => exact hm.elim
    | error e' => exact ⟨hm.1, hw.keeps.trans hm.2⟩

/-- The last part. -/
theorem Ends.last {α : Type} {x : Except Error α} {g y : α → List Piece} (hw : w₀.Continues qs w)
    (hm : Ends w (m w) (x >>= fun a => .ok (g a))) (hy : ∀ a, x = .ok a → qs ++ g a = y a) :
    Ends w₀ (m w) (x >>= fun a => .ok (y a)) := by
  generalize m w = r at hm ⊢
  cases r with
  | ok _ w' =>
    cases x with
    | ok a =>
      show w₀.Continues (y a) w'
      rw [← hy a rfl]
      exact hw.trans hm
    | error e => exact hm.elim
  | error e w' =>
    cases x with
    | ok a => exact hm.elim
    | error e' => exact ⟨hm.1, hw.keeps.trans hm.2⟩

/-- The pieces of a rendering are its result. -/
theorem Ends.result (hm : Ends w (m w) x) : Ends w (m w) (x >>= fun ps => .ok ps) := by
  cases x <;> exact hm

theorem Emits.ends (hm : Emits m ps) (w : Writer) : Ends w (m w) (.ok ps) := by
  rw [hm w]
  exact ⟨[], List.forall_mem_nil _, rfl⟩

/-- Pieces, and what comes behind them. -/
theorem Ends.emit {k : Unit → Writing Unit} (hm : Emits m ps) (hw : w₀.Continues qs w)
    (hk : ∀ w', w₀.Continues (qs ++ ps) w' → Ends w₀ (k () w') x) : Ends w₀ ((m >>= k) w) x := by
  rw [run_of_ok (hm w)]
  exact hk _ (hw.trans ⟨[], List.forall_mem_nil _, rfl⟩)

/-- The last pieces. -/
theorem Ends.emitted (hm : Emits m ps) (hw : w₀.Continues qs w) (h : qs ++ ps = rs) :
    Ends w₀ (m w) (.ok rs) := by
  rw [hm w, ← h]
  exact hw.trans ⟨[], List.forall_mem_nil _, rfl⟩

/-- What is looked up, and what is done with it. -/
theorem Ends.look {α : Type} {lookup : Frame → Except Error α} {k : α → Writing Unit} {y : α → Rendered}
    {f : Frame} (hw : w₀.Continues qs w) (hf : w.frame = f)
    (hk : ∀ a, lookup f = .ok a → Ends w₀ (k a w) (y a)) :
    Ends w₀ ((RecordSql.look lookup >>= k) w) (lookup f >>= y) := by
  subst hf
  cases h : lookup w.frame with
  | ok a =>
    rw [run_of_ok (run_look_ok h)]
    exact hk a h
  | error e =>
    rw [run_of_error (run_look_error h)]
    exact ⟨rfl, hw.keeps⟩

/-- What depends on the state. -/
theorem Ends.get {k : Writer → Writing Unit} (h : Ends w₀ (k w w) x) :
    Ends w₀ (((MonadState.get : Writing Writer) >>= k) w) x := by
  rw [run_of_ok (show (MonadState.get : Writing Writer) w = .ok w w from rfl)]
  exact h

/-- A part in a changed state. -/
theorem Ends.within {change : Writer → Writer} {restore : Writer → Writer → Writer}
    (hrestore : ∀ ps parts, restore w ((change w).put ps parts) = w.put ps parts)
    (hkeeps : ∀ w', (change w).Keeps w' → w.Keeps (restore w w'))
    (hm : Ends (change w) (m (change w)) x) : Ends w (within change restore m w) x := by
  unfold RecordSql.within
  generalize m (change w) = r at hm ⊢
  cases r with
  | ok _ w' =>
    cases x with
    | ok ps =>
      obtain ⟨parts, horderly, rfl⟩ := hm
      exact ⟨parts, horderly, hrestore ps parts⟩
    | error e => exact hm.elim
  | error e w' =>
    cases x with
    | ok ps => exact hm.elim
    | error e' => exact ⟨hm.1, hkeeps w' hm.2⟩

theorem Ends.switched {overrides aliasing : Bool}
    (hm : Ends { w with overrides := overrides, aliasing := aliasing }
      (m { w with overrides := overrides, aliasing := aliasing }) x) :
    Ends w (switched overrides aliasing m w) x :=
  .within (fun _ _ => rfl) (fun _ h => h) hm

theorem Ends.inSelect {record : RecordType} {definitions : List Definition}
    (hm : Ends { w with selects := (record, definitions) :: w.selects }
      (m { w with selects := (record, definitions) :: w.selects }) x) :
    Ends w (inSelect record definitions m w) x :=
  .within (fun _ _ => rfl) (fun _ h => h) hm

theorem Ends.withoutAlias {record : RecordType} (hnone : w.unaliased = none)
    (hm : Ends { w with unaliased := some record } (m { w with unaliased := some record }) x) :
    Ends w (withoutAlias record m w) x := by
  refine .within (fun ps parts => ?_) (fun _ h => h) hm
  simp [Writer.put, hnone]

/-- A part that is remembered: its pieces are well nested, so it ends at the depth it starts at. -/
theorem Ends.passage {ofExpr : Bool} (hnested : ∀ ps, x = .ok ps → WellNested ps)
    (hoff : ofExpr → w.overrides = false ∧ w.aliasing = false) (hm : Ends w (m w) x) :
    Ends w (passage ofExpr m w) x := by
  unfold RecordSql.passage
  generalize m w = r at hm ⊢
  cases r with
  | ok _ w' =>
    cases x with
    | ok ps =>
      obtain ⟨parts, horderly, rfl⟩ := hm
      have hstance : (w.put ps parts).stance = w.stance := by
        simp [Writer.stance, Writer.put, (hnested ps rfl).depthAfterAll_eq]
      refine ⟨parts ++ [⟨ofExpr, w.stance, some w.stance⟩], ?_, ?_⟩
      · refine List.forall_mem_append.2 ⟨horderly, List.forall_mem_singleton.2 ⟨hoff, ?_⟩⟩
        rintro s ⟨⟩
        rfl
      · rw [hstance]
        simp [Writer.put]
    | error e => exact hm.elim
  | error e w' =>
    cases x with
    | ok ps => exact hm.elim
    | error e' =>
      refine ⟨hm.1, hm.2.trans ⟨[⟨ofExpr, w.stance, none⟩], ?_, rfl⟩⟩
      exact List.forall_mem_singleton.2 ⟨hoff, nofun⟩

end Runs

/-! ### Pieces -/

section Emitting

variable {m m' : Writing Unit} {ps qs : List Piece}

/-- A piece that binds no value and leaves the depth as it is. -/
theorem Emits.text {p : Piece} (hvalue : p.value? = none) (hdepth : ∀ d, p.depthAfter d = d)
    (h : ∀ w, m w = .ok () { w with
      output := w.output ++ p.text (fun _ => "?") w.options.dialect w.options.layout w.depth }) :
    Emits m [p] := by
  intro w
  rw [h w, Writer.put_one, hvalue, hdepth, Option.toList_none, List.append_nil]

theorem emits_word (s : String) : Emits (write s) [.word s] :=
  .text rfl (fun _ => rfl) fun _ => rfl

theorem emits_verbatim (s : String) : Emits (write s) [.verbatim s] :=
  .text rfl (fun _ => rfl) fun _ => rfl

theorem emits_ident (name : String) : Emits (writeIdent name) [.ident name] :=
  .text rfl (fun _ => rfl) fun _ => rfl

theorem emits_clauseBreak : Emits breakClause [.clauseBreak] :=
  .text rfl (fun _ => rfl) fun _ => rfl

theorem emits_value (v : Value) : Emits (writeValue v) [.value v] := by
  intro w
  rw [Writer.put_one]
  rfl

theorem run_writeLabel (label : TableLabel) (w : Writer) :
    writeLabel label w = .ok () { w with output := w.output ++ label.text w.options.dialect } := by
  cases label <;> rfl

theorem emits_table (name : String) (label : TableLabel) :
    Emits (writeTable name label) [.table name label] :=
  .text rfl (fun _ => rfl) fun w => by
    show ((writeIdent name >>= fun _ => write " as " >>= fun _ => writeLabel label) : Writing Unit) w = _
    rw [run_of_ok (show writeIdent name w = .ok () _ from rfl),
      run_of_ok (show write " as " _ = .ok () _ from rfl), run_writeLabel]
    simp [Piece.text, String.append_assoc]

theorem emits_column (label : TableLabel) (name : String) :
    Emits (writeColumn label name) [.column label name] :=
  .text rfl (fun _ => rfl) fun w => by
    show ((writeLabel label >>= fun _ => write "." >>= fun _ => writeIdent name) : Writing Unit) w = _
    rw [run_of_ok (run_writeLabel label w), run_of_ok (show write "." _ = .ok () _ from rfl)]
    show EStateM.Result.ok () _ = _
    simp [Piece.text, String.append_assoc]

theorem emits_openSelect : Emits openSelect [.openSelect] := by
  intro w
  show EStateM.Result.ok () _ = _
  simp [Writer.put_one, Piece.text, Piece.value?, Piece.depthAfter, String.append_assoc]

theorem emits_closeSelect : Emits closeSelect [.closeSelect] := by
  intro w
  show EStateM.Result.ok () _ = _
  simp [Writer.put_one, Piece.text, Piece.value?, Piece.depthAfter, String.append_assoc]

theorem emits_nothing : Emits (pure ()) [] :=
  fun w => congrArg (EStateM.Result.ok ()) w.put_nil.symm

theorem Emits.seq (h : Emits m ps) (h' : Emits m' qs) : Emits (m >>= fun _ => m') (ps ++ qs) := by
  intro w
  rw [run_of_ok (h w), h' _, Writer.put_put, List.append_nil]

theorem Emits.separated (separator : String) {α : Type} {m : α → Writing Unit} {g : α → List Piece}
    (h : ∀ a, Emits (m a) (g a)) : ∀ as : List α,
      Emits (writeSeparated separator (as.map m)) (RecordSql.separated separator (as.map g))
  | [] => emits_nothing
  | [a] => h a
  | a :: b :: as => (h a).seq ((emits_word separator).seq (Emits.separated separator h (b :: as)))

theorem emits_values (values : List Value) : Emits (writeValues values) (valueList values) :=
  .separated ", " emits_value values

theorem emits_fieldAlias (use : ColumnUse) (field : String) :
    Emits (writeFieldAlias (use = .projection) field) (fieldAlias use field) := by
  unfold writeFieldAlias fieldAlias
  by_cases h : use = .projection
  · rw [if_pos h, decide_eq_true h]
    exact (emits_word " as ").seq (emits_ident field)
  · rw [if_neg h, decide_eq_false h]
    exact emits_nothing

theorem emits_limit (limit : Option Limit) : Emits (writeLimit limit) (limitPieces limit) := by
  cases limit with
  | none => exact emits_nothing
  | some l =>
    exact emits_clauseBreak.seq ((emits_word _).seq ((emits_value _).seq ((emits_word _).seq (emits_value _))))

theorem emits_lock (forUpdate : Bool) : Emits (writeLock forUpdate) (lockPieces forUpdate) := by
  cases forUpdate with
  | true => exact emits_clauseBreak.seq (emits_word _)
  | false => exact emits_nothing

end Emitting

/-! ### Parts -/

/-- A writer looks things up in some frame, its switches as they are for some use of a column. -/
structure Writer.Stands (w : Writer) (f : Frame) (use : ColumnUse) : Prop where
  frame : w.frame = f
  overrides : w.overrides = (use != .plain)
  aliasing : w.aliasing = decide (use = .projection)

theorem Writer.Continues.stands {w w' : Writer} {ps : List Piece} {f : Frame} {use : ColumnUse}
    (h : w.Continues ps w') (hs : w.Stands f use) : w'.Stands f use := by
  obtain ⟨parts, -, rfl⟩ := h
  exact ⟨hs.frame, hs.overrides, hs.aliasing⟩

/-- Other switches are those of another use. -/
theorem Writer.Stands.switched {w : Writer} {f : Frame} {use use' : ColumnUse} {overrides aliasing : Bool}
    (hs : w.Stands f use) (ho : overrides = (use' != .plain)) (ha : aliasing = decide (use' = .projection)) :
    { w with overrides := overrides, aliasing := aliasing }.Stands f use' :=
  ⟨hs.frame, ho, ha⟩

/-- With both switches off columns are written for no use of their own. -/
theorem Writer.Stands.off {w : Writer} {f : Frame} (hs : w.Stands f .plain) :
    w.overrides = false ∧ w.aliasing = false :=
  ⟨hs.overrides, hs.aliasing⟩

/-- A part that follows a rendering wherever the writer stands for it. -/
def Writes (f : Frame) (use : ColumnUse) (m : Writing Unit) (x : Rendered) : Prop :=
  ∀ w, w.Stands f use → Ends w (m w) x

/-- What definitions are filled in with follows what stands for them. -/
structure Fills (fill : Expr → Writing Unit) (expand : Frame → Expr → Rendered) : Prop where
  writes : ∀ f e, Writes f .plain (fill e) (expand f e)
  laid : ∃ expT, ExpandsAlike placeholders expT expand

section Parts

variable {f : Frame} {use : ColumnUse} {fill : Expr → Writing Unit} {expand : Frame → Expr → Rendered}

/-- Parts with a word between any two; the pieces of each depend on some result. -/
theorem Writes.separated (separator : String) {α β : Type} {m : α → Writing Unit} {x : α → Except Error β}
    {g : β → List Piece} : ∀ {as : List α}, (∀ a ∈ as, Writes f use (m a) (x a >>= fun b => .ok (g b))) →
      Writes f use (writeSeparated separator (as.map m)) (as.mapM x >>= fun bs =>
        .ok (RecordSql.separated separator (bs.map g)))
  | [], _, w, _ => by
    rw [List.mapM_nil]
    exact emits_nothing.ends w
  | [a], h, w, hs => by
    have first := h a List.mem_cons_self w hs
    rw [List.mapM_cons, List.mapM_nil, bind_assoc]
    exact first
  | a :: b :: as, h, w, hs => by
    obtain ⟨ha, hrest⟩ := List.forall_mem_cons.1 h
    rw [List.mapM_cons, bind_assoc]
    refine .bind (.refl w) (ha w hs) fun c w₁ _ hw₁ => .emit (emits_word separator) hw₁ fun w₂ hw₂ => ?_
    have rest : Ends w₂ (writeSeparated separator ((b :: as).map m) w₂) _ :=
      Writes.separated separator hrest w₂ (hw₂.stands hs)
    rw [bind_assoc]
    refine .last hw₂ rest fun cs hcs => ?_
    -- there is a part behind the first one, so the word stands between the two
    cases mapM_eq_ok hcs with
    | cons _ _ => simp [RecordSql.separated]

/-- Parts with a word between any two. -/
theorem Writes.joined (separator : String) {α : Type} {m : α → Writing Unit} {g : α → Rendered} {as : List α}
    (h : ∀ a ∈ as, Writes f use (m a) (g a)) :
    Writes f use (writeSeparated separator (as.map m)) (as.mapM g >>= fun pss =>
      .ok (RecordSql.separated separator pss)) := by
  intro w hs
  have parts : Ends w (writeSeparated separator (as.map m) w) _ :=
    Writes.separated separator (fun a ha w hs => (h a ha w hs).result) w hs
  simpa only [List.map_id'] using parts

/-- Parts with a word behind each. -/
theorem Writes.followed (separator : String) {α : Type} {m : α → Writing Unit} {g : α → Rendered} :
    ∀ {as : List α}, (∀ a ∈ as, Writes f use (m a) (g a)) →
      Writes f use (as.forM fun a => do
        m a
        write separator) (as.mapM g >>= fun pss => .ok (pss.flatMap (· ++ [.word separator])))
  | [], _, w, _ => by
    rw [List.mapM_nil]
    exact emits_nothing.ends w
  | a :: as, h, w, hs => by
    obtain ⟨ha, hrest⟩ := List.forall_mem_cons.1 h
    rw [List.mapM_cons, bind_assoc]
    show Ends w (((m a >>= fun _ => write separator) >>= fun _ => as.forM _) w) _
    rw [bind_assoc]
    refine .bind (.refl w) (ha w hs).result fun ps w₁ _ hw₁ => ?_
    refine .emit (emits_word separator) hw₁ fun w₂ hw₂ => ?_
    have rest := Writes.followed separator hrest w₂ (hw₂.stands hs)
    rw [bind_assoc]
    exact .last hw₂ rest fun pss _ => by simp

/-- The last one of some parts has no word behind it. -/
theorem separated_concat (separator : String) (pss : List (List Piece)) (ps : List Piece) :
    RecordSql.separated separator (pss ++ [ps]) = pss.flatMap (· ++ [.word separator]) ++ ps := by
  induction pss with
  | nil => rfl
  | cons qs pss ih =>
    have hne : pss ++ [ps] ≠ [] := by simp
    obtain ⟨rs, rest, hrest⟩ := List.exists_cons_of_ne_nil hne
    rw [List.cons_append, List.flatMap_cons, List.append_assoc, ← ih, hrest, List.append_assoc]
    rfl

/-! ### References, keys and full text -/

theorem writeReference_writes (hfill : Fills fill expand) (c : FieldRef) :
    Writes f use (writeReference fill c) (referencePieces expand f use c) := by
  intro w hs
  obtain ⟨expT, hlaid⟩ := hfill.laid
  refine .passage (referenceText_matches hlaid use c).nested nofun ?_
  unfold referencePieces
  cases c.record with
  | none => exact (emits_ident c.field).ends w
  | some record =>
    refine .look (.refl w) hs.frame fun schema _ => .look (.refl w) hs.frame fun field _ => .get ?_
    have happlies : w.applies = Definition.applies use := by
      funext d
      rw [Writer.applies, Definition.applies, hs.overrides]
    rw [hs.frame, happlies, hs.aliasing]
    cases (f.definition? record c.field).filter (Definition.applies use) with
    | some d =>
      -- the definition stands where its reference does, but for the switches
      have own : Ends w (switched false false (fill d.expr) w) (expand f d.expr) := .switched 
        (hfill.writes f d.expr _ (hs.switched (by decide) (by decide)))
      exact .bind (.refl w) own.result fun ps w' _ hw' => .emitted (emits_fieldAlias use c.field) hw' rfl
    | none =>
      dsimp only
      cases field.literal with
      | some sql =>
        exact .emit (emits_verbatim sql) (.refl w) fun w' hw' =>
          .emitted (emits_fieldAlias use c.field) hw' rfl
      | none =>
        dsimp only
        cases field.shadowOf <|> schema.tableOwner with
        | none => exact .fail (.refl w) _
        | some t =>
          dsimp only
          cases c.qualifier with
          | some a => exact (emits_column (.named a) field.columnName).ends w
          | none =>
            exact .look (.refl w) hs.frame fun label _ => (emits_column label field.columnName).ends w

theorem writeComponent_writes (hfill : Fills fill expand) (record : RecordType) (field : String) (v : Value) :
    Writes f .key (writeComponent fill record field v) (componentPieces expand f record field v) := by
  intro w hs
  obtain ⟨expT, hlaid⟩ := hfill.laid
  refine .passage (componentText_matches hlaid record field v).nested nofun ?_
  refine .bind (.refl w) (writeReference_writes hfill _ w hs).result fun ps w' _ hw' => ?_
  cases v.isNull with
  | true => exact .emitted (emits_word _) hw' rfl
  | false => exact .emitted ((emits_word _).seq (emits_value v)) hw' rfl

theorem writeKey_writes (hfill : Fills fill expand) (k : Key) :
    Writes f .plain (writeKey fill k) (keyPieces expand f k) := by
  intro w hs
  obtain ⟨expT, hlaid⟩ := hfill.laid
  refine .passage (keyText_matches hlaid k).nested nofun ?_
  refine .look (.refl w) hs.frame fun schema _ => .look (.refl w) hs.frame fun values _ => .switched ?_
  exact Writes.joined " and " (fun c _ => writeComponent_writes hfill k.record c.1 c.2) _
    (hs.switched (by decide) (by decide))

theorem writeMultiKey_writes (hfill : Fills fill expand) (k : MultiKey) :
    Writes f .plain (writeMultiKey fill k) (multiKeyPieces expand f k) := by
  intro w hs
  obtain ⟨expT, hlaid⟩ := hfill.laid
  refine .passage (multiKeyText_matches hlaid k).nested nofun ?_
  refine .look (.refl w) hs.frame fun schema _ => .look (.refl w) hs.frame fun values _ => .switched ?_
  have hs' : { w with overrides := true, aliasing := false }.Stands f .key :=
    hs.switched (by decide) (by decide)
  have components : ∀ c ∈ (k.fixedFields schema.primaryKey).zip values, Writes f .key _ _ := fun c _ =>
    writeComponent_writes hfill k.record c.1 c.2
  refine .bind (.refl _) (Writes.followed " and " components _ hs') fun fixed w₁ _ hw₁ => ?_
  refine .bind hw₁ (writeReference_writes hfill _ w₁ (hw₁.stands hs')).result fun column w₂ _ hw₂ => ?_
  refine .emit (emits_word _) hw₂ fun w₃ hw₃ => .emit (emits_values k.values) hw₃ fun w₄ hw₄ => ?_
  refine .emitted (emits_word _) hw₄ ?_
  rw [separated_concat]
  simp

theorem writeFullText_writes (record : RecordType) (index query : String) :
    Writes f .plain (writeFullText record index query) (fullTextPieces f record index query) := by
  intro w hs
  refine .passage (fullTextText_matches (p := placeholders) record index query).nested nofun ?_
  refine .look (.refl w) hs.frame fun schema _ => ?_
  cases schema.fullTextIndex? index with
  | none => exact .fail (.refl w) _
  | some i =>
    refine .look (.refl w) hs.frame fun t _ => .get ?_
    have hdialect : w.options.dialect = f.dialect := by
      rw [← hs.frame]
      rfl
    rw [hdialect]
    cases f.dialect with
    | mySql =>
      have column : ∀ name ∈ i.fields, Writes f .plain (do
          let label ← look fun f => f.label t
          let field ← look fun _ => schema.getField name
          writeColumn label field.columnName) (do
          let label ← f.label t
          let field ← schema.getField name
          return [.column label field.columnName]) := fun name _ w hs =>
        .look (.refl w) hs.frame fun label _ => .look (.refl w) hs.frame fun field _ =>
          (emits_column label field.columnName).ends w
      refine .emit (emits_word _) (.refl w) fun w₁ hw₁ => ?_
      refine .bind hw₁ (Writes.joined ", " column w₁ (hw₁.stands hs)) fun columns w₂ _ hw₂ => ?_
      exact .emitted ((emits_word _).seq ((emits_value _).seq (emits_word _))) hw₂ (by simp)
    | postgreSql =>
      refine .look (.refl w) hs.frame fun label _ => .emitted ?_ (.refl w) rfl
      exact (emits_column label _).seq ((emits_word _).seq ((emits_value _).seq (emits_word _)))

/-! ### Clauses -/

theorem writeProjection_writes (hfill : Fills fill expand) (record : RecordType) (names : List String) :
    Writes f .plain (writeProjection fill record names) (projectionPieces expand f record names) := by
  intro w hs
  obtain ⟨expT, hlaid⟩ := hfill.laid
  refine .passage (projectionText_matches hlaid record names).nested nofun ?_
  refine .look (.refl w) hs.frame fun schema _ => .look (.refl w) hs.frame fun fields _ => .get (.switched ?_)
  rw [hs.frame]
  exact Writes.joined ", " (fun field _ => writeReference_writes hfill _) _
    (hs.switched (by decide) (by decide))

theorem writeSource_writes (r : RecordType) :
    Writes f use (writeSource r) (f.tablePiece r >>= fun t => .ok [t]) := by
  intro w hs
  refine .passage (fun ps h => ?_) nofun ?_
  · obtain ⟨q, hq, h⟩ := bind_eq_ok h
    cases h
    obtain ⟨t, -, hq⟩ := bind_eq_ok hq
    obtain ⟨name, -, hq⟩ := bind_eq_ok hq
    obtain ⟨n, -, hq⟩ := bind_eq_ok hq
    cases hq
    exact .plain rfl
  · unfold Frame.tablePiece
    simp only [bind_assoc]
    refine .look (.refl w) hs.frame fun t _ => .look (.refl w) hs.frame fun name _ =>
      .look (.refl w) hs.frame fun n _ => ?_
    exact (emits_table name (.abbreviation n)).ends w

theorem writeJoined_writes (record : RecordType) (kind : JoinKind) (tableAlias : Option String) :
    Writes f use (writeJoined record kind tableAlias) (joinTable f record tableAlias >>= fun table =>
      .ok [.clauseBreak, .word (kind.text ++ " "), table, .word " on "]) := by
  intro w hs
  refine .emit emits_clauseBreak (.refl w) fun w₁ hw₁ => .emit (emits_word _) hw₁ fun w₂ hw₂ => ?_
  have frame := (hw₂.stands hs).frame
  unfold joinTable
  rw [bind_assoc]
  refine .look hw₂ frame fun t _ => ?_
  rw [bind_assoc]
  refine .look hw₂ frame fun name _ => ?_
  cases tableAlias with
  | some a => exact .emitted ((emits_table name (.named a)).seq (emits_word _)) hw₂ rfl
  | none =>
    rw [bind_assoc]
    refine .look hw₂ frame fun n _ => ?_
    exact .emitted ((emits_table name (.abbreviation n)).seq (emits_word _)) hw₂ rfl

end Parts

end RecordSql
