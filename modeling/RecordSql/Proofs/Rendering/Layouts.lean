import RecordSql.Proofs.Compilation
import RecordSql.Proofs.Rendering.Laid
import RecordSql.Text.Blank

/-!
# One line or many

A statement in one line and with a line for each clause differs in the breaks alone. Its pieces fall into
fragments of text, breaks in front of clauses, and sub-selects, whatever the layout is, and the two
layouts are two ways to write out these fragments.

- `Fragment`: text, a break, or a sub-select with what is inside of it.
- `indentedBreak`: a line feed and four spaces for each sub-select around it.
- `compactAll`, `prettyAll`: the two ways to write fragments.
- `Fragments`: the fragments that pieces fall into.
- `Fragments.ofNested`: the pieces of a statement fall into fragments.
- `Fragments.compact_eq`, `Fragments.pretty_eq`: what is laid out is what is written of the fragments.
- `layouts_agree`: compiling in either layout.
-/

namespace RecordSql

/-! ### Fragments -/

/-- A part of a statement's text: some text, the break in front of a clause, or a sub-select with all that
is inside of it. -/
inductive Fragment
  | text (s : String)
  | clauseBreak
  | subSelect (inside : List Fragment)

mutual

/-- A fragment in one line. -/
def Fragment.compact : Fragment → String
  | .text s => s
  | .clauseBreak => " "
  | .subSelect inside => "exists (" ++ compactAll inside ++ ")"

/-- Fragments in one line. -/
def compactAll : List Fragment → String
  | [] => ""
  | f :: fs => f.compact ++ compactAll fs

end

/-- A line feed, and four spaces for each of the sub-selects around. -/
def indentedBreak (depth : Nat) : String :=
  String.ofList ('\n' :: List.replicate (4 * depth) ' ')

mutual

/-- A fragment inside of `depth` sub-selects, with a line for each clause. The break that opens a
sub-select lies inside of it, the one that closes it outside. -/
def Fragment.pretty (depth : Nat) : Fragment → String
  | .text s => s
  | .clauseBreak => indentedBreak depth
  | .subSelect inside =>
    "exists (" ++ indentedBreak (depth + 1) ++ prettyAll (depth + 1) inside ++ indentedBreak depth ++ ")"

/-- Fragments inside of `depth` sub-selects, with a line for each clause. -/
def prettyAll (depth : Nat) : List Fragment → String
  | [] => ""
  | f :: fs => f.pretty depth ++ prettyAll depth fs

end

/-- A new line is written as a line feed and its indentation. -/
theorem newLine_eq (depth : Nat) : newLine depth = indentedBreak depth := by
  have hindent : ∀ n, (String.join (List.replicate n "    ")).toList = List.replicate (4 * n) ' ' := by
    intro n
    have hunit : "    ".toList = List.replicate 4 ' ' := rfl
    rw [String.toList_join, List.flatMap_replicate, hunit, List.flatten_replicate_replicate, Nat.mul_comm]
  refine String.toList_inj.1 ?_
  rw [newLine, indentedBreak, String.toList_append, hindent, String.toList_ofList, String.toList_ofList]
  rfl

/-- Pieces that are neither breaks nor the ends of sub-selects. -/
def Piece.isText : Piece → Bool
  | .clauseBreak | .openSelect | .closeSelect => false
  | _ => true

/-- The fragments that pieces fall into. -/
inductive Fragments (dialect : Dialect) : List Piece → List Fragment → Prop
  | nil : Fragments dialect [] []
  | text {p ps fs} : p.isText → Fragments dialect ps fs →
      Fragments dialect (p :: ps) (.text (p.text (fun _ => "?") dialect .compact 0) :: fs)
  | clauseBreak {ps fs} : Fragments dialect ps fs →
      Fragments dialect (.clauseBreak :: ps) (.clauseBreak :: fs)
  | subSelect {inside fs rest more} : Fragments dialect inside fs → Fragments dialect rest more →
      Fragments dialect (.openSelect :: inside ++ .closeSelect :: rest) (.subSelect fs :: more)

namespace Fragments

variable {dialect : Dialect} {ps qs : List Piece} {fs gs : List Fragment}

theorem append (hp : Fragments dialect ps fs) (hq : Fragments dialect qs gs) :
    Fragments dialect (ps ++ qs) (fs ++ gs) := by
  induction hp with
  | nil => exact hq
  | text htext _ ih => exact .text htext ih
  | clauseBreak _ ih => exact .clauseBreak ih
  | @subSelect inside fs rest more hinside _ _ ih =>
    have h : Fragments dialect (.openSelect :: inside ++ .closeSelect :: (rest ++ qs))
        (.subSelect fs :: (more ++ gs)) := .subSelect hinside ih
    simpa using h

/-- Well nested pieces fall into fragments. -/
theorem ofNested (h : WellNested ps) : ∃ fs, Fragments dialect ps fs := by
  induction h with
  | nil => exact ⟨[], .nil⟩
  | word _ => exact ⟨_, .text rfl .nil⟩
  | @plain p hp =>
    by_cases hbreak : p = .clauseBreak
    · rw [hbreak]
      exact ⟨_, .clauseBreak .nil⟩
    · have htext : p.isText := by
        cases p <;> first | rfl | exact absurd hp (by decide) | exact absurd rfl hbreak
      exact ⟨_, .text htext .nil⟩
  | append _ _ ihp ihq =>
    obtain ⟨fs, hfs⟩ := ihp
    obtain ⟨gs, hgs⟩ := ihq
    exact ⟨fs ++ gs, hfs.append hgs⟩
  | select _ ih =>
    obtain ⟨fs, hfs⟩ := ih
    exact ⟨_, .subSelect hfs .nil⟩

/-- A piece of text has the same depth before and after it. -/
theorem depthAfter_text {p : Piece} (hp : p.isText) (depth : Nat) : p.depthAfter depth = depth := by
  cases p <;> first | rfl | cases hp

/-- A piece of text is the same in both layouts and at any depth. -/
theorem text_eq {p : Piece} (hp : p.isText) (l : Layout) (depth : Nat) :
    p.text (fun _ => "?") dialect l depth = p.text (fun _ => "?") dialect .compact 0 := by
  cases p <;> first | rfl | cases hp

/-- Every sub-select ends at the depth where it begins. -/
theorem depth_eq (h : Fragments dialect ps fs) : ∀ depth, depthAfterAll depth ps = depth := by
  induction h with
  | nil => exact fun _ => rfl
  | @text p ps fs hp _ ih =>
    intro depth
    show depthAfterAll (p.depthAfter depth) ps = depth
    rw [depthAfter_text hp, ih]
  | clauseBreak _ ih => exact ih
  | @subSelect inside fs rest more _ _ ihinside ihrest =>
    intro depth
    rw [depthAfterAll_append]
    show depthAfterAll (depthAfterAll (depth + 1) inside - 1) rest = depth
    rw [ihinside, Nat.add_sub_cancel, ihrest]

/-- The text of a sub-select and what follows it. -/
theorem layoutWith_subSelect {l : Layout} {inside rest : List Piece} (h : Fragments dialect inside fs)
    (depth : Nat) :
    layoutWith (fun _ => "?") dialect l depth (.openSelect :: inside ++ .closeSelect :: rest) =
      "exists (" ++ l.selectBreak (depth + 1) ++ layoutWith (fun _ => "?") dialect l (depth + 1) inside ++
        l.selectBreak depth ++ ")" ++ layoutWith (fun _ => "?") dialect l depth rest := by
  rw [layoutWith_append]
  have hdepth : depthAfterAll depth (.openSelect :: inside) = depth + 1 := h.depth_eq (depth + 1)
  rw [hdepth]
  simp only [layoutWith, Piece.text, Piece.depthAfter, Nat.add_sub_cancel, String.append_assoc]

/-- In one line, pieces are laid out as their fragments are written. -/
theorem compact_eq (h : Fragments dialect ps fs) :
    ∀ depth, layoutWith (fun _ => "?") dialect .compact depth ps = compactAll fs := by
  induction h with
  | nil => exact fun _ => rfl
  | text hp _ ih =>
    intro depth
    rw [layoutWith, depthAfter_text hp, ih, text_eq hp]
    rfl
  | clauseBreak _ ih =>
    intro depth
    rw [layoutWith]
    show " " ++ layoutWith _ dialect .compact depth _ = _
    rw [ih]
    rfl
  | @subSelect inside fs rest more hinside _ ihinside ihrest =>
    intro depth
    rw [layoutWith_subSelect hinside, ihinside, ihrest]
    simp [compactAll, Fragment.compact, Layout.selectBreak]

/-- With a line for each clause, pieces are laid out as their fragments are written. -/
theorem pretty_eq (h : Fragments dialect ps fs) :
    ∀ depth, layoutWith (fun _ => "?") dialect .pretty depth ps = prettyAll depth fs := by
  induction h with
  | nil => exact fun _ => rfl
  | text hp _ ih =>
    intro depth
    rw [layoutWith, depthAfter_text hp, ih, text_eq hp]
    rfl
  | clauseBreak _ ih =>
    intro depth
    rw [layoutWith]
    show newLine depth ++ layoutWith _ dialect .pretty depth _ = _
    rw [ih, newLine_eq]
    rfl
  | @subSelect inside fs rest more hinside _ ihinside ihrest =>
    intro depth
    rw [layoutWith_subSelect hinside, ihinside, ihrest]
    simp [prettyAll, Fragment.pretty, Layout.selectBreak, newLine_eq, String.append_assoc]

end Fragments

/-! ### Blanks -/

/-- The characters of a text that are not blank. -/
def inked (s : String) : List Char :=
  s.toList.filter fun c => !Text.isBlank c

theorem inked_append (s t : String) : inked (s ++ t) = inked s ++ inked t := by
  simp [inked]

theorem inked_indentedBreak (depth : Nat) : inked (indentedBreak depth) = [] := by
  rw [inked, indentedBreak, String.toList_ofList, List.filter_eq_nil_iff]
  refine List.forall_mem_cons.2 ⟨by decide, fun c hc => ?_⟩
  rw [List.eq_of_mem_replicate hc]
  decide

mutual

/-- The two layouts of a fragment differ in blanks alone. -/
theorem inked_fragment (depth : Nat) : ∀ f : Fragment, inked (f.pretty depth) = inked f.compact
  | .text _ => rfl
  | .clauseBreak => inked_indentedBreak depth
  | .subSelect inside => by
    have hinside := inked_fragments (depth + 1) inside
    simp only [Fragment.pretty, Fragment.compact, inked_append, inked_indentedBreak, hinside,
      List.append_nil]

theorem inked_fragments (depth : Nat) :
    ∀ fs : List Fragment, inked (prettyAll depth fs) = inked (compactAll fs)
  | [] => rfl
  | f :: fs => by
    have hfirst := inked_fragment depth f
    have hrest := inked_fragments depth fs
    rw [prettyAll, compactAll, inked_append, inked_append, hfirst, hrest]

end

/-! ### Compiled statements -/

/-- The pieces of a statement are well nested. -/
theorem statementPieces_nested {dialect : Dialect} {g : Registry} {s : Statement} {ps : List Piece}
    (h : statementPieces dialect g s = .ok ps) : WellNested ps :=
  (statementText_matches (p := placeholders) dialect g s).nested ps h

/-- A statement fails with one error in both layouts, or it compiles in both. Then its parameters are the
same, and its two texts are written from the same fragments: in one line with a space for every break in
front of a clause and nothing at the ends of sub-selects, or else with a new line for every break that is
indented by four spaces for each sub-select around it. So the texts differ in blanks alone, and at the
end no sub-select is left open. -/
theorem layouts_agree (catalog : Catalog) (dialect : Dialect) (s : Statement) (σ : Session) :
    (∃ e, ((compile catalog ⟨dialect, .compact⟩ s).runIn σ).1 = .error e ∧
      ((compile catalog ⟨dialect, .pretty⟩ s).runIn σ).1 = .error e) ∨
    ∃ c p ps fs, ((compile catalog ⟨dialect, .compact⟩ s).runIn σ).1 = .ok c ∧
      ((compile catalog ⟨dialect, .pretty⟩ s).runIn σ).1 = .ok p ∧
      c = .ofPieces ⟨dialect, .compact⟩ ps ∧ p = .ofPieces ⟨dialect, .pretty⟩ ps ∧
      c.parameters = p.parameters ∧ Fragments dialect ps fs ∧
      c.sql = compactAll fs ∧ p.sql = prettyAll 0 fs ∧ inked c.sql = inked p.sql ∧
      depthAfterAll 0 ps = 0 := by
  rw [compile_runIn, compile_runIn]
  rcases (Registry.build catalog s.records).runIn σ with ⟨e | g, σ'⟩
  · exact .inl ⟨e, rfl, rfl⟩
  · dsimp only
    cases hps : checkedPieces dialect g s with
    | error e => exact .inl ⟨e, rfl, rfl⟩
    | ok ps =>
      obtain ⟨-, -, hpieces⟩ := bind_eq_ok hps
      have hnested : WellNested ps := statementPieces_nested hpieces
      obtain ⟨fs, hfs⟩ : ∃ fs, Fragments dialect ps fs := Fragments.ofNested hnested
      have hcompact : (Compiled.ofPieces ⟨dialect, .compact⟩ ps).sql = compactAll fs := hfs.compact_eq 0
      have hpretty : (Compiled.ofPieces ⟨dialect, .pretty⟩ ps).sql = prettyAll 0 fs := hfs.pretty_eq 0
      refine .inr ⟨_, _, ps, fs, rfl, rfl, rfl, rfl, rfl, hfs, hcompact, hpretty, ?_, hfs.depth_eq 0⟩
      rw [hcompact, hpretty, inked_fragments]

/-- The break between two clauses of a sub-select, and the breaks around them. -/
example :
    (Fragment.subSelect [.text "select 1", .clauseBreak, .text "from novels"]).compact =
        "exists (select 1 from novels)" ∧
      (Fragment.subSelect [.text "select 1", .clauseBreak, .text "from novels"]).pretty 0 =
        "exists (\n    select 1\n    from novels\n)" := by
  decide

end RecordSql
