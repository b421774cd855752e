import RecordSql.Proofs.Placement.Items
import RecordSql.Proofs.Placement.Positions
import RecordSql.Source.File

/-!
# Where the items of a file stand

A file is read from behind its marks of byte order and its interpreter line. The offsets of what is kept of
its items are ordered as the items are.

- `parseItems?_placed`: the blocks of a file stand one behind the other in what is read of it.
- `Lines.closing`, `Block.startIn`, `Block.stopIn`: the offsets of blocks.
- `Arranged`: blocks are ordered by their offsets.
- `parseItems?_arranged`: the blocks of a file are arranged.
- `parseItems?_body`, `parseItems?_fields`: the braces of blocks stand where their offsets say, in a text
  without a byte order mark.
-/

namespace RecordSql.Source

open RecordSql.Text

/-! ### What is read of a file -/

section

variable {text : List Char} {items : List Item}

theorem dropByteOrderMark_append (text : List Char) :
    ∃ mark, text = mark ++ dropByteOrderMark text ∧ '\n' ∉ mark ∧
      (mark = [] ∨ text.head? = some byteOrderMark) := by
  cases text with
  | nil => exact ⟨[], rfl, List.not_mem_nil, .inl rfl⟩
  | cons c cs =>
    by_cases hmark : c = byteOrderMark
    · subst hmark
      exact ⟨[byteOrderMark], by simp [dropByteOrderMark], by decide, .inr rfl⟩
    · exact ⟨[], by simp [dropByteOrderMark, hmark], List.not_mem_nil, .inl rfl⟩

/-- Of an interpreter line nothing is left but its line feed. -/
theorem dropInterpreterLine_append (text : List Char) :
    ∃ line, text = line ++ dropInterpreterLine text ∧ '\n' ∉ line ∧
      (line = [] ∨ ∀ c cs, dropInterpreterLine text = c :: cs → c = '\n') := by
  have hcases : dropInterpreterLine text = text ∨ dropInterpreterLine text = text.dropWhile (· ≠ '\n') := by
    unfold dropInterpreterLine
    split
    · split
      · exact .inl rfl
      · exact .inr rfl
    · exact .inl rfl
  rcases hcases with hdrop | hdrop <;> rw [hdrop]
  · exact ⟨[], rfl, List.not_mem_nil, .inl rfl⟩
  · refine ⟨text.takeWhile (· ≠ '\n'), List.takeWhile_append_dropWhile.symm, fun hmem => ?_, .inr ?_⟩
    · have hall := List.all_eq_true.1 (List.all_takeWhile (l := text) (p := (· ≠ '\n'))) _ hmem
      simp at hall
    · intro c cs hrest
      have hhead := List.head?_dropWhile_not (· ≠ '\n') text
      rw [hrest] at hhead
      simpa using hhead

/-- The trees of a text are laid behind a byte order mark. -/
theorem markedTrees?_laid {trees : List Tree} (h : markedTrees? text = some trees) :
    ∃ mark rest j, text = mark ++ rest ∧ (mark = [] ∨ text.head? = some byteOrderMark) ∧
      Laid (Position.origin.afterAll mark) rest 0 trees j := by
  have hlaid : ∀ (mark rest : List Char) (fuel : Nat),
      (lexemesFrom? fuel [] (Position.origin.afterAll mark) rest).bind (nest? [] []) = some trees →
      ∃ j, Laid (Position.origin.afterAll mark) rest 0 trees j := by
    intro mark rest fuel h
    obtain ⟨ls, hls, htrees⟩ := Option.bind_eq_some_iff.1 h
    obtain ⟨_, rfl, hstrewn⟩ :=
      lexemesFrom?_strewn (show lexemesFrom? _ _ ((Position.origin.afterAll mark).afterAll []) _ = _ from hls)
    exact nest?_laid htrees (.none (.nil (Nat.le_refl 0))) hstrewn
  unfold markedTrees? at h
  split at h
  · rename_i c cs
    split at h
    · rename_i hmark
      obtain ⟨j, hj⟩ := hlaid [c] _ _ h
      exact ⟨[c], cs, j, rfl, .inr (by rw [hmark]; rfl), hj⟩
    · obtain ⟨j, hj⟩ := hlaid [] _ _ h
      exact ⟨[], c :: cs, j, rfl, .inl rfl, hj⟩
  · obtain ⟨j, hj⟩ := hlaid [] _ _ h
    exact ⟨[], [], j, rfl, .inl rfl, hj⟩

/-- The blocks of a file stand one behind the other in what is read of it. Nothing is skipped in front of
them but a part of the first line, and they are on later lines unless this is a byte order mark. -/
theorem parseItems?_placed (h : parseItems? text = some items) :
    ∃ skipped mark rest j, text = skipped ++ (mark ++ rest) ∧ '\n' ∉ skipped ∧
      Placed (Position.origin.afterAll mark) rest 0 (blocksOfItems items) j ∧
      (text.head? ≠ some byteOrderMark →
        mark = [] ∧ (skipped = [] ∨ ∀ c cs, rest = c :: cs → c = '\n')) := by
  obtain ⟨trees, htrees, h⟩ := Option.bind_eq_some_iff.1 h
  obtain ⟨order, hfile, horder, hmarked⟩ := dropByteOrderMark_append text
  obtain ⟨line, hread, hline, hfeed⟩ := dropInterpreterLine_append (dropByteOrderMark text)
  obtain ⟨mark, rest, j, hrest, hmark, hlaid⟩ := markedTrees?_laid htrees
  have hplaced : ∃ m, Placed (Position.origin.afterAll mark) rest 0 (blocksOfItems items) m := by
    unfold parseAll? at h
    split at h
    · rename_i hrun
      cases h
      obtain ⟨m, hm, -⟩ := Grammar.items_places _ hrun hlaid
      exact ⟨m, hm⟩
    · cases h
  obtain ⟨m, hm⟩ := hplaced
  refine ⟨order ++ line, mark, rest, m, ?_, ?_, hm, fun hhead => ?_⟩
  · rw [List.append_assoc, ← hrest, ← hread, ← hfile]
  · simp [horder, hline]
  · obtain rfl : order = [] := hmarked.resolve_right hhead
    rw [List.nil_append] at hfile
    rw [← hfile] at hread hrest hmark hfeed
    have hunmarked : mark = [] := by
      refine hmark.resolve_right fun hbyte => ?_
      rcases hfeed with rfl | hfeed
      · rw [List.nil_append] at hread
        exact hhead (hread ▸ hbyte)
      · cases hbegin : dropInterpreterLine text with
        | nil => simp [hbegin] at hbyte
        | cons c cs =>
          have hc : c = byteOrderMark := by simpa [hbegin] using hbyte
          exact absurd ((hfeed c cs hbegin).symm.trans hc) (by decide)
    refine ⟨hunmarked, hfeed.imp_right fun hfeed c cs hc => hfeed c cs ?_⟩
    rw [hrest, hunmarked, hc, List.nil_append]

end

/-! ### Offsets of blocks -/

/-- The offset of a closing brace that a span ends with. -/
def Lines.closing (l : Lines) (span : Span) : Nat := l.offset ⟨span.stop.line, span.stop.column - 1⟩

namespace Block

/-- Where a block begins: a body at its opening brace, fields where they end. -/
def startIn (l : Lines) : Block → Nat
  | body span => l.offset span.start
  | fields stop => l.offset stop

/-- Where a block ends, behind its closing brace. -/
def stopIn (l : Lines) : Block → Nat
  | body span => l.closing span + 1
  | fields stop => l.offset stop

end Block

/-- Blocks do not touch each other, and are ordered by their offsets. -/
structure Arranged (l : Lines) (bs : List Block) : Prop where
  ordered : bs.Pairwise fun b c => b.stopIn l ≤ c.startIn l
  stops : bs.Pairwise fun b c => b.stopIn l < c.stopIn l
  nonempty : ∀ span, .body span ∈ bs → l.offset span.start < l.closing span

/-- Any two blocks that are arranged are the same, or one of them lies in front of the other. -/
theorem Arranged.compare {l : Lines} {bs : List Block} (h : Arranged l bs) {b c : Block} (hb : b ∈ bs)
    (hc : c ∈ bs) : b = c ∨ b.stopIn l ≤ c.startIn l ∨ c.stopIn l ≤ b.startIn l := by
  have hall := List.Pairwise.forall_of_forall_of_flip
    (R := fun b c : Block => b = c ∨ b.stopIn l ≤ c.startIn l ∨ c.stopIn l ≤ b.startIn l)
    (fun _ _ => .inl rfl) (h.ordered.imp fun h => .inr (.inl h)) (h.ordered.imp fun h => .inr (.inr h))
  exact hall hb hc

section

variable {origin : Position} {text : List Char} {first last i j : Nat} {span : Span} {bs : List Block}

/-- A span ends behind its closing brace, on the same line. -/
theorem Braces.closing_eq (h : Braces origin text first last span) :
    (⟨span.stop.line, span.stop.column - 1⟩ : Position) = placeAt origin text last := by
  have htake : text.take (last + 1) = text.take last ++ ['\x7d'] := by
    rw [List.take_add_one, h.closes, Option.toList_some]
  have hafter : placeAt origin text (last + 1) = (placeAt origin text last).after '\x7d' := by
    rw [placeAt, htake, Position.afterAll_concat, placeAt]
  have hcolumn : ∀ p : Position, p.after '\x7d' = ⟨p.line, p.column + 1⟩ := fun _ => rfl
  rw [h.stop_eq, hafter, hcolumn]
  rfl

theorem Braces.last_lt (h : Braces origin text first last span) : last < text.length :=
  (List.getElem?_eq_some_iff.1 h.closes).1

theorem Placed.mem {b : Block} (h : Placed origin text i bs j) (hb : b ∈ bs) :
    ∃ first last span, Braces origin text first last span ∧ b.Fills span := by
  induction h with
  | nil => cases hb
  | cons hi hbraces hfills _ ih =>
    rcases List.mem_cons.1 hb with rfl | hb
    · exact ⟨_, _, _, hbraces, hfills⟩
    · exact ih hb

end

section

variable {l : Lines} {skipped mark rest : List Char} {i j : Nat} {bs : List Block}

/-- What is read later stands at a later offset. -/
theorem offset_placeAt_lt (htext : l.text = skipped ++ (mark ++ rest)) (hskipped : '\n' ∉ skipped)
    (hij : i < j) (hj : j ≤ rest.length) :
    l.offset (placeAt (Position.origin.afterAll mark) rest i) <
      l.offset (placeAt (Position.origin.afterAll mark) rest j) := by
  simp only [placeAt, ← Position.afterAll_append]
  refine l.offset_lt_offset htext hskipped ?_ ?_ ?_
  · exact (List.prefix_append_right_inj mark).2 (List.take_prefix_take_left (by omega))
  · exact (List.prefix_append_right_inj mark).2 (List.take_prefix j rest)
  · simp only [List.length_append, List.length_take]
    omega

theorem offset_placeAt_le (htext : l.text = skipped ++ (mark ++ rest)) (hskipped : '\n' ∉ skipped)
    (hij : i ≤ j) (hj : j ≤ rest.length) :
    l.offset (placeAt (Position.origin.afterAll mark) rest i) ≤
      l.offset (placeAt (Position.origin.afterAll mark) rest j) := by
  rcases Nat.lt_or_eq_of_le hij with hlt | rfl
  · exact Nat.le_of_lt (offset_placeAt_lt htext hskipped hlt hj)
  · exact Nat.le_refl _

/-- A block stands between its braces. -/
theorem Block.Fills.bounds (htext : l.text = skipped ++ (mark ++ rest)) (hskipped : '\n' ∉ skipped)
    {b : Block} {first last : Nat} {span : Span} (hb : b.Fills span)
    (hbraces : Braces (Position.origin.afterAll mark) rest first last span) :
    l.offset (placeAt (Position.origin.afterAll mark) rest first) ≤ b.startIn l ∧
      b.stopIn l ≤ l.offset (placeAt (Position.origin.afterAll mark) rest (last + 1)) := by
  have hlt := hbraces.lt
  have hlast := hbraces.last_lt
  cases b with
  | body place =>
    obtain rfl : place = span := hb
    have hstep := offset_placeAt_lt htext hskipped (Nat.lt_add_one last) hlast
    rw [startIn, stopIn, Lines.closing, hbraces.closing_eq, hbraces.start_eq]
    exact ⟨Nat.le_refl _, hstep⟩
  | fields stop =>
    obtain rfl : stop = span.stop := hb
    rw [startIn, stopIn, hbraces.stop_eq]
    exact ⟨offset_placeAt_le htext hskipped (by omega) (by omega), Nat.le_refl _⟩

/-- A block ends behind its opening brace. -/
theorem Block.Fills.lt_stopIn (htext : l.text = skipped ++ (mark ++ rest)) (hskipped : '\n' ∉ skipped)
    {b : Block} {first last : Nat} {span : Span} (hb : b.Fills span)
    (hbraces : Braces (Position.origin.afterAll mark) rest first last span) :
    l.offset (placeAt (Position.origin.afterAll mark) rest first) < b.stopIn l := by
  have hlt := hbraces.lt
  have hlast := hbraces.last_lt
  cases b with
  | body place =>
    obtain rfl : place = span := hb
    rw [stopIn, Lines.closing, hbraces.closing_eq]
    exact Nat.lt_succ_of_lt (offset_placeAt_lt htext hskipped hlt (Nat.le_of_lt hlast))
  | fields stop =>
    obtain rfl : stop = span.stop := hb
    rw [stopIn, hbraces.stop_eq]
    exact offset_placeAt_lt htext hskipped (by omega) hlast

/-- Blocks that stand one behind the other are arranged. -/
theorem Placed.arranged (htext : l.text = skipped ++ (mark ++ rest)) (hskipped : '\n' ∉ skipped)
    (h : Placed (Position.origin.afterAll mark) rest i bs j) :
    Arranged l bs ∧ ∀ b ∈ bs, l.offset (placeAt (Position.origin.afterAll mark) rest i) ≤ b.startIn l ∧
      l.offset (placeAt (Position.origin.afterAll mark) rest i) < b.stopIn l := by
  induction h with
  | nil => exact ⟨⟨.nil, .nil, nofun⟩, nofun⟩
  | @cons i first last j span b bs hi hbraces hb _ ih =>
    obtain ⟨harranged, hlater⟩ := ih
    obtain ⟨hstart, hstop⟩ := hb.bounds htext hskipped hbraces
    have hlt := hbraces.lt
    have hlast := hbraces.last_lt
    have hfirst := offset_placeAt_le htext hskipped hi (by omega)
    have hmiddle := offset_placeAt_lt htext hskipped hlt (Nat.le_of_lt hlast)
    have hend := offset_placeAt_lt htext hskipped (Nat.lt_add_one last) hlast
    refine ⟨⟨List.pairwise_cons.2 ⟨fun c hc => Nat.le_trans hstop (hlater c hc).1, harranged.ordered⟩,
      List.pairwise_cons.2 ⟨fun c hc => Nat.lt_of_le_of_lt hstop (hlater c hc).2, harranged.stops⟩, ?_⟩, ?_⟩
    · intro place hplace
      rcases List.mem_cons.1 hplace with rfl | hplace
      · obtain rfl : place = span := hb
        rw [Lines.closing, hbraces.closing_eq, hbraces.start_eq]
        exact hmiddle
      · exact harranged.nonempty place hplace
    · intro c hc
      rcases List.mem_cons.1 hc with rfl | hc
      · have hbehind := hb.lt_stopIn htext hskipped hbraces
        omega
      · have := hlater c hc
        omega

end

section

variable {text : List Char} {items : List Item}

/-- The blocks of a file are arranged as its items are. -/
theorem parseItems?_arranged (h : parseItems? text = some items) :
    Arranged (.ofText text) (blocksOfItems items) := by
  obtain ⟨skipped, mark, rest, j, htext, hskipped, hplaced, -⟩ := parseItems?_placed h
  exact (hplaced.arranged htext hskipped).1

/-- Braces that are read stand in a text where their positions say, unless it has a byte order mark. -/
theorem Braces.enclose {rest skipped : List Char} {first last : Nat} {span : Span}
    (h : Braces .origin rest first last span) (htext : text = skipped ++ rest) (hskipped : '\n' ∉ skipped)
    (hfeed : skipped = [] ∨ ∀ c cs, rest = c :: cs → c = '\n') :
    ∃ front inner back, text = front ++ '\x7b' :: (inner ++ '\x7d' :: back) ∧
      (Lines.ofText text).offset (placeAt .origin rest first) = byteLength front ∧
      (Lines.ofText text).offset (placeAt .origin rest last) = byteLength front + 1 + byteLength inner ∧
      (Lines.ofText text).offset (placeAt .origin rest (last + 1)) =
        byteLength front + 1 + byteLength inner + 1 := by
  have hlt := h.lt
  obtain ⟨hfirst, hopens⟩ := List.getElem?_eq_some_iff.1 h.opens
  obtain ⟨hlast, hcloses⟩ := List.getElem?_eq_some_iff.1 h.closes
  have hexact : ∀ i, first ≤ i → skipped = [] ∨ '\n' ∈ rest.take i := by
    refine fun i hi => hfeed.imp_right fun hfeed => ?_
    cases rest with
    | nil => exact absurd hfirst (Nat.not_lt_zero _)
    | cons c cs =>
      obtain rfl := hfeed c cs rfl
      cases i with
      | zero =>
        obtain rfl : first = 0 := Nat.le_zero.1 hi
        cases hopens
      | succ i => exact List.mem_cons_self
  have hoffset : ∀ i, first ≤ i →
      (Lines.ofText text).offset (placeAt .origin rest i) = byteLength (skipped ++ rest.take i) := by
    intro i hi
    have hsplit : (Lines.ofText text).text = skipped ++ rest.take i ++ rest.drop i := by
      rw [List.append_assoc, List.take_append_drop]
      exact htext
    exact (Lines.ofText text).offset_eq hsplit hskipped (hexact i hi)
  obtain ⟨inner, hinner⟩ : ∃ inner, rest.take last = rest.take first ++ '\x7b' :: inner := by
    have hboth := List.take_append_drop (first + 1) (rest.take last)
    rw [List.take_take, Nat.min_eq_left hlt, List.take_add_one, h.opens, Option.toList_some] at hboth
    exact ⟨_, hboth.symm.trans (List.append_assoc _ ['\x7b'] _)⟩
  have hbehind : rest.take (last + 1) = rest.take last ++ ['\x7d'] := by
    rw [List.take_add_one, h.closes, Option.toList_some]
  have hone : ('\x7b' : Char).utf8Size = 1 ∧ byteLength ['\x7d'] = 1 := ⟨rfl, rfl⟩
  refine ⟨skipped ++ rest.take first, inner, rest.drop (last + 1), ?_, ?_, ?_, ?_⟩
  · conv_lhs => rw [htext, ← List.take_append_drop (last + 1) rest, hbehind, hinner]
    simp
  · exact hoffset first (Nat.le_refl _)
  · rw [hoffset last (Nat.le_of_lt hlt), hinner]
    simp only [byteLength_append, byteLength_cons, hone]
    omega
  · rw [hoffset (last + 1) (by omega), hbehind, hinner]
    simp only [byteLength_append, byteLength_cons, hone]
    omega

/-- A body stands between its braces in a text without a byte order mark. -/
theorem parseItems?_body (h : parseItems? text = some items) (hhead : text.head? ≠ some byteOrderMark)
    {span : Span} (hspan : .body span ∈ blocksOfItems items) :
    ∃ front inner back, text = front ++ '\x7b' :: (inner ++ '\x7d' :: back) ∧
      (Lines.ofText text).offset span.start = byteLength front ∧
      (Lines.ofText text).closing span = byteLength front + 1 + byteLength inner := by
  obtain ⟨skipped, mark, rest, j, htext, hskipped, hplaced, hexact⟩ := parseItems?_placed h
  obtain ⟨rfl, hfeed⟩ := hexact hhead
  obtain ⟨first, last, place, hbraces, hfills⟩ := hplaced.mem hspan
  obtain rfl : span = place := hfills
  obtain ⟨front, inner, back, hwhole, hopening, hclosing, -⟩ := hbraces.enclose htext hskipped hfeed
  refine ⟨front, inner, back, hwhole, ?_, ?_⟩
  · rw [hbraces.start_eq]
    exact hopening
  · rw [Lines.closing, hbraces.closing_eq]
    exact hclosing

/-- Fields end behind a closing brace in a text without a byte order mark. -/
theorem parseItems?_fields (h : parseItems? text = some items) (hhead : text.head? ≠ some byteOrderMark)
    {stop : Position} (hstop : .fields stop ∈ blocksOfItems items) :
    ∃ front back, text = front ++ '\x7d' :: back ∧ (Lines.ofText text).offset stop = byteLength front + 1 := by
  obtain ⟨skipped, mark, rest, j, htext, hskipped, hplaced, hexact⟩ := parseItems?_placed h
  obtain ⟨rfl, hfeed⟩ := hexact hhead
  obtain ⟨first, last, place, hbraces, hfills⟩ := hplaced.mem hstop
  obtain rfl : stop = place.stop := hfills
  obtain ⟨front, inner, back, hwhole, -, -, hbehind⟩ := hbraces.enclose htext hskipped hfeed
  refine ⟨front ++ '\x7b' :: inner, back, by simp [hwhole], ?_⟩
  have hone : ('\x7b' : Char).utf8Size = 1 := rfl
  rw [hbraces.stop_eq, byteLength_append, byteLength_cons, hone]
  exact hbehind.trans (by omega)

end

end RecordSql.Source
