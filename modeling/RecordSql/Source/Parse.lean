import RecordSql.Source.Literal
import RecordSql.Source.Token

/-!
# Reading token trees

- `Parse`: reads a beginning of some trees, or refuses them. What it leaves is the end of what there was.
- `atOp`, `atWord`, `atName`, …: what the trees begin with.
- `op`, `word`, `name`, …: reads one thing.
- `Parse.collect`, `Parse.terminated`: reads many things.
-/

namespace RecordSql.Source

/-- Reads a beginning of some trees, or refuses them. Nothing but the end of these trees is left. -/
structure Parse (α : Type) where
  run : List Tree → Option (α × List Tree)
  suffix : ∀ {ts a rest}, run ts = some (a, rest) → rest <:+ ts

namespace Parse

variable {α β : Type}

/-- Reads nothing. -/
protected def pure (a : α) : Parse α where
  run ts := some (a, ts)
  suffix h := by
    cases h
    exact List.suffix_rfl

/-- Reads one thing after the other. -/
protected def bind (p : Parse α) (f : α → Parse β) : Parse β where
  run ts := (p.run ts).bind fun (a, rest) => (f a).run rest
  suffix {ts b rest} h := by
    obtain ⟨⟨a, mid⟩, ha, hb⟩ := Option.bind_eq_some_iff.1 h
    exact ((f a).suffix hb).trans (p.suffix ha)

/-- Refuses all trees. -/
protected def failure : Parse α where
  run _ := none
  suffix h := nomatch h

/-- Reads one thing, or else another. -/
protected def orElse (p : Parse α) (q : Unit → Parse α) : Parse α where
  run ts := (p.run ts).or ((q ()).run ts)
  suffix {ts a rest} h := by
    rcases Option.or_eq_some_iff.1 h with h | ⟨-, h⟩
    · exact p.suffix h
    · exact (q ()).suffix h

instance : Monad Parse where
  pure := Parse.pure
  bind := Parse.bind

instance : Alternative Parse where
  failure := Parse.failure
  orElse := Parse.orElse

end Parse

/-! ### Looking ahead -/

/-- The trees behind a mark of several characters, of which all but the last are joint. The apostrophe of
a lifetime is no mark. -/
def dropOp? : List Char → List Tree → Option (List Tree)
  | [], ts => some ts
  | [c], .punct d _ _ :: ts => if c = d then some ts else none
  | c :: more, .punct d joint _ :: ts => if c = d && joint then dropOp? more ts else none
  | _, _ => none

theorem dropOp?_suffix : ∀ {cs : List Char} {ts rest : List Tree},
    dropOp? cs ts = some rest → rest <:+ ts
  | [], _, _, h => by
    cases h
    exact List.suffix_rfl
  | [c], .punct d _ _ :: _, _, h => by
    simp only [dropOp?, Option.ite_none_right_eq_some, Option.some.injEq] at h
    rw [← h.2]
    exact List.suffix_cons _ _
  | c :: c' :: more, .punct d joint _ :: _, _, h => by
    simp only [dropOp?, Option.ite_none_right_eq_some] at h
    exact (dropOp?_suffix h.2).trans (List.suffix_cons _ _)

/-- Whether a mark comes first. -/
def atOp (o : String) (ts : List Tree) : Bool := (dropOp? o.toList ts).isSome

/-- Whether one of some marks comes first. -/
def atAnyOp (os : List String) (ts : List Tree) : Bool := os.any fun o => atOp o ts

/-- Whether an identifier that passes a test comes first. -/
def atIdentWith (p : Ident → Bool) : List Tree → Bool
  | .ident i _ :: _ => p i
  | _ => false

/-- Whether any identifier comes first, be it reserved. -/
def atIdent (ts : List Tree) : Bool := atIdentWith (fun _ => true) ts

/-- Whether a word comes first. -/
def atWord (w : String) (ts : List Tree) : Bool := atIdentWith (fun i => i.isWord w) ts

/-- Whether one of some words comes first. -/
def atAnyWord (ws : List String) (ts : List Tree) : Bool := ws.any fun w => atWord w ts

/-- Whether an identifier that may name something comes first. -/
def atName (ts : List Tree) : Bool := atIdentWith Ident.isName ts

/-- Whether a group comes first. -/
def atGroup (d : Delimiter) : List Tree → Bool
  | .group e _ _ :: _ => d = e
  | _ => false

/-- Whether a lifetime comes first. -/
def atLifetime : List Tree → Bool
  | .punct '\'' true _ :: .ident _ _ :: _ => true
  | _ => false

/-- Whether a literal comes first: also a truth value, or a number with a minus sign. -/
def atLiteral : List Tree → Bool
  | .literal _ _ :: _ => true
  | .ident i _ :: _ => i.isWord "true" || i.isWord "false"
  | .punct '-' _ _ :: .literal t _ :: _ => isNumber t
  | _ => false

/-- Whether a string comes first. -/
def atString : List Tree → Bool
  | .literal t _ :: _ => (stringValue? t).isSome
  | _ => false

/-- The trees behind the first one; a lifetime counts as one. -/
def behind : List Tree → List Tree
  | [] => []
  | .punct '\'' true _ :: .ident _ _ :: ts => ts
  | _ :: ts => ts

theorem behind_suffix (ts : List Tree) : behind ts <:+ ts := by
  unfold behind
  split
  · exact List.suffix_rfl
  · exact (List.suffix_cons _ _).trans (List.suffix_cons _ _)
  · exact List.suffix_cons _ _

/-- The words in paths that never take arguments. -/
def moduleWords : List String := ["super", "self", "crate", "try"]

/-- Whether a name or a word that begins a path comes first. -/
def atSegment (ts : List Tree) : Bool := atName ts || atAnyWord ["super", "self", "Self", "crate"] ts

/-! ### Reading one thing -/

/-- Refuses unless a condition holds. -/
def require (b : Bool) : Parse Unit := if b then pure () else failure

/-- The trees that are still to be read. -/
def ahead : Parse (List Tree) where
  run ts := some (ts, ts)
  suffix h := by
    cases h
    exact List.suffix_rfl

/-- Whether the trees ahead pass a test. -/
def looking (p : List Tree → Bool) : Parse Bool := return p (← ahead)

/-- Looks what something would leave, without reading it. -/
def leaving {α : Type} (p : Parse α) : Parse (List Tree) where
  run ts := (p.run ts).map fun (_, rest) => (rest, ts)
  suffix h := by
    obtain ⟨_, -, h⟩ := Option.map_eq_some_iff.1 h
    cases h
    exact List.suffix_rfl

/-- Reads a mark. -/
def op (o : String) : Parse Unit where
  run ts := (dropOp? o.toList ts).map fun rest => ((), rest)
  suffix h := by
    obtain ⟨_, hrest, h⟩ := Option.map_eq_some_iff.1 h
    cases h
    exact dropOp?_suffix hrest

/-- Reads a mark if it comes first. -/
def op? (o : String) : Parse Bool where
  run ts :=
    match dropOp? o.toList ts with
    | some rest => some (true, rest)
    | none => some (false, ts)
  suffix h := by
    split at h <;> cases h
    · exact dropOp?_suffix ‹_›
    · exact List.suffix_rfl

/-- Reads any tree. -/
def anyTree : Parse Tree where
  run
    | [] => none
    | t :: ts => some (t, ts)
  suffix h := by
    split at h <;> cases h
    exact List.suffix_cons _ _

/-- Reads an identifier that passes a test. -/
def identWith (p : Ident → Bool) : Parse Ident where
  run
    | .ident i _ :: ts => if p i then some (i, ts) else none
    | _ => none
  suffix h := by
    split at h
    · split at h <;> cases h
      exact List.suffix_cons _ _
    · cases h

/-- Reads any identifier, be it reserved. -/
def anyIdent : Parse Ident := identWith fun _ => true

/-- Reads an identifier that may name something. -/
def name : Parse Ident := identWith Ident.isName

/-- Reads a word. -/
def word (w : String) : Parse Unit := do let _ ← identWith fun i => i.isWord w

/-- Reads a word if it comes first. -/
def word? (w : String) : Parse Bool := do
  if atWord w (← ahead) then
    word w
    return true
  else return false

/-- Reads a lifetime. -/
def lifetime : Parse Unit where
  run ts := if atLifetime ts then some ((), behind ts) else none
  suffix {ts a rest} h := by
    split at h <;> cases h
    exact behind_suffix ts

/-- Reads a literal, with the sign of a number. -/
def literal : Parse Unit := do
  require (atLiteral (← ahead))
  let _ ← op? "-"
  let _ ← anyTree

/-- Reads a group, whose content has to be read to its end, and gives its place. -/
def groupWithSpan {α : Type} (d : Delimiter) (p : Parse α) : Parse (α × Span) where
  run
    | .group e content span :: ts =>
      if d = e then
        match p.run content with
        | some (a, []) => some ((a, span), ts)
        | _ => none
      else none
    | _ => none
  suffix h := by
    split at h
    · split at h
      · split at h <;> cases h
        exact List.suffix_cons _ _
      · cases h
    · cases h

/-- Reads a group, whose content has to be read to its end. -/
def group {α : Type} (d : Delimiter) (p : Parse α) : Parse α := do
  return (← groupWithSpan d p).1

/-- Reads a group whatever it holds, and gives its delimiter. -/
def anyGroup : Parse Delimiter where
  run
    | .group d _ _ :: ts => some (d, ts)
    | _ => none
  suffix h := by
    split at h <;> cases h
    exact List.suffix_cons _ _

/-- Reads something, and gives the trees it consists of. -/
def withTrees {α : Type} (p : Parse α) : Parse (α × List Tree) := do
  let earlier ← ahead
  let a ← p
  let later ← ahead
  return (a, earlier.take (earlier.length - later.length))

/-! ### Reading many things -/

namespace Parse

/-- Reads something if the trees ahead pass a test. -/
def whenever (test : List Tree → Bool) (p : Parse Unit) : Parse Unit := do
  if test (← ahead) then p

/-- Reads on as long as there is something to read, at most so many times. -/
def collectAtMost {α : Type} (p : Parse (Option α)) : Nat → Parse (List α)
  | 0 => failure
  | n + 1 => do
    match ← p with
    | some a => return a :: (← collectAtMost p n)
    | none => return []

/-- Reads on as long as there is something to read. -/
def collect {α : Type} (p : Parse (Option α)) : Parse (List α) := do
  collectAtMost p ((← ahead).length + 1)

/-- Reads on as long as a step says so. -/
def repeating (p : Parse Bool) : Parse Unit := do
  let _ ← collect (do if ← p then return some () else return none)

/-- Reads up to where the trees ahead pass a test. -/
def upTo {α : Type} (stop : List Tree → Bool) (p : Parse α) : Parse (List α) :=
  collect do
    if stop (← ahead) then return none
    else return some (← p)

/-- Reads to the end. -/
def toEnd {α : Type} (p : Parse α) : Parse (List α) :=
  Parse.upTo List.isEmpty p

/-- Reads things with separators between them, up to where the trees ahead pass a test. A separator may
stand before the end. -/
def separated {α : Type} (separator : String) (stop : List Tree → Bool) (p : Parse α) :
    Parse (List α) :=
  Parse.upTo stop do
    let a ← p
    if !stop (← ahead) then op separator
    return a

/-- Reads things with commas between them to the end. -/
def terminated {α : Type} (p : Parse α) : Parse (List α) :=
  separated "," List.isEmpty p

/-- Reads things joined by a mark, up to where the mark is missing or the trees ahead pass a test. -/
def joined {α : Type} (mark : String) (stop : List Tree → Bool) (p : Parse α) : Parse (List α) := do
  if stop (← ahead) then return []
  let first ← p
  let rest ← collect do
    if ← op? mark then
      if stop (← ahead) then return none
      else return some (← p)
    else return none
  return first :: rest

end Parse

end RecordSql.Source
