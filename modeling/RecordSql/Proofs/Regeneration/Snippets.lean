import RecordSql.Generate.SourceRecord
import RecordSql.Proofs.Regeneration.Markers

/-!
# Lines of generated text

What is generated for a record consists of whole lines, and none of them is a marker but the markers of its
regions, as long as the names and types of the record are written on one line.

- `Plain`: whole lines none of which is a marker.
- `Region.body_plain`: what stands between the markers of a region is plain.
- `DeclaredField.Inline`: a field that is written on one line.
-/

namespace RecordSql.Generate

open RecordSql.Source RecordSql.Text

/-! ### Plain lines -/

/-- A text of whole lines none of which is a marker. -/
def Plain (text : List Char) : Prop :=
  ∃ rs, text = wholeLines rs ∧ ∀ row ∈ rs, '\n' ∉ row ∧ ∀ k, sideOf? k row = none

/-- Blanks in front of a line. -/
structure IsIndent (indent : String) : Prop where
  blank : ∀ c ∈ indent.toList, isBlank c
  inline : '\n' ∉ indent.toList

theorem IsIndent.nested {indent : String} (h : IsIndent indent) : IsIndent (nested indent) := by
  have hunit : indentUnit.toList = List.replicate 4 ' ' := rfl
  constructor
  · intro c hc
    rw [Generate.nested, String.toList_append, hunit] at hc
    rcases List.mem_append.1 hc with hc | hc
    · exact h.blank c hc
    · rw [List.eq_of_mem_replicate hc]
      rfl
  · rw [Generate.nested, String.toList_append, hunit]
    simpa using h.inline

namespace Plain

theorem nil : Plain [] := ⟨[], rfl, List.forall_mem_nil _⟩

theorem append {front back : List Char} (hfront : Plain front) (hback : Plain back) : Plain (front ++ back) := by
  obtain ⟨rs, rfl, hrs⟩ := hfront
  obtain ⟨qs, rfl, hqs⟩ := hback
  exact ⟨rs ++ qs, (wholeLines_append rs qs).symm, List.forall_mem_append.2 ⟨hrs, hqs⟩⟩

/-- An empty line. -/
theorem feed : Plain "\n".toList :=
  ⟨[[]], rfl, List.forall_mem_singleton.2 ⟨List.not_mem_nil, sideOf?_blank (List.forall_mem_nil _)⟩⟩

/-- A line that does not begin like a marker. -/
theorem line {indent text : String} {c : Char} (hindent : IsIndent indent) (hhead : text.toList.head? = some c)
    (hblank : isBlank c = false) (hc : c ≠ '/') (htext : '\n' ∉ text.toList) :
    Plain (indent ++ text ++ "\n").toList := by
  obtain ⟨cs, hcs⟩ := List.head?_eq_some_iff.1 hhead
  have hfeed : "\n".toList = ['\n'] := rfl
  refine ⟨[indent.toList ++ text.toList], ?_, List.forall_mem_singleton.2 ⟨?_, ?_⟩⟩
  · simp [hfeed]
  · exact fun hmem => (List.mem_append.1 hmem).elim hindent.inline htext
  · rw [hcs]
    exact sideOf?_of_head hindent.blank hblank hc cs

/-- Plain texts one behind the other. -/
theorem intercalate {α : Type} {f : α → String} {as : List α} (h : ∀ a ∈ as, Plain (f a).toList) :
    Plain ("".intercalate (as.map f)).toList := by
  rw [String.toList_intercalate]
  induction as with
  | nil => exact nil
  | cons a as ih =>
    obtain ⟨ha, has⟩ := List.forall_mem_cons.1 h
    have hcons : ("".toList.intercalate (((a :: as).map f).map String.toList)) =
        (f a).toList ++ "".toList.intercalate ((as.map f).map String.toList) := by
      cases as <;> simp
    rw [hcons]
    exact ha.append (ih has)

end Plain

/-! ### Members of a region -/

section

variable {indent : String} {fields : List DeclaredField} {f : DeclaredField}

/-- A field whose name and type are written on one line. -/
structure DeclaredField.Inline (f : DeclaredField) : Prop where
  name : '\n' ∉ f.name.toList
  type : '\n' ∉ f.type.toList
  constant : '\n' ∉ (constantOf f.name).toList

theorem inline_append {s t : String} (hs : '\n' ∉ s.toList) (ht : '\n' ∉ t.toList) :
    '\n' ∉ (s ++ t).toList := by
  rw [String.toList_append]
  exact fun h => (List.mem_append.1 h).elim hs ht

theorem inline_intercalate {s : String} {ts : List String} (hs : '\n' ∉ s.toList)
    (hts : ∀ t ∈ ts, '\n' ∉ t.toList) : '\n' ∉ (s.intercalate ts).toList := by
  induction ts with
  | nil => simp
  | cons t ts ih =>
    obtain ⟨ht, hts⟩ := List.forall_mem_cons.1 hts
    cases ts with
    | nil => simpa using ht
    | cons t' ts =>
      rw [String.intercalate_cons_cons]
      exact inline_append (inline_append ht hs) (ih hts)

theorem nameConstant_plain (hindent : IsIndent indent) (hf : f.Inline) :
    Plain (nameConstant indent f.name).toList := by
  have htext : nameConstant indent f.name =
      indent ++ ("pub const " ++ constantOf f.name ++ ": &'static str = \"" ++ f.name ++ "\";") ++ "\n" := by
    have hend : "\";\n" = "\";" ++ "\n" := rfl
    simp only [nameConstant, hend, String.append_assoc]
  rw [htext]
  refine Plain.line (c := 'p') hindent (by simp) rfl (by decide) ?_
  refine inline_append (inline_append (inline_append (inline_append ?_ hf.constant) ?_) hf.name) ?_ <;> decide

theorem columnFunction_plain (hindent : IsIndent indent) (hf : f.Inline) :
    Plain (columnFunction indent f.name).toList := by
  have htext : columnFunction indent f.name =
      (indent ++ ("pub fn " ++ f.name ++ "_c() -> ::depot::ColumnExp \x7b") ++ "\n") ++
        (nested indent ++ ("::depot::ColumnExp::new::<Self>(Self::" ++ constantOf f.name ++ ")") ++ "\n") ++
        (indent ++ "\x7d" ++ "\n") := by
    have hopen : "_c() -> ::depot::ColumnExp \x7b\n" = "_c() -> ::depot::ColumnExp \x7b" ++ "\n" := rfl
    have hend : ")\n" = ")" ++ "\n" := rfl
    have hclose : "\x7d\n" = "\x7d" ++ "\n" := rfl
    simp only [columnFunction, hopen, hend, hclose, String.append_assoc]
  rw [htext, String.toList_append, String.toList_append]
  refine Plain.append (Plain.append ?_ ?_) ?_
  · refine Plain.line (c := 'p') hindent (by simp) rfl (by decide) ?_
    refine inline_append (inline_append ?_ hf.name) ?_ <;> decide
  · refine Plain.line (c := ':') hindent.nested (by simp) rfl (by decide) ?_
    refine inline_append (inline_append ?_ hf.constant) ?_ <;> decide
  · exact Plain.line (c := '\x7d') hindent rfl rfl (by decide) (by decide)

theorem fieldMembers_plain (hindent : IsIndent indent) (hfields : ∀ f ∈ fields, f.Inline) :
    Plain (fieldMembers indent fields).toList := by
  rw [fieldMembers, String.toList_append]
  refine (Plain.intercalate fun f hf => nameConstant_plain hindent (hfields f hf)).append
    (Plain.intercalate fun f hf => ?_)
  rw [String.toList_append]
  exact Plain.feed.append (columnFunction_plain hindent (hfields f hf))

theorem keyConstructor_plain (hindent : IsIndent indent) (hfields : ∀ f ∈ fields, f.Inline) :
    Plain (keyConstructor indent fields).toList := by
  have htext : keyConstructor indent fields =
      (indent ++ ("pub fn get_key(" ++ ", ".intercalate (fields.map keyParameter) ++
        ") -> ::depot::Key \x7b") ++ "\n") ++
        (nested indent ++ ("::depot::Key::new::<Self>(vec![" ++ ", ".intercalate (fields.map keyValue) ++
          "])") ++ "\n") ++ (indent ++ "\x7d" ++ "\n") := by
    have hopen : ") -> ::depot::Key \x7b\n" = ") -> ::depot::Key \x7b" ++ "\n" := rfl
    have hend : "])\n" = "])" ++ "\n" := rfl
    have hclose : "\x7d\n" = "\x7d" ++ "\n" := rfl
    simp only [keyConstructor, hopen, hend, hclose, String.append_assoc]
  rw [htext, String.toList_append, String.toList_append]
  refine Plain.append (Plain.append ?_ ?_) ?_
  · refine Plain.line (c := 'p') hindent (by simp) rfl (by decide) ?_
    refine inline_append (inline_append (by decide) (inline_intercalate (by decide) fun t ht => ?_)) (by decide)
    obtain ⟨f, hf, rfl⟩ := List.mem_map.1 ht
    exact inline_append (inline_append (hfields f hf).name (by decide)) (hfields f hf).type
  · refine Plain.line (c := ':') hindent.nested (by simp) rfl (by decide) ?_
    refine inline_append (inline_append (by decide) (inline_intercalate (by decide) fun t ht => ?_)) (by decide)
    obtain ⟨f, hf, rfl⟩ := List.mem_map.1 ht
    refine inline_append (inline_append (inline_append (inline_append ?_ (hfields f hf).constant) ?_)
      (hfields f hf).name) ?_ <;> decide
  · exact Plain.line (c := '\x7d') hindent rfl rfl (by decide) (by decide)

/-- What stands between the markers of a region is plain. -/
theorem Region.body_plain (k : Region) (hindent : IsIndent indent) (hfields : ∀ f ∈ fields, f.Inline) :
    Plain (k.body indent fields).toList := by
  cases k with
  | fields => exact fieldMembers_plain hindent hfields
  | methods =>
    rw [body, keyMembers]
    split
    · exact Plain.nil
    · exact keyConstructor_plain hindent fun f hf => hfields f (List.mem_filter.1 hf).1

end

end RecordSql.Generate
