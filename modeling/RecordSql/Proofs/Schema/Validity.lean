import RecordSql.Proofs.Compilation
import RecordSql.Proofs.Decision

/-!
# Valid descriptors

Building a schema checks the descriptor of a record in a fixed order, and it looks at the descriptors of
the records that are shadowed. A schema is built exactly if no rule is broken, and it says what the
descriptor says, with the names of tables and columns resolved.

- `Descriptor.Valid`: the rules of a descriptor.
- `FieldDescriptor.ResolvesTo`, `Descriptor.ResolvesTo`: what a field and a record are resolved to.
- `buildFields_decides`, `chooseKeyGenerator_decides`, `ofDescriptor_decides`: the checks, each with its
  rule, its result and its errors.
- `ofDescriptor_iff_valid`: a schema is built exactly of valid descriptors, and what it is then.
-/

namespace RecordSql

/-! ### Rules -/

/-- A concrete record stores a field of some name. Of several fields of the name the first one counts. -/
def Catalog.Stores (catalog : Catalog) (t : RecordType) (name : String) : Prop :=
  (catalog.descriptor t).computed = none ∧
    ∃ target, (catalog.descriptor t).field? name = some target ∧ target.computed = none

/-- A field that shadows a record finds a stored field there; `stores` says what that means. -/
def FieldDescriptor.Backed (stores : RecordType → String → Prop) (f : FieldDescriptor) : Prop :=
  ∀ t, f.shadowOf = some t → stores t f.name

/-- The rules of the descriptor of a record; `stores` says which records store fields of which names. -/
structure Descriptor.Meets (catalog : Catalog) (stores : RecordType → String → Prop)
    (record : RecordType) (d : Descriptor) : Prop where
  shadow : ∀ t, d.shadowOf = some t → t ≠ record ∧ (catalog.descriptor t).computed = none
  names : (d.fields.map (·.name)).Nodup
  backed : ∀ f ∈ d.fields, f.Backed stores
  single : d.fields.countP (·.generated.isSome) ≤ 1
  key : ∀ f ∈ d.fields, f.generated.isSome → f.id ∧ d.fields.countP (·.id) = 1
  number : ∀ f ∈ d.fields, f.generated.isSome →
    f.type ∈ [FieldType.tinyInt, .smallInt, .integer, .bigInt]
  generator : ∀ f ∈ d.fields, ∀ g, f.generated = some g → g.strategy = .table →
    ∃ t ∈ d.generators, g.generator = some t.name
  indexes : ∀ i ∈ d.indexes, ∀ n ∈ i.fields, n ∈ d.fields.map (·.name)
  fullText : ∀ i ∈ d.fullText, ∀ n ∈ i.fields, n ∈ d.fields.map (·.name)

/-- A valid descriptor of a record. -/
def Descriptor.Valid (catalog : Catalog) (record : RecordType) (d : Descriptor) : Prop :=
  d.Meets catalog catalog.Stores record

/-! ### Results -/

/-- The name of a field's column: the one that is declared, or else the one that the shadowed field has, or
else that of the field itself. -/
structure FieldDescriptor.NamesColumn (catalog : Catalog) (f : FieldDescriptor) (name : String) :
    Prop where
  explicit : ∀ n, f.column.name = some n → name = n
  shadowed : f.column.name = none → ∀ t, f.shadowOf = some t →
    ∃ target, (catalog.descriptor t).field? f.name = some target ∧ target.computed = none ∧
      name = target.column.name.getD target.name
  own : f.column.name = none → f.shadowOf = none → name = f.name

/-- What a field is resolved to: it keeps all that is declared, and its column has a name. -/
structure FieldDescriptor.ResolvesTo (catalog : Catalog) (f : FieldDescriptor) (x : FieldSchema) :
    Prop where
  name : x.name = f.name
  type : x.type = f.type
  id : x.id = f.id
  generated : x.generated = f.generated
  computed : x.computed = f.computed
  column : f.NamesColumn catalog x.columnName

/-- What the key generator of a generated field is: it finds its table generator by name. -/
structure KeyGenerator.Of (k : KeyGenerator) (field : String) (g : GeneratedValue)
    (generators : List TableGenerator) : Prop where
  field : k.field = field
  strategy : k.strategy = g.strategy
  table_iff : k.tableGenerator.isSome ↔ g.strategy = .table
  table : ∀ t, k.tableGenerator = some t → t ∈ generators ∧ g.generator = some t.name

/-- What the descriptor of a record is resolved to. -/
structure Descriptor.ResolvesTo (catalog : Catalog) (record : RecordType) (d : Descriptor)
    (s : RecordSchema) : Prop where
  record : s.record = record
  typeName : s.typeName = d.typeName
  table : s.table = if d.computed.isSome then none else some (d.table.getD d.typeName)
  computed : s.computed = d.computed
  fields : List.Forall₂ (FieldDescriptor.ResolvesTo catalog) d.fields s.fields
  ungenerated : s.keyGenerator = none ↔ ∀ f ∈ d.fields, f.generated = none
  generated : ∀ k, s.keyGenerator = some k →
    ∃ f ∈ d.fields, ∃ g, f.generated = some g ∧ k.Of f.name g d.generators
  indexes : s.indexes = d.indexes
  unique : s.unique = d.unique
  fullText : s.fullText = d.fullText
  generators : s.generators = d.generators

/-- What is wrong where there is no schema: only a field that is not backed is an invalid shadow, all else
makes the schema invalid. -/
def SchemaError (catalog : Catalog) (typeName : String) (fields : List FieldDescriptor) (e : Error) : Prop :=
  (∃ fault, e = .invalidSchema typeName fault) ∨
    ∃ f ∈ fields, ¬f.Backed catalog.Stores ∧ ∃ fault, e = .invalidShadow typeName f.name fault

variable {catalog : Catalog} {record : RecordType} {d : Descriptor} {typeName : String}

/-! ### The shadow of a record -/

theorem checkShadow_decides (catalog : Catalog) (record : RecordType) (d : Descriptor) :
    Decides (∀ t, d.shadowOf = some t → t ≠ record ∧ (catalog.descriptor t).computed = none)
      (fun _ => True) (SchemaError catalog d.typeName d.fields) (checkShadow catalog record d) := by
  unfold checkShadow
  cases hshadow : d.shadowOf with
  | none => exact ⟨nofun, trivial⟩
  | some t =>
    have hchecked : Decides (¬t = record ∧ ¬(catalog.descriptor t).computed.isSome ∧ True) (fun _ => True)
        (SchemaError catalog d.typeName d.fields)
        (if t = record then .error (.invalidSchema d.typeName .shadowsItself)
          else if (catalog.descriptor t).computed.isSome then
            .error (.invalidSchema d.typeName (.shadowsComputed t))
          else .ok ()) :=
      .guard (fun _ => .inl ⟨_, rfl⟩) fun _ => .guard (fun _ => .inl ⟨_, rfl⟩) fun _ => ⟨trivial, trivial⟩
    refine hchecked.congr ?_
    simp

/-! ### Fields -/

/-- The column of the stored field that a field shadows, or the fault that there is none. -/
theorem borrowedColumn_decides (catalog : Catalog) (typeName name : String) (t : RecordType) :
    Decides (catalog.Stores t name)
      (fun column => ∃ target, (catalog.descriptor t).field? name = some target ∧ target.computed = none ∧
        column.name = some (target.column.name.getD target.name))
      (fun e => ∃ fault, e = .invalidShadow typeName name fault)
      (borrowedColumn catalog typeName name t) := by
  unfold borrowedColumn
  dsimp only
  cases htarget : (catalog.descriptor t).field? name with
  | none =>
    have hnot : ¬catalog.Stores t name := by
      rintro ⟨-, target, h, -⟩
      rw [htarget] at h
      cases h
    split
    · exact ⟨hnot, _, rfl⟩
    · exact ⟨hnot, _, rfl⟩
  | some target =>
    have hchecked : Decides (¬(catalog.descriptor t).computed.isSome ∧ ¬target.shadowOf.isSome ∧
          ¬target.computed.isSome ∧ True)
        (fun column : Column => ∃ target', some target = some target' ∧ target'.computed = none ∧
          column.name = some (target'.column.name.getD target'.name))
        (fun e => ∃ fault, e = .invalidShadow typeName name fault)
        (if (catalog.descriptor t).computed.isSome then
            .error (.invalidShadow typeName name (.computedRecord t))
          else if target.shadowOf.isSome then .error (.invalidShadow typeName name (.shadowingField t name))
          else if target.computed.isSome then .error (.invalidShadow typeName name (.computedField t name))
          else .ok { target.column with name := some (target.column.name.getD target.name) }) :=
      .guard (fun _ => ⟨_, rfl⟩) fun _ => .guard (fun _ => ⟨_, rfl⟩) fun _ =>
        .guard (fun _ => ⟨_, rfl⟩) fun hstored =>
          ⟨trivial, target, rfl, Option.not_isSome_iff_eq_none.1 hstored, rfl⟩
    refine hchecked.congr ?_
    have hshadow : target.computed = none → target.shadowOf = none := by
      intro hstored
      rw [FieldDescriptor.shadowOf, hstored]
      rfl
    simp only [Catalog.Stores, htarget, Option.some.injEq, exists_eq_left', Option.not_isSome_iff_eq_none,
      and_true]
    tauto

/-- The column of a field has a name exactly if the field is backed. -/
theorem resolveColumn_decides (catalog : Catalog) (typeName : String) (f : FieldDescriptor) :
    Decides (f.Backed catalog.Stores) (fun column => f.NamesColumn catalog (column.name.getD f.name))
      (fun e => ∃ fault, e = .invalidShadow typeName f.name fault) (resolveColumn catalog typeName f) := by
  unfold resolveColumn
  cases hshadow : f.shadowOf with
  | none =>
    refine ⟨fun t ht => ?_, fun n hn => by rw [hn]; rfl, fun _ t ht => ?_, fun hn _ => by rw [hn]; rfl⟩
    · rw [hshadow] at ht
      cases ht
    · rw [hshadow] at ht
      cases ht
  | some t =>
    have hbacked : catalog.Stores t f.name ↔ f.Backed catalog.Stores := by
      simp [FieldDescriptor.Backed, hshadow]
    refine ((borrowedColumn_decides catalog typeName f.name t).result fun column _ hcolumn => ?_).congr hbacked
    obtain ⟨target, htarget, hstored, hname⟩ := hcolumn
    -- either the whole column is inherited, or its name alone
    have hresolved : (if f.column = {} then column
          else { f.column with name := some (f.column.name.getD (column.name.getD "")) }).name.getD f.name =
        f.column.name.getD (target.column.name.getD target.name) := by
      split
      · rename_i hdefault
        rw [hname, hdefault]
        rfl
      · rw [hname]
        rfl
    refine ⟨fun n hn => ?_, fun hn q hq => ?_, fun _ hq => ?_⟩
    · rw [hresolved, hn]
      rfl
    · rw [hshadow] at hq
      cases hq
      exact ⟨target, htarget, hstored, by rw [hresolved, hn]; rfl⟩
    · rw [hshadow] at hq
      cases hq

/-- A field is resolved exactly if it is backed. -/
theorem buildField_decides (catalog : Catalog) (typeName : String) (f : FieldDescriptor) :
    Decides (f.Backed catalog.Stores) (f.ResolvesTo catalog)
      (fun e => ∃ fault, e = .invalidShadow typeName f.name fault) (buildField catalog typeName f) :=
  (resolveColumn_decides catalog typeName f).result fun _ _ hcolumn =>
    ⟨rfl, rfl, rfl, rfl, rfl, hcolumn⟩

/-- The fields are resolved one by one, exactly if their names differ and all of them are backed. -/
theorem buildFields_decides (catalog : Catalog) (typeName : String) :
    ∀ (seen : List String) (fs : List FieldDescriptor),
      Decides (((fs.map (·.name)).Nodup ∧ ∀ f ∈ fs, f.name ∉ seen) ∧ ∀ f ∈ fs, f.Backed catalog.Stores)
        (List.Forall₂ (FieldDescriptor.ResolvesTo catalog) fs) (SchemaError catalog typeName fs)
        (buildFields catalog typeName seen fs)
  | _, [] => by simp [buildFields, Decides]
  | seen, f :: fs => by
    have hfirst : Decides (f.Backed catalog.Stores) (f.ResolvesTo catalog)
        (SchemaError catalog typeName (f :: fs)) (buildField catalog typeName f) := by
      cases hf : buildField catalog typeName f with
      | ok x => exact (buildField_decides catalog typeName f).ok hf
      | error e =>
        obtain ⟨hnot, hfault⟩ := (buildField_decides catalog typeName f).error hf
        exact ⟨hnot, .inr ⟨f, List.mem_cons_self, hnot, hfault⟩⟩
    have hrest := (buildFields_decides catalog typeName (f.name :: seen) fs).mono .rfl (fun _ => id)
      (fun e he => he.imp_right fun ⟨g, hg, hnot, hfault⟩ => ⟨g, List.mem_cons_of_mem f hg, hnot, hfault⟩ :
        ∀ e, SchemaError catalog typeName fs e → SchemaError catalog typeName (f :: fs) e)
    have hboth : Decides _ (List.Forall₂ (FieldDescriptor.ResolvesTo catalog) (f :: fs)) _ _ :=
      hfirst.bind fun x _ hx => hrest.result fun xs _ hxs => .cons hx hxs
    refine (Decides.guard (c := seen.contains f.name) (e := .invalidSchema typeName (.duplicateField f.name))
      (fun _ => .inl ⟨_, rfl⟩) fun _ => hboth).congr ?_
    simp only [List.contains_iff_mem, List.map_cons, List.nodup_cons, List.mem_map, List.mem_cons,
      forall_eq_or_imp, not_or, not_exists, not_and]
    constructor
    · rintro ⟨hseen, hbacked, ⟨hnodup, hfresh⟩, hall⟩
      exact ⟨⟨⟨fun g hg => (hfresh g hg).1, hnodup⟩, hseen, fun g hg => (hfresh g hg).2⟩, hbacked, hall⟩
    · rintro ⟨⟨⟨hapart, hnodup⟩, hseen, hfresh⟩, hbacked, hall⟩
      exact ⟨hseen, hbacked, ⟨hnodup, fun g hg => ⟨hapart g hg, hfresh g hg⟩⟩, hall⟩

/-! ### The generated field -/

/-- The rules of generated fields, as they are checked. -/
structure KeyRules (xs : List FieldSchema) (generators : List TableGenerator) : Prop where
  single : xs.countP (·.generated.isSome) ≤ 1
  key : ∀ x ∈ xs, x.generated.isSome → x.id ∧ xs.countP (·.id) = 1
  number : ∀ x ∈ xs, x.generated.isSome → x.type ∈ [FieldType.tinyInt, .smallInt, .integer, .bigInt]
  generator : ∀ x ∈ xs, ∀ g, x.generated = some g → g.strategy = .table →
    ∃ t ∈ generators, g.generator = some t.name

theorem isNumeric_iff (type : FieldType) :
    type.isNumeric ↔ type ∈ [FieldType.tinyInt, .smallInt, .integer, .bigInt] := by
  cases type <;> simp [FieldType.isNumeric]

theorem resolveTableGenerator_decides (typeName field : String) (g : GeneratedValue)
    (generators : List TableGenerator) :
    Decides (g.strategy = .table → ∃ t ∈ generators, g.generator = some t.name)
      (fun o => (o.isSome ↔ g.strategy = .table) ∧
        ∀ t, o = some t → t ∈ generators ∧ g.generator = some t.name)
      (fun e => ∃ fault, e = .invalidSchema typeName fault)
      (resolveTableGenerator typeName field g generators) := by
  unfold resolveTableGenerator
  by_cases htable : g.strategy = .table
  · rw [if_pos htable]
    cases hname : g.generator with
    | none => exact ⟨fun h => by simpa using h htable, _, rfl⟩
    | some name =>
      cases hfind : generators.find? fun t => t.name = name with
      | none =>
        simp only [hfind]
        refine ⟨fun h => ?_, _, rfl⟩
        obtain ⟨t, ht, heq⟩ := h htable
        have hother := List.find?_eq_none.1 hfind t ht
        exact hother (by simpa using (Option.some.inj heq).symm)
      | some t =>
        have ht : t ∈ generators := List.mem_of_find?_eq_some hfind
        have heq : t.name = name := by simpa using List.find?_some hfind
        simp only [hfind]
        refine ⟨fun _ => ⟨t, ht, by rw [heq]⟩, iff_of_true rfl htable, fun q hq => ?_⟩
        cases hq
        exact ⟨ht, by rw [heq]⟩
  · rw [if_neg htable]
    exact ⟨fun h => absurd h htable, iff_of_false nofun htable, nofun⟩

/-- There is a key generator exactly if a field is generated, and it is the only one and the whole key. -/
theorem chooseKeyGenerator_decides (typeName : String) (xs : List FieldSchema)
    (generators : List TableGenerator) :
    Decides (KeyRules xs generators)
      (fun o => (o = none ↔ ∀ x ∈ xs, x.generated = none) ∧
        ∀ k, o = some k → ∃ x ∈ xs, ∃ g, x.generated = some g ∧ k.Of x.name g generators)
      (fun e => ∃ fault, e = .invalidSchema typeName fault)
      (chooseKeyGenerator typeName xs generators) := by
  unfold chooseKeyGenerator
  cases hgenerated : xs.filter (·.generated.isSome) with
  | nil =>
    have hnone : ∀ x ∈ xs, x.generated = none := by
      simpa using List.filter_eq_nil_iff.1 hgenerated
    have hcount : xs.countP (·.generated.isSome) = 0 := by rw [List.countP_eq_length_filter, hgenerated]; rfl
    refine ⟨⟨by omega, fun x hx hsome => ?_, fun x hx hsome => ?_, fun x hx g hg => ?_⟩,
      iff_of_true rfl hnone, nofun⟩
    · rw [hnone x hx] at hsome
      cases hsome
    · rw [hnone x hx] at hsome
      cases hsome
    · rw [hnone x hx] at hg
      cases hg
  | cons x others =>
    obtain ⟨hx, hsome⟩ : x ∈ xs ∧ x.generated.isSome :=
      List.mem_filter.1 (hgenerated ▸ List.mem_cons_self)
    obtain ⟨g, hg⟩ := Option.isSome_iff_exists.1 hsome
    have hcount : xs.countP (·.generated.isSome) = others.length + 1 := by
      rw [List.countP_eq_length_filter, hgenerated]
      rfl
    have hone : others = [] → ∀ y ∈ xs, y.generated.isSome → y = x := by
      rintro rfl y hy hgen
      exact List.mem_singleton.1 (hgenerated ▸ List.mem_filter.2 ⟨hy, hgen⟩)
    have hsome' : ∀ table, some (⟨x.name, g.strategy, table⟩ : KeyGenerator) = none ↔
        ∀ y ∈ xs, y.generated = none :=
      fun table => iff_of_false nofun fun hnone => by simp [hnone x hx] at hsome
    simp only [hg]
    refine (Decides.guard (fun _ => ⟨_, rfl⟩) fun _ => .guard (fun _ => ⟨_, rfl⟩) fun _ =>
      .guard (fun _ => ⟨_, rfl⟩) fun _ =>
        (resolveTableGenerator_decides typeName x.name g generators).result fun table _ htable =>
          ⟨hsome' table, fun k hk => ?found⟩).congr ?rules
    case found =>
      cases hk
      exact ⟨x, hx, g, hg, rfl, rfl, htable.1, htable.2⟩
    case rules =>
      have hothers : ¬(!others.isEmpty) = true ↔ others = [] := by simp
      have hkey : ¬(!x.id || xs.countP (·.id) != 1) = true ↔ x.id ∧ xs.countP (·.id) = 1 := by simp
      have hnumber : ¬(!x.type.isNumeric) = true ↔
          x.type ∈ [FieldType.tinyInt, .smallInt, .integer, .bigInt] := by
        rw [← isNumeric_iff]
        simp
      rw [hothers, hkey, hnumber]
      constructor
      · rintro ⟨hothers, hkey, hnumber, hgenerator⟩
        refine ⟨?_, fun y hy hgen => ?_, fun y hy hgen => ?_, fun y hy v hv htable => ?_⟩
        · rw [hcount, hothers]
          exact Nat.le_refl 1
        · rw [hone hothers y hy hgen]
          exact hkey
        · rw [hone hothers y hy hgen]
          exact hnumber
        · rw [hone hothers y hy (by rw [hv]; rfl), hg] at hv
          cases hv
          exact hgenerator htable
      · intro h
        have hsingle := h.single
        rw [hcount] at hsingle
        exact ⟨List.length_eq_zero_iff.1 (by omega), h.key x hx hsome, h.number x hx hsome,
          h.generator x hx g hg⟩

/-! ### Indexes -/

theorem unknownName?_eq_none_iff {xs : List FieldSchema} {names : List String} :
    unknownName? xs names = none ↔ ∀ n ∈ names, n ∈ xs.map (·.name) := by
  simp [unknownName?]

/-- Indexes are accepted exactly if all their fields exist. -/
theorem checkIndexes_decides (typeName : String) (xs : List FieldSchema) (d : Descriptor) :
    Decides ((∀ i ∈ d.indexes, ∀ n ∈ i.fields, n ∈ xs.map (·.name)) ∧
        ∀ i ∈ d.fullText, ∀ n ∈ i.fields, n ∈ xs.map (·.name))
      (fun _ => True) (fun e => ∃ fault, e = .invalidSchema typeName fault)
      (checkIndexes typeName xs d) := by
  have hindexes : unknownName? xs (d.indexes.flatMap (·.fields)) = none ↔
      ∀ i ∈ d.indexes, ∀ n ∈ i.fields, n ∈ xs.map (·.name) := by
    rw [unknownName?_eq_none_iff, List.forall_mem_flatMap]
  have hfullText : unknownName? xs (d.fullText.flatMap (·.fields)) = none ↔
      ∀ i ∈ d.fullText, ∀ n ∈ i.fields, n ∈ xs.map (·.name) := by
    rw [unknownName?_eq_none_iff, List.forall_mem_flatMap]
  rw [← hindexes, ← hfullText]
  unfold checkIndexes
  cases unknownName? xs (d.indexes.flatMap (·.fields)) with
  | some n => exact ⟨fun h => (nomatch h.1), _, rfl⟩
  | none =>
    cases unknownName? xs (d.fullText.flatMap (·.fields)) with
    | some n => exact ⟨fun h => (nomatch h.2), _, rfl⟩
    | none => exact ⟨⟨rfl, rfl⟩, trivial⟩

/-! ### Schemas -/

section Resolved

variable {fs : List FieldDescriptor} {xs : List FieldSchema}
  (hxs : List.Forall₂ (FieldDescriptor.ResolvesTo catalog) fs xs)

include hxs

/-- What is the same for each field and what it is resolved to is the same for all of them, in order. -/
theorem resolved_map {α : Type} {p : FieldDescriptor → α} {q : FieldSchema → α}
    (h : ∀ f x, f.ResolvesTo catalog x → q x = p f) : xs.map q = fs.map p := by
  induction hxs with
  | nil => rfl
  | cons hx _ ih => rw [List.map_cons, List.map_cons, h _ _ hx, ih]

theorem resolved_countP {p : FieldDescriptor → Bool} {q : FieldSchema → Bool}
    (h : ∀ f x, f.ResolvesTo catalog x → q x = p f) : xs.countP q = fs.countP p := by
  have hmap := congrArg (List.countP id) (resolved_map hxs h)
  rwa [List.countP_map, List.countP_map] at hmap

theorem resolved_forall {p : FieldDescriptor → Prop} {q : FieldSchema → Prop}
    (h : ∀ f x, f.ResolvesTo catalog x → (q x ↔ p f)) : (∀ x ∈ xs, q x) ↔ ∀ f ∈ fs, p f := by
  induction hxs with
  | nil => simp
  | cons hx _ ih => rw [List.forall_mem_cons, List.forall_mem_cons, h _ _ hx, ih]

/-- The rules of generated fields are those of the descriptors. -/
theorem keyRules_iff (generators : List TableGenerator) :
    KeyRules xs generators ↔ fs.countP (·.generated.isSome) ≤ 1 ∧
      (∀ f ∈ fs, f.generated.isSome → f.id ∧ fs.countP (·.id) = 1) ∧
      (∀ f ∈ fs, f.generated.isSome → f.type ∈ [FieldType.tinyInt, .smallInt, .integer, .bigInt]) ∧
      ∀ f ∈ fs, ∀ g, f.generated = some g → g.strategy = .table →
        ∃ t ∈ generators, g.generator = some t.name := by
  have hgenerated : xs.countP (·.generated.isSome) = fs.countP (·.generated.isSome) :=
    resolved_countP hxs fun f x hx => by rw [hx.generated]
  have hids : xs.countP (·.id) = fs.countP (·.id) := resolved_countP hxs fun f x hx => hx.id
  rw [← resolved_forall hxs (q := fun x => x.generated.isSome → x.id ∧ xs.countP (·.id) = 1)
      fun f x hx => by rw [hx.generated, hx.id, hids],
    ← resolved_forall hxs
      (q := fun x => x.generated.isSome → x.type ∈ [FieldType.tinyInt, .smallInt, .integer, .bigInt])
      fun f x hx => by rw [hx.generated, hx.type],
    ← resolved_forall hxs
      (q := fun x => ∀ g, x.generated = some g → g.strategy = .table →
        ∃ t ∈ generators, g.generator = some t.name)
      fun f x hx => by rw [hx.generated], ← hgenerated]
  exact ⟨fun h => ⟨h.single, h.key, h.number, h.generator⟩, fun h => ⟨h.1, h.2.1, h.2.2.1, h.2.2.2⟩⟩

end Resolved

/-- A schema is built exactly of valid descriptors, and it is what the descriptor is resolved to. -/
theorem ofDescriptor_decides (catalog : Catalog) (record : RecordType) (d : Descriptor) :
    Decides (d.Valid catalog record) (d.ResolvesTo catalog record)
      (SchemaError catalog d.typeName d.fields) (RecordSchema.ofDescriptor catalog record d) := by
  have hinvalid : ∀ e, (∃ fault, e = Error.invalidSchema d.typeName fault) →
      SchemaError catalog d.typeName d.fields e := fun _ => .inl
  have hindexes : ∀ xs, List.Forall₂ (FieldDescriptor.ResolvesTo catalog) d.fields xs →
      Decides ((∀ i ∈ d.indexes, ∀ n ∈ i.fields, n ∈ d.fields.map (·.name)) ∧
          ∀ i ∈ d.fullText, ∀ n ∈ i.fields, n ∈ d.fields.map (·.name))
        (fun _ => True) (SchemaError catalog d.typeName d.fields) (checkIndexes d.typeName xs d) := by
    intro xs hxs
    refine (checkIndexes_decides d.typeName xs d).mono ?_ (fun _ => id) hinvalid
    rw [resolved_map hxs (p := (·.name)) fun f x hx => hx.name]
  refine ((checkShadow_decides catalog record d).bind fun _ _ _ =>
    (buildFields_decides catalog d.typeName [] d.fields).bind fun xs _ hxs =>
      ((chooseKeyGenerator_decides d.typeName xs d.generators).mono (keyRules_iff hxs d.generators)
          (fun _ => id) hinvalid).bind fun k _ hk =>
        (hindexes xs hxs).result fun _ _ _ => ?resolved).congr ?rules
  case resolved =>
    refine ⟨rfl, rfl, rfl, rfl, hxs, ?_, fun k' hk' => ?_, rfl, rfl, rfl, rfl⟩
    · rw [← resolved_forall hxs (q := fun x => x.generated = none) fun f x hx => by rw [hx.generated]]
      exact hk.1
    · obtain ⟨x, hx, g, hg, hof⟩ := hk.2 k' hk'
      obtain ⟨f, hf, hfx⟩ := exists_of_forall₂ hxs x hx
      exact ⟨f, hf, g, hfx.generated ▸ hg, hfx.name ▸ hof⟩
  case rules =>
    constructor
    · rintro ⟨hshadow, ⟨⟨hnames, -⟩, hbacked⟩, ⟨hsingle, hkey, hnumber, hgenerator⟩, hindexes, hfullText⟩
      exact ⟨hshadow, hnames, hbacked, hsingle, hkey, hnumber, hgenerator, hindexes, hfullText⟩
    · intro h
      exact ⟨h.shadow, ⟨⟨h.names, fun _ _ => List.not_mem_nil⟩, h.backed⟩,
        ⟨h.single, h.key, h.number, h.generator⟩, h.indexes, h.fullText⟩

/-- Where a field without a column name of its own shadows a record that has a schema, its column has the
name that is resolved for the shadowed field there. -/
def FieldDescriptor.SharesColumn (catalog : Catalog) (f : FieldDescriptor) (x : FieldSchema) : Prop :=
  f.column.name = none → ∀ t st, f.shadowOf = some t → RecordSchema.build catalog t = .ok st →
    ∃ y ∈ st.storedFields, y.name = f.name ∧ x.columnName = y.columnName

/-- A stored field has the column name that it declares, or else its own name. -/
theorem FieldDescriptor.ResolvesTo.stored {f : FieldDescriptor} {x : FieldSchema}
    (h : f.ResolvesTo catalog x) (hstored : f.computed = none) :
    x.isComputed = false ∧ x.columnName = f.column.name.getD f.name := by
  refine ⟨by simp [FieldSchema.isComputed, h.computed, hstored], ?_⟩
  cases hn : f.column.name with
  | some n => exact h.column.explicit n hn
  | none => exact h.column.own hn (by rw [FieldDescriptor.shadowOf, hstored]; rfl)

/-- What a field is resolved to shares its column with the shadowed field. -/
theorem FieldDescriptor.ResolvesTo.sharesColumn {f : FieldDescriptor} {x : FieldSchema}
    (h : f.ResolvesTo catalog x) : f.SharesColumn catalog x := by
  intro hunnamed t st ht hst
  obtain ⟨target, htarget, hstored, hname⟩ := h.column.shadowed hunnamed t ht
  have resolved := ((ofDescriptor_decides catalog t (catalog.descriptor t)).ok hst).2
  obtain ⟨y, hy, hfy⟩ :=
    exists_of_forall₂ resolved.fields.flip target (List.mem_of_find?_eq_some htarget)
  obtain ⟨hcomputed, hcolumn⟩ := hfy.stored hstored
  refine ⟨y, List.mem_filter.2 ⟨hy, by simp [hcomputed]⟩, ?_, by rw [hname, hcolumn]⟩
  rw [hfy.name]
  simpa using List.find?_some htarget

/-- There is a table exactly if the record is concrete. -/
theorem Descriptor.ResolvesTo.table_iff {s : RecordSchema} (h : d.ResolvesTo catalog record s) :
    s.table.isSome ↔ s.computed = none := by
  rw [h.table, h.computed]
  cases d.computed <;> simp

/-- A schema is built exactly of a valid descriptor. Its fields keep the order and all else that is
declared; it has a table exactly if the record is concrete; its key generator is that of the generated field;
and a column has the name that is declared, or else the one that is resolved for the shadowed field, or else
that of its field. A descriptor that is not valid fails as an invalid schema, or as an invalid shadow for a
field that is not backed. -/
theorem ofDescriptor_iff_valid (catalog : Catalog) (record : RecordType) (d : Descriptor) :
    ((∃ s, RecordSchema.ofDescriptor catalog record d = .ok s) ↔ d.Valid catalog record) ∧
    (∀ s, RecordSchema.ofDescriptor catalog record d = .ok s →
      d.ResolvesTo catalog record s ∧ (s.table.isSome ↔ d.computed = none) ∧
      List.Forall₂ (FieldDescriptor.SharesColumn catalog) d.fields s.fields) ∧
    ∀ e, RecordSchema.ofDescriptor catalog record d = .error e →
      ¬d.Valid catalog record ∧ SchemaError catalog d.typeName d.fields e := by
  have decided := ofDescriptor_decides catalog record d
  refine ⟨decided.exists_iff, fun s hs => ?_, fun e he => decided.error he⟩
  have resolved := (decided.ok hs).2
  exact ⟨resolved, resolved.computed ▸ resolved.table_iff,
    resolved.fields.imp fun _ _ => FieldDescriptor.ResolvesTo.sharesColumn⟩

/-- A concrete record lists a stored field of some name, whatever other fields of the name it lists. -/
def Catalog.Lists (catalog : Catalog) (t : RecordType) (name : String) : Prop :=
  (catalog.descriptor t).computed = none ∧
    ∃ target ∈ (catalog.descriptor t).fields, target.name = name ∧ target.computed = none

/-- Sales of books. -/
def sale : RecordType := ⟨"Sale"⟩

/-- Books that list a computed title in front of a stored one, and sales with the title of their book. -/
def reprints : Catalog where
  declared :=
    [(book,
        { typeName := "Book", table := some "books",
          fields := [numberDescriptor "title" false (some {}), numberDescriptor "title" false none] }),
      (sale,
        { typeName := "Sale", table := some "sales",
          fields := [numberDescriptor "title" false (some { shadowOf := some book })] })]

/-- A stored field is not found behind a computed one of its name, though all rules are met when the rule of
shadowing fields only asks for some stored field of the name. -/
theorem secondTitle_unbacked :
    (reprints.descriptor sale).Meets reprints reprints.Lists sale ∧
      RecordSchema.ofDescriptor reprints sale (reprints.descriptor sale) =
        .error (.invalidShadow "Sale" "title" (.computedField book "title")) := by
  refine ⟨⟨nofun, by decide, ?backed, by decide, by decide, by decide, ?generator, by decide, by decide⟩, rfl⟩
  case backed =>
    rintro f hf t ht
    obtain rfl := List.mem_singleton.1 hf
    cases ht
    exact ⟨rfl, numberDescriptor "title" false none, by decide, rfl, rfl⟩
  case generator =>
    rintro f hf g hg
    obtain rfl := List.mem_singleton.1 hf
    cases hg

end RecordSql
