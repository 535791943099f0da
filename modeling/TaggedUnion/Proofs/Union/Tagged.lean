import Mathlib.Algebra.GroupWithZero.Nat
import TaggedUnion.Proofs.Program.Characters
import TaggedUnion.Proofs.Union.Positions

/-!
# Which declarations are tagged unions

A declaration of a loaded program is a tagged union iff it is written out as a struct and one of the fields, and only
one, is a tag that holds a string, and another field has a name (`union_eq_ok_iff`). The fields of the struct are
those that the groups of the declaration declare, one by one: each name of a group and each embedded type is a field,
with the tag of its group and with the type expression of its group (`Subject.Writes`).
-/

namespace TaggedUnion

open Source TaggedUnion.Types Syntax Program

/-! ## Fields of groups -/

section Groups

variable {home : String} {groups : List (GroupHead × Expr)} {fields : List (FieldHead × Ty)}

theorem exprs_declaredGroup {g : GroupHead × Expr} (h : g.1.names = [] → (embeddedIdent? g.2).isSome) :
    (declaredGroup home g).map (·.2) = List.replicate (max g.1.names.length 1) g.2 := by
  rw [declaredGroup]
  cases hnames : g.1.names with
  | nil =>
    obtain ⟨id, hid⟩ := Option.isSome_iff_exists.1 (h hnames)
    simp [hid]
  | cons first rest => exact List.eq_replicate_iff.2 ⟨by simp, by simp⟩

/-- Each field that groups declare has the type expression of its group. -/
theorem exprs_declaredFields (h : ∀ g ∈ groups, g.1.names = [] → (embeddedIdent? g.2).isSome) :
    (declaredFields home groups).map (·.2) =
      groups.flatMap fun g => List.replicate (max g.1.names.length 1) g.2 := by
  rw [declaredFields, List.map_flatMap]
  exact List.flatMap_congr fun g hg => exprs_declaredGroup (h g hg)

/-- The fields of a struct that has the fields of groups, side by side with the type expressions of the groups, are
the fields of the struct, and the fields that the groups declare. -/
theorem map_writtenFields (h : ∀ g ∈ groups, g.1.names = [] → (embeddedIdent? g.2).isSome)
    (hfields : fields.map (·.1) = (declaredFields home groups).map (·.1)) :
    (writtenFields groups fields).map (fun f => (f.head, f.type)) = fields ∧
      (writtenFields groups fields).map (fun f => (f.head, f.expr)) = declaredFields home groups := by
  have hlength : fields.length = ((declaredFields home groups).map (·.2)).length := by
    simpa using congrArg List.length hfields
  rw [writtenFields, ← exprs_declaredFields h, List.map_map, List.map_map]
  constructor
  · exact List.map_fst_zip hlength.le
  · calc (fields.zip ((declaredFields home groups).map (·.2))).map (fun e => (e.1.1, e.2))
        = (fields.map (·.1)).zip ((declaredFields home groups).map (·.2)) := by
          rw [List.zip_map_left]
          rfl
      _ = declaredFields home groups := by
          rw [hfields, List.zip_map']
          exact List.map_id _

end Groups

/-! ## Fields of a union -/

/-- Fields make up a tagged union: exactly one of them is a tag, it holds a string, and among the others there is one
with a name. The variants are the others that have names, in order. -/
def MakesUnion (table : TypeTable) (spec : TypeSpec) (fields : List WrittenField) (u : Union) : Prop :=
  ∃ before tag after, fields = before ++ tag :: after ∧ tag.isTag = true ∧ tag.type.isString table = true ∧
    (∀ f ∈ before ++ after, f.isTag = false) ∧ (∃ f ∈ before ++ after, f.isBlank = false) ∧
    u = { name := spec.name.name
          pos := spec.name.pos
          params := spec.params
          tag := tag.head
          variants := ((before ++ after).filter fun f => !f.isBlank).map fun f =>
            .ofField table (f.head, f.type) f.expr }

section Fields

variable {table : TypeTable} {spec : TypeSpec} {o : Object} {fields : List WrittenField} {u : Union}

theorem filter_eq_singleton_iff {α : Type} {p : α → Bool} {as : List α} {a : α} :
    as.filter p = [a] ↔ ∃ before after, as = before ++ a :: after ∧ p a = true ∧ ∀ b ∈ before ++ after, p b = false := by
  simp only [List.filter_eq_cons_iff, List.filter_eq_nil_iff, List.forall_mem_append, Bool.not_eq_true]
  tauto

theorem variantsOf_eq {before after : List WrittenField} {tag : WrittenField} (htag : tag.isTag = true)
    (hothers : ∀ f ∈ before ++ after, f.isTag = false) :
    variantsOf table (before ++ tag :: after) =
      ((before ++ after).filter fun f => !f.isBlank).map fun f => .ofField table (f.head, f.type) f.expr := by
  have hfilter : (before ++ tag :: after).filter (fun f => !f.isTag && !f.isBlank) =
      (before ++ after).filter fun f => !f.isBlank := by
    rw [List.filter_append, List.filter_cons_of_neg (by simp [htag]), ← List.filter_append]
    exact List.filter_congr fun f hf => by rw [hothers f hf, Bool.not_false, Bool.true_and]
  rw [variantsOf, hfilter]

theorem unionOf_of_findTag {tag : FieldHead} (h : findTag table spec.name.name none fields = .ok (some tag)) :
    unionOf table spec o fields =
      if (variantsOf table fields).isEmpty then .error ⟨.noVariants spec.name.name, spec.type.pos, spec.type.stop⟩
      else .ok ⟨spec.name.name, o.pos, spec.params, tag, variantsOf table fields⟩ := by
  rw [unionOf, h]
  rfl

theorem isEmpty_variantsOf {before after : List WrittenField} {tag : WrittenField} (htag : tag.isTag = true)
    (hothers : ∀ f ∈ before ++ after, f.isTag = false) :
    (variantsOf table (before ++ tag :: after)).isEmpty = false ↔ ∃ f ∈ before ++ after, f.isBlank = false := by
  rw [variantsOf_eq htag hothers, List.isEmpty_map, List.isEmpty_eq_false_iff, ne_eq, List.filter_eq_nil_iff]
  simp

/-- The fields of a declared struct make up a tagged union, or there is none. -/
theorem unionOf_eq_ok_iff (ho : o.pos = spec.name.pos) :
    unionOf table spec o fields = .ok u ↔ MakesUnion table spec fields u := by
  constructor
  · intro h
    obtain ⟨-, ⟨f, hf, hstring, -⟩, -⟩ := unionOf_eq_ok h
    rw [unionOf_of_findTag (findTag_none_eq_ok_iff.2 (.inr ⟨f, hf, hstring, rfl⟩))] at h
    obtain ⟨before, after, rfl, htag, hothers⟩ := filter_eq_singleton_iff.1 hf
    split at h
    · cases h
    next hsome =>
      cases h
      refine ⟨before, f, after, rfl, htag, hstring, hothers, ?_, by rw [variantsOf_eq htag hothers, ho]⟩
      exact (isEmpty_variantsOf htag hothers).1 (Bool.eq_false_iff.2 hsome)
  · rintro ⟨before, f, after, rfl, htag, hstring, hothers, hnamed, rfl⟩
    have hf := filter_eq_singleton_iff.2 ⟨before, after, rfl, htag, hothers⟩
    rw [unionOf_of_findTag (findTag_none_eq_ok_iff.2 (.inr ⟨f, hf, hstring, rfl⟩)),
      (isEmpty_variantsOf htag hothers).2 hnamed, if_neg Bool.false_ne_true, variantsOf_eq htag hothers, ho]

theorem kind_of_findTag_eq_error {union : String} {found : Option FieldHead} {x : Finding}
    (h : findTag table union found fields = .error x) : x.fault.kind = .notUnion := by
  induction fields generalizing found with
  | nil => cases h
  | cons f rest ih =>
    unfold findTag at h
    split at h
    · split at h
      · cases h
        rfl
      · split at h
        · exact ih h
        · cases h
          rfl
    · exact ih h

theorem kind_of_unionOf_eq_error {x : Finding} (h : unionOf table spec o fields = .error x) :
    x.fault.kind = .notUnion := by
  rw [unionOf] at h
  cases htag : findTag table spec.name.name none fields with
  | error y =>
    rw [htag] at h
    cases h
    exact kind_of_findTag_eq_error htag
  | ok tag =>
    rw [htag] at h
    simp only [bind, Except.bind] at h
    split at h
    · cases h
      rfl
    · split at h
      · cases h
        rfl
      · cases h

end Fields

/-! ## Declarations -/

section Declarations

variable {s : Subject} {spec : TypeSpec} {u : Union}

/-- What keeps a declaration from being a tagged union is always of one sort. -/
theorem kind_of_union_eq_error {x : Finding} (h : s.union spec = .error x) : x.fault.kind = .notUnion := by
  rw [Subject.union] at h
  split at h
  · cases h
    rfl
  · split at h
    · cases h
      rfl
    · split at h
      · exact kind_of_unionOf_eq_error h
      · cases h
        rfl

/-- A declaration that has an object is a tagged union if it is no alias, is written out as a struct, and the fields
make up a tagged union. -/
theorem union_eq_ok_iff_of_definition? {o : Object} (ho : s.definition? spec.name.pos = some o) :
    s.union spec = .ok u ↔ spec.isAlias = false ∧
      (∃ pos lbrace groups rbrace, spec.type = .struct pos lbrace groups rbrace) ∧
      MakesUnion s.info.table spec (s.fieldsOf spec) u := by
  have hpos : o.pos = spec.name.pos := by simpa using List.find?_some ho
  rw [Subject.union]
  cases halias : spec.isAlias with
  | true => simp
  | false =>
    by_cases hstruct : ∃ pos lbrace groups rbrace, spec.type = .struct pos lbrace groups rbrace
    · obtain ⟨pos, lbrace, groups, rbrace, htype⟩ := hstruct
      have hfields : s.fieldsOf spec = writtenFields groups ((o.type.struct? s.info.table).getD []) := by
        rw [Subject.fieldsOf, ho, htype]
      simp only [ho, htype, hfields, Bool.false_eq_true, if_false, true_and]
      rw [unionOf_eq_ok_iff hpos]
      exact ⟨fun h => ⟨⟨_, _, _, _, rfl⟩, h⟩, fun h => h.2⟩
    · simp only [ho, hstruct, Bool.false_eq_true, if_false, false_and, and_false, iff_false]
      intro h
      split at h
      next htype => exact hstruct ⟨_, _, _, _, htype⟩
      next => cases h

/-- The struct of a declaration has the fields that its groups declare: one for each name and for each embedded type,
with the tag and the type expression of its own group. -/
theorem exists_fields {program : Program} {p : Package} (h : program.Spelled) (hp : p ∈ program.packages) {f : File}
    (hf : f ∈ p.files) {doc : Option (List Comment)} {specs : List TypeSpec} (hspecs : .types doc specs ∈ f.decls)
    (hspec : spec ∈ specs) (halias : spec.isAlias = false) {pos lbrace rbrace : Pos}
    {groups : List (GroupHead × Expr)} (htype : spec.type = .struct pos lbrace groups rbrace) {o : Object}
    (ho : (Subject.ofPackage program p).definition? spec.name.pos = some o) :
    ∃ home fields, o.type.struct? program.table = some fields ∧
      fields.length = (groups.map fun g => max g.1.names.length 1).sum ∧
      ((Subject.ofPackage program p).fieldsOf spec).map (fun f => (f.head, f.type)) = fields ∧
      ((Subject.ofPackage program p).fieldsOf spec).map (fun f => (f.head, f.expr)) = declaredFields home groups := by
  have hopos : o.pos = spec.name.pos := by simpa using List.find?_some ho
  obtain ⟨⟨name, generics, hnamed, hname, entry, hentry, hentryName⟩, hentries⟩ :=
    h.defines p hp f hf doc specs hspecs spec hspec halias o (List.mem_of_find?_eq_some ho) hopos
  -- The table finds an entry for the type, and any such entry is what is written.
  obtain ⟨found, hfound⟩ : ∃ found, program.table.find? name = some found := by
    refine Option.isSome_iff_exists.1 (List.find?_isSome.2 ⟨entry, hentry, ?_⟩)
    simpa using hentryName
  have hfoundName : found.name = name := by simpa using List.find?_some hfound
  have hspells := hentries found (List.mem_of_find?_eq_some hfound) (hfoundName ▸ hname)
  rw [htype] at hspells
  obtain ⟨home, fields, hstruct, hheads⟩ := @exists_struct? _ _ generics _ _ _ _ _ hfound hspells
  have hembedded : ∀ g ∈ groups, g.1.names = [] → (embeddedIdent? g.2).isSome := fun g hg hnil => by
    obtain ⟨info, -, hfile⟩ := h.placed.exists_fileAt hp hf
    obtain ⟨id, hid, -⟩ := ((((hfile.decls _ hspecs).2 spec hspec).type.fields _ _ _ _ htype g hg).embedded hnil).embedded
    rw [hid, Option.isSome_some]
  have hfields : (Subject.ofPackage program p).fieldsOf spec = writtenFields groups fields := by
    rw [Subject.fieldsOf, ho, htype]
    change writtenFields groups ((o.type.struct? program.table).getD []) = _
    rw [hnamed, hstruct, Option.getD_some]
  obtain ⟨hfst, hsnd⟩ := map_writtenFields hembedded hheads
  refine ⟨home, fields, hnamed ▸ hstruct, ?_, hfields ▸ hfst, hfields ▸ hsnd⟩
  have hexprs := congrArg List.length (@exprs_declaredFields home groups hembedded)
  rw [List.length_map, List.length_flatMap] at hexprs
  simpa [hexprs] using congrArg List.length hheads

/-- A type declaration of a loaded package has an object, and it is a tagged union iff it is no alias, its type is
written out as a struct, and the fields make up a union: one field is a tag, no other one is, it holds a string, and
there is another one with a name. Then these are the tag and, in order, the variants. The fields are those of the
struct that the type stands for, as many as the groups of the declaration declare, and each stands with the name, the
tag and the type expression of its own group. Whatever else a declaration may be, it is rejected for not being a
union. -/
theorem union_eq_ok_iff {sources : List (String × List (String × String))} {program : Program} {p : Package}
    (hload : ({} : Program).loadAll? sources = some program) (hp : p ∈ program.packages) {f : File} (hf : f ∈ p.files)
    {doc : Option (List Comment)} {specs : List TypeSpec} (hspecs : .types doc specs ∈ f.decls)
    (hspec : spec ∈ specs) :
    let s := Subject.ofPackage program p
    ∃ o, s.definition? spec.name.pos = some o ∧
      (∀ pos lbrace groups rbrace, spec.isAlias = false → spec.type = .struct pos lbrace groups rbrace →
        ∃ home fields, o.type.struct? program.table = some fields ∧
          fields.length = (groups.map fun g => max g.1.names.length 1).sum ∧
          (s.fieldsOf spec).map (fun f => (f.head, f.type)) = fields ∧
          (s.fieldsOf spec).map (fun f => (f.head, f.expr)) = declaredFields home groups) ∧
      (∀ u, s.union spec = .ok u ↔ spec.isAlias = false ∧
        (∃ pos lbrace groups rbrace, spec.type = .struct pos lbrace groups rbrace) ∧
        MakesUnion program.table spec (s.fieldsOf spec) u) ∧
      ∀ x, s.union spec = .error x → x.fault.kind = .notUnion := by
  intro s
  have hspelled := spelled_of_loadAll? hload
  obtain ⟨o', ho', hpos⟩ := hspelled.declares p hp f hf doc specs hspecs spec hspec
  obtain ⟨o, ho⟩ : ∃ o, s.definition? spec.name.pos = some o :=
    Option.isSome_iff_exists.1 (List.find?_isSome.2 ⟨o', ho', by simpa using hpos⟩)
  refine ⟨o, ho, fun pos lbrace groups rbrace halias htype => ?_, fun u => union_eq_ok_iff_of_definition? ho,
    fun x => kind_of_union_eq_error⟩
  exact exists_fields hspelled hp hf hspecs hspec halias htype ho

end Declarations

/-- The types that a declaration declares. -/
def declaredTypes : Decl → List TypeSpec
  | .types _ specs => specs
  | _ => []

/-- A union with a group of two names, a blank field, an embedded type and the tag in the middle. -/
theorem mixedFields_make_union :
    let sources := [("p", [("p.go", "package p\n\ntype Mixed struct \x7b\n\tA, B int `enumorph:\"ignore\"`\n\t_ bool\n" ++
      "\tKind string `enumorph:\"tag\"`\n\tpart\n\x7d\n\ntype part struct \x7b\x7d\n")])]
    ∃ program p spec u, ({} : Program).loadAll? sources = some program ∧ p ∈ program.packages ∧
      (Subject.ofPackage program p).union spec = .ok u ∧
      MakesUnion program.table spec ((Subject.ofPackage program p).fieldsOf spec) u ∧
      u.tag.name = "Kind" ∧ u.variants.map (fun v => (v.name, v.isSkipped)) = [("A", true), ("B", true), ("part", false)] := by
  intro sources
  let shown (u : Union) := (u.tag.name, u.variants.map fun v => (v.name, v.isSkipped))
  have hshown : (({} : Program).loadAll? sources).map (fun program => program.packages.flatMap fun p =>
      p.files.flatMap fun f => f.decls.flatMap fun d =>
        (declaredTypes d).map fun spec => ((Subject.ofPackage program p).union spec).toOption.map shown) =
      some [some ("Kind", [("A", true), ("B", true), ("part", false)]), none] := by
    rw [loadAll?_cons, String.toList_append, String.toList_ofList, String.toList_ofList]
    decide +kernel
  obtain ⟨program, hload, hprogram⟩ := Option.map_eq_some_iff.1 hshown
  obtain ⟨p, hp, hmem⟩ := List.mem_flatMap.1 (hprogram ▸ List.mem_cons_self)
  obtain ⟨f, hf, hmem⟩ := List.mem_flatMap.1 hmem
  obtain ⟨d, hd, hmem⟩ := List.mem_flatMap.1 hmem
  cases d with
  | types doc specs =>
    obtain ⟨spec, hspec, hunion⟩ := List.mem_map.1 hmem
    obtain ⟨u, hu, heq⟩ := Option.map_eq_some_iff.1 hunion
    obtain ⟨htag, hvariants⟩ := Prod.mk.inj heq
    have hok : (Subject.ofPackage program p).union spec = .ok u := by
      cases hres : (Subject.ofPackage program p).union spec with
      | error x => rw [hres] at hu; cases hu
      | ok v => rw [hres] at hu; cases hu; rfl
    obtain ⟨o, -, -, hiff, -⟩ := union_eq_ok_iff hload hp hf hd hspec
    exact ⟨program, p, spec, u, hload, hp, hok, ((hiff u).1 hok).2.2, htag, hvariants⟩
  | _ => cases hmem

end TaggedUnion
