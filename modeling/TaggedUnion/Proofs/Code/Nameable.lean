import TaggedUnion.Proofs.Code.Spelled
import TaggedUnion.Proofs.Program.Characters

/-!
# Names that code can refer to

A blank identifier names nothing, and a field of another package can be named only if it is exported.
Blank fields are left out of the variants, so the variant of a conversion always has a name. All other
names that its code refers to are taken as they are declared: the type, its type parameters, the tag
field, and the only field of a struct that is written out as the type of the variant. So the code of
a conversion names what can be named iff its declaration does (`nameable_iff`), and where the tag or
the accessor is blank, its wrap function has no meaning (`isSome_run_wrap_iff`).
-/

namespace TaggedUnion

open Source TaggedUnion.Types Syntax Program Code Text

/-- The only field of a struct that is written out as a type. -/
def payloadField? (table : TypeTable) (t : Ty) : Option FieldHead :=
  if t.isNamed then none
  else match t.struct? table with
    | some [(head, _)] => some head
    | _ => none

/-- What the code of a conversion for the package at a path refers to can be named; its payload is the
given field of the variant, if it is one. -/
structure Nameable (home : String) (u : Union) (c : Conversion) (payload : Option FieldHead) : Prop where
  union : u.name ≠ "_"
  tag : u.tag.name ≠ "_"
  typeArguments : "_" ∉ u.typeArguments
  variant : c.variant ≠ "_"
  accessor : c.accessor ≠ .field "_"
  exported : ∀ head, payload = some head → head.home ≠ home → isExported head.name = true

instance (home : String) (u : Union) (c : Conversion) (payload : Option FieldHead) :
    Decidable (Nameable home u c payload) :=
  decidable_of_iff
    (u.name ≠ "_" ∧ u.tag.name ≠ "_" ∧ "_" ∉ u.typeArguments ∧ c.variant ≠ "_" ∧ c.accessor ≠ .field "_" ∧
      ∀ head ∈ payload, head.home ≠ home → isExported head.name = true)
    ⟨fun ⟨h₁, h₂, h₃, h₄, h₅, h₆⟩ => ⟨h₁, h₂, h₃, h₄, h₅, h₆⟩,
      fun ⟨h₁, h₂, h₃, h₄, h₅, h₆⟩ => ⟨h₁, h₂, h₃, h₄, h₅, h₆⟩⟩

/-- A declaration names its type, its type parameters, its tag field and the payload of a variant, which
another package does not keep to itself. -/
structure Subject.Names (s : Subject) (spec : TypeSpec) (payload : Option FieldHead) : Prop where
  type : spec.name.name ≠ "_"
  params : ∀ g ∈ spec.params, ∀ id ∈ g.1.names, id.name ≠ "_"
  tag : ∀ f ∈ s.fieldsOf spec, f.isTag = true → f.head.name ≠ "_"
  payload : ∀ head, payload = some head →
    head.name ≠ "_" ∧ (head.home = s.path ∨ isExported head.name = true)

/-- The accessor of a payload is the name of the field that it is, if it is one. -/
theorem accessor_of_ofType {table : TypeTable} {t payload : Ty} {accessor : Accessor}
    (h : Shape.ofType table t = .single accessor payload) :
    accessor = ((payloadField? table t).map fun head => Accessor.of head.name 0).getD (.whole 0) := by
  rw [Shape.ofType] at h
  rw [payloadField?]
  split at h
  · rename_i hnamed
    rw [if_pos hnamed]
    exact (Shape.single.inj h).1.symm
  · rename_i hnamed
    rw [if_neg hnamed]
    split at h
    · rename_i hstruct
      rw [hstruct]
      exact (Shape.single.inj h).1.symm
    · cases h
    · rename_i hstruct
      rw [hstruct]
      exact (Shape.single.inj h).1.symm
    · cases h

/-- The accessor is blank iff it is a field that is. -/
theorem accessor_eq_blank_iff {payload : Option FieldHead} :
    (payload.map fun head => Accessor.of head.name 0).getD (.whole 0) = .field "_" ↔
      ∃ head, payload = some head ∧ head.name = "_" := by
  cases payload with
  | none => simp
  | some head =>
    rw [Option.map_some, Option.getD_some, Accessor.of]
    split
    · rename_i hempty
      have hname : head.name ≠ "_" := by
        rw [beq_iff_eq.1 hempty]
        decide
      simp [hname]
    · simp

/-- Nothing can be assigned to a place with a blank field. -/
theorem exec_assign_of_not_isNamed {α : Type} {target : Place} (h : target.isNamed = false)
    (value : Code.Term) (Γ : Surroundings α) (σ : Variables α) :
    (Statement.assign target value).exec Γ σ = none := by
  have hstore : ∀ y, target.store σ y = none := fun y => by rw [Place.store, h]
  rw [Statement.exec]
  split
  · rw [hstore]
    rfl
  · rfl

/-- Where the tag or the accessor is blank, wrap cannot set it. -/
theorem isSome_run_wrap_iff {α : Type} {u : Union} {c : Conversion} (Γ : Surroundings α) (g : Generics)
    (payload : String) (zero : String → Data α) (hvariant : c.variant ≠ "_") (p : Data α) :
    ((c.wrapFunction u g payload).run Γ zero p).isSome = true ↔
      u.tag.name ≠ "_" ∧ c.accessor ≠ .field "_" := by
  rw [← Conversion.reachable_iff hvariant]
  constructor
  · intro hsome
    rw [Function.run, Conversion.wrapFunction] at hsome
    refine ⟨fun htag => ?_, fun name hname hblank => ?_⟩
    · -- The first statement puts the tag.
      have hnot : (⟨outputName, [u.tag.name]⟩ : Place).isNamed = false := by simp [Place.isNamed, htag]
      rw [execAll, exec_assign_of_not_isNamed hnot] at hsome
      cases hsome
    · have hnot : (c.place outputName).isNamed = false := by
        rw [Conversion.place_eq]
        exact List.all_eq_false.2 ⟨name, hname, by simp [hblank]⟩
      rw [execAll] at hsome
      split at hsome
      · rw [execAll, exec_assign_of_not_isNamed hnot] at hsome
        cases hsome
      · rename_i hfirst
        rw [Statement.exec, Term.eval, Option.map_eq_some_iff] at hfirst
        obtain ⟨_, -, hreturns⟩ := hfirst
        cases hreturns
      · cases hsome
  · intro hreach
    rw [Conversion.run_wrap Γ g payload zero hreach]
    rfl

/-- The code of a conversion names what can be named iff the declaration of its union does, whose
variants always have names; and if the tag field and the payload have names, its wrap function has a
meaning. -/
theorem nameable_iff {α : Type} {s : Subject} {spec : TypeSpec} {u : Union}
    (hu : s.union spec = .ok u) {limit : Option Nat} {taken : TakenNames} {c : Conversion}
    (hc : .ok c ∈ (u.check s.info.table limit taken).2) (d : Draft) (payload : String)
    (Γ : Surroundings α) (zero : String → Data α) (p : Data α) :
    ∃ f ∈ s.fieldsOf spec, f.head.name = c.variant ∧
      Shape.ofType s.info.table f.type = .single c.accessor c.payload ∧ c.variant ≠ "_" ∧
      (Nameable s.path u c (payloadField? s.info.table f.type) ↔
        s.Names spec (payloadField? s.info.table f.type)) ∧
      (((c.wrapFunction u (d.generics s u).1 payload).run Γ zero p).isSome = true ↔
        u.tag.name ≠ "_" ∧ c.accessor ≠ .field "_") := by
  obtain ⟨⟨hname, hparams⟩, ⟨tagField, htags, -, htag⟩, -⟩ := union_eq_ok hu
  obtain ⟨f, hf, -, hblank, hvariant, hshape⟩ := conversion_field hu hc
  have hnamed : c.variant ≠ "_" := hvariant ▸ hblank
  refine ⟨f, hf, hvariant.symm, hshape, hnamed, ?_, isSome_run_wrap_iff Γ _ payload zero hnamed p⟩
  have harguments : "_" ∉ u.typeArguments ↔ ∀ g ∈ spec.params, ∀ id ∈ g.1.names, id.name ≠ "_" := by
    rw [Union.typeArguments, hparams]
    simp
  have htagged : u.tag.name ≠ "_" ↔ ∀ f ∈ s.fieldsOf spec, f.isTag = true → f.head.name ≠ "_" := by
    have hall : ∀ f, f ∈ s.fieldsOf spec ∧ f.isTag = true ↔ f = tagField := fun f => by
      rw [← List.mem_filter, htags, List.mem_singleton]
    rw [htag]
    constructor
    · intro hne f hf histag
      rwa [(hall f).1 ⟨hf, histag⟩]
    · intro h
      obtain ⟨hmem, histag⟩ := (hall tagField).2 rfl
      exact h tagField hmem histag
  have haccessor : c.accessor ≠ .field "_" ↔
      ∀ head, payloadField? s.info.table f.type = some head → head.name ≠ "_" := by
    rw [accessor_of_ofType hshape, Ne, accessor_eq_blank_iff]
    simp
  constructor
  · rintro ⟨h₁, h₂, h₃, -, h₅, h₆⟩
    refine ⟨hname ▸ h₁, harguments.1 h₃, htagged.1 h₂, fun head hhead => ⟨haccessor.1 h₅ head hhead, ?_⟩⟩
    by_cases hhome : head.home = s.path
    · exact .inl hhome
    · exact .inr (h₆ head hhead hhome)
  · rintro ⟨h₁, h₂, h₃, h₄⟩
    exact ⟨hname ▸ h₁, htagged.2 h₃, harguments.2 h₂, hnamed,
      haccessor.2 fun head hhead => (h₄ head hhead).1,
      fun head hhead hhome => (h₄ head hhead).2.resolve_left hhome⟩

/-- The conversions of the unions that are asked for in a package, each with its declaration. -/
def Subject.conversions (s : Subject) : List (TypeSpec × Union × Conversion) :=
  s.requests.flatMap fun r => (s.union r.spec).toOption.toList.flatMap fun u =>
    (passed (u.check s.info.table none {}).2).map fun c => (r.spec, u, c)

theorem Subject.of_mem_conversions {s : Subject} {x : TypeSpec × Union × Conversion} (h : x ∈ s.conversions) :
    s.union x.1 = .ok x.2.1 ∧ .ok x.2.2 ∈ (x.2.1.check s.info.table none {}).2 := by
  obtain ⟨r, -, hx⟩ := List.mem_flatMap.1 h
  obtain ⟨u, hu, hx⟩ := List.mem_flatMap.1 hx
  obtain ⟨c, hc, rfl⟩ := List.mem_map.1 hx
  refine ⟨?_, mem_of_passed hc⟩
  cases hunion : s.union r.spec with
  | error finding =>
    rw [hunion] at hu
    cases hu
  | ok u' =>
    rw [hunion] at hu
    rw [List.mem_singleton.1 hu]

/-- A union with a blank tag gets conversions, which refer to it and have no meaning. -/
theorem blankTag_not_nameable :
    let sources := [("p", [("p.go", "package p\n\n//enumorph:derive\ntype Shape struct \x7b\n" ++
      "\t_ string `enumorph:\"tag\"`\n\tCircle int\n\x7d\n")])]
    ∃ program p spec u c, ({} : Program).loadAll? sources = some program ∧ p ∈ program.packages ∧
      let s := Subject.ofPackage program p
      s.union spec = .ok u ∧ .ok c ∈ (u.check s.info.table none {}).2 ∧ c.unwrap = "ShapeToCircle" ∧
        (∀ payload, ¬Nameable s.path u c payload) ∧
        ((c.wrapFunction u (({} : Draft).generics s u).1 "int").run ⟨fun _ => none, fun _ => none, fun _ _ => none⟩
          (fun _ => (Data.ofText "" : Data Unit)) (.ofText "")).isSome = false := by
  intro sources
  have hshown : (({} : Program).loadAll? sources).map (fun program => program.packages.flatMap fun p =>
      (Subject.ofPackage program p).conversions.map fun x => (x.2.1.tag.name, x.2.2.unwrap)) =
      some [("_", "ShapeToCircle")] := by
    rw [loadAll?_cons, String.toList_append, String.toList_ofList, String.toList_ofList]
    decide +kernel
  obtain ⟨program, hload, hprogram⟩ := Option.map_eq_some_iff.1 hshown
  obtain ⟨p, hp, hmem⟩ := List.mem_flatMap.1 (hprogram ▸ List.mem_singleton_self ("_", "ShapeToCircle"))
  obtain ⟨⟨spec, u, c⟩, hx, heq⟩ := List.mem_map.1 hmem
  obtain ⟨htag, hunwrap⟩ := Prod.mk.inj heq
  obtain ⟨hu, hc⟩ := Subject.of_mem_conversions hx
  obtain ⟨f, -, -, -, -, -, hrun⟩ := nameable_iff hu hc {} "int" ⟨fun _ => none, fun _ => none, fun _ _ => none⟩
    (fun _ => (Data.ofText "" : Data Unit)) (.ofText "")
  exact ⟨program, p, spec, u, c, hload, hp, hu, hc, hunwrap, fun payload h => h.tag htag,
    Bool.eq_false_iff.2 fun hsome => (hrun.1 hsome).1 htag⟩

end TaggedUnion
