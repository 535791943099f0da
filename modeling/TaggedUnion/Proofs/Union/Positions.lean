import TaggedUnion.Proofs.Program.Fields
import TaggedUnion.Proofs.Union.Origin

/-!
# Where findings are

Everything that is found wrong with a declaration is at its name, at its type, at a field or at the type of a
field (`union_error_inside`, `check_error_inside`). In a loaded program these are all in the file of the
declaration (`specInside_of_spelled`), so what building a package finds is in a file of it that was not generated
(`exists_inside_of_mem_findings`).
-/

namespace TaggedUnion

open Source TaggedUnion.Types Syntax Program

variable {s : Subject} {info : FileInfo} {spec : TypeSpec}

/-- A declaration is in a file, with the fields of the struct that it writes out. -/
structure Subject.SpecInside (s : Subject) (info : FileInfo) (spec : TypeSpec) : Prop where
  name : Inside info spec.name.pos
  type : Inside info spec.type.pos
  fields : spec.isAlias = false → ∀ x ∈ s.fieldsOf spec, Inside info x.head.pos ∧ Inside info x.expr.pos

/-! ## Faulty declarations -/

/-- What is wrong with tag fields is at a field. -/
theorem findTag_error_pos {table : TypeTable} {union : String} {found : Option FieldHead} {x : Finding}
    {fields : List WrittenField} (h : findTag table union found fields = .error x) :
    ∃ f ∈ fields, x.pos = f.head.pos := by
  induction fields generalizing found with
  | nil => cases h
  | cons f rest ih =>
    have hrest : ∀ {found}, findTag table union found rest = .error x → ∃ f' ∈ f :: rest, x.pos = f'.head.pos :=
      fun h => (ih h).imp fun _ hf => ⟨List.mem_cons_of_mem _ hf.1, hf.2⟩
    unfold findTag at h
    split at h
    · split at h
      · cases h
        exact ⟨f, List.mem_cons_self, rfl⟩
      · split at h
        · exact hrest h
        · cases h
          exact ⟨f, List.mem_cons_self, rfl⟩
    · exact hrest h

theorem unionOf_error_pos {table : TypeTable} {o : Object} {fields : List WrittenField} {x : Finding}
    (h : unionOf table spec o fields = .error x) :
    x.pos = spec.type.pos ∨ ∃ f ∈ fields, x.pos = f.head.pos := by
  rw [unionOf] at h
  cases htag : findTag table spec.name.name none fields with
  | error y =>
    rw [htag] at h
    cases h
    exact .inr (findTag_error_pos htag)
  | ok tag =>
    rw [htag] at h
    simp only [bind, Except.bind] at h
    split at h
    · cases h
      exact .inl rfl
    · split at h
      · cases h
        exact .inl rfl
      · cases h

/-- What keeps a declaration from being a tagged union is in its file. -/
theorem union_error_inside {x : Finding} (hspec : s.SpecInside info spec) (h : s.union spec = .error x) :
    Inside info x.pos := by
  rw [Subject.union] at h
  split at h
  next =>
    cases h
    exact hspec.name
  next halias =>
    have hfields := hspec.fields (Bool.eq_false_iff.2 halias)
    rw [Subject.fieldsOf] at hfields
    split at h
    next =>
      cases h
      exact hspec.name
    next o ho =>
      split at h
      next groups _ htype =>
        simp only [ho, htype] at hfields
        obtain hpos | ⟨f, hf, hpos⟩ := unionOf_error_pos h
        · exact hpos ▸ hspec.type
        · exact hpos ▸ (hfields f hf).1
      next =>
        cases h
        exact hspec.type

/-! ## Faulty variants -/

section

variable {table : TypeTable} {u : Union} {v : Variant} {x : Finding}

theorem takeNames_error_pos {taken : TakenNames} {names : List String}
    (h : (takeNames u v taken names).2 = some x) : x.pos = v.pos := by
  induction names generalizing taken with
  | nil => cases h
  | cons name rest ih =>
    rw [takeNames] at h
    split at h
    · exact ih h
    · cases h
      rfl

theorem convert_error_pos {c : Checking} {accessor : Accessor} {payload : Ty}
    (h : (convert table u v accessor payload c).2 = .error x) : x.pos = v.pos := by
  rw [convert] at h
  split at h
  · cases h
    rfl
  · dsimp only at h
    split at h
    next taken finding htaken =>
      cases h
      exact takeNames_error_pos (congrArg Prod.snd htaken)
    next => cases h

/-- What is wrong with a variant is at its field or at the type of the field. -/
theorem checkVariant_error_pos {c : Checking} (h : (checkVariant table u v c).2 = .error x) :
    x.pos = v.pos ∨ x.pos = v.expr.pos := by
  rw [checkVariant] at h
  split at h
  · cases h
    exact .inl rfl
  · cases h
    exact .inl rfl
  · cases h
    exact .inr rfl
  · exact .inl (convert_error_pos h)

theorem checkVariants_error_pos {c : Checking} {vs : List Variant}
    (h : .error x ∈ (checkVariants table u c vs).2) : ∃ v ∈ vs, x.pos = v.pos ∨ x.pos = v.expr.pos := by
  induction vs generalizing c with
  | nil => exact absurd h List.not_mem_nil
  | cons v rest ih =>
    rw [checkVariants] at h
    obtain heq | hmem := List.mem_cons.1 h
    · exact ⟨v, List.mem_cons_self, checkVariant_error_pos heq.symm⟩
    · obtain ⟨w, hw, hpos⟩ := ih hmem
      exact ⟨w, List.mem_cons_of_mem _ hw, hpos⟩

end

/-- What is wrong with the variants of a union is in the file of its declaration. -/
theorem check_error_inside {u : Union} {taken : TakenNames} {x : Finding} (hspec : s.SpecInside info spec)
    (hu : s.union spec = .ok u) (h : .error x ∈ (u.check s.info.table none taken).2) : Inside info x.pos := by
  have halias : spec.isAlias = false := by
    rw [Subject.union] at hu
    split at hu
    · cases hu
    · exact Bool.eq_false_iff.2 ‹_›
  obtain ⟨v, hv, hpos⟩ := checkVariants_error_pos h
  obtain ⟨f, hf, -, -, rfl⟩ := exists_field hu (List.mem_filter.1 hv).1
  obtain ⟨hhead, hexpr⟩ := hspec.fields halias f hf
  obtain hpos | hpos := hpos
  · exact hpos ▸ hhead
  · exact hpos ▸ hexpr

/-! ## Packages -/

/-- What is wrong with requests is wrong with a declaration, or with a variant of the union that it makes. -/
theorem mem_findings_buildAll {taken : TakenNames} {rs : List Request} {x : Finding}
    (h : x ∈ (buildAll s taken rs).findings) :
    ∃ r ∈ rs, s.union r.spec = .error x ∨
      ∃ u taken', s.union r.spec = .ok u ∧ .error x ∈ (u.check s.info.table none taken').2 := by
  induction rs generalizing taken with
  | nil => exact absurd h List.not_mem_nil
  | cons r rest ih =>
    have hrest : ∀ {taken'}, x ∈ (buildAll s taken' rest).findings → ∃ r' ∈ r :: rest, _ := fun h =>
      (ih h).imp fun _ hr => ⟨List.mem_cons_of_mem r hr.1, hr.2⟩
    rw [buildAll] at h
    cases hu : s.union r.spec with
    | error y =>
      rw [hu] at h
      obtain rfl | hmem := List.mem_cons.1 h
      · exact ⟨r, List.mem_cons_self, .inl hu⟩
      · exact hrest hmem
    | ok u =>
      rw [hu] at h
      obtain hmem | hmem := List.mem_append.1 h
      · obtain ⟨outcome, houtcome, hfailed⟩ := List.mem_filterMap.1 hmem
        cases outcome with
        | ok _ => cases hfailed
        | error y =>
          cases hfailed
          exact ⟨r, List.mem_cons_self, .inr ⟨u, taken, hu, houtcome⟩⟩
      · exact hrest hmem

/-! ## Loaded packages -/

theorem forall_mem_fieldPlaces {P : Pos → Prop} {groups : List (GroupHead × Expr)}
    (h : ∀ g ∈ groups, GroupAt P g) : ∀ pos ∈ fieldPlaces groups, P pos := by
  refine List.forall_mem_flatMap.2 fun g hg => ?_
  have hat := h g hg
  cases hnames : g.1.names with
  | nil =>
    obtain ⟨-, id, hid, hpos⟩ := hat.embedded hnames
    simpa [hid] using hpos
  | cons first rest =>
    dsimp only
    exact hnames ▸ List.forall_mem_map.2 hat.names

/-- A written field has its head from the struct and its expression from a group. -/
theorem mem_writtenFields {groups : List (GroupHead × Expr)} {fields : List (FieldHead × Ty)} {x : WrittenField}
    (h : x ∈ writtenFields groups fields) : x.head.pos ∈ fields.map (·.1.pos) ∧ ∃ g ∈ groups, x.expr = g.2 := by
  obtain ⟨⟨field, expr⟩, hmem, rfl⟩ := List.mem_map.1 h
  obtain ⟨hfield, hexpr⟩ := List.of_mem_zip hmem
  obtain ⟨g, hg, hexpr⟩ := List.mem_flatMap.1 hexpr
  exact ⟨List.mem_map_of_mem hfield, g, hg, List.eq_of_mem_replicate hexpr⟩

/-- In a loaded program, the fields of a struct are in the file of its declaration. -/
theorem specInside_of_spelled {program : Program} {p : Package} (h : program.Spelled) (hp : p ∈ program.packages)
    {f : File} (hf : f ∈ p.files) (hfile : FileAt info f) {doc : Option (List Comment)} {specs : List TypeSpec}
    (hspecs : .types doc specs ∈ f.decls) (hspec : spec ∈ specs) :
    (Subject.ofPackage program p).SpecInside info spec := by
  have hat := (hfile.decls _ hspecs).2 spec hspec
  refine ⟨hat.name, hat.type.start, fun halias x hx => ?_⟩
  rw [Subject.fieldsOf] at hx
  split at hx
  next o pos lbrace groups rbrace ho htype =>
    have hopos : o.pos = spec.name.pos := by simpa using List.find?_some ho
    obtain ⟨⟨name, generics, hnamed, hname, -⟩, hentries⟩ :=
      h.defines p hp f hf doc specs hspecs spec hspec halias o (List.mem_of_find?_eq_some ho) hopos
    have hgroups := hat.type.fields pos lbrace groups rbrace htype
    obtain ⟨hhead, g, hg, hexpr⟩ : x.head.pos ∈ ((o.type.struct? program.table).getD []).map (·.1.pos) ∧
        ∃ g ∈ groups, x.expr = g.2 := mem_writtenFields hx
    refine ⟨?_, hexpr ▸ (hgroups g hg).type⟩
    cases hstruct : o.type.struct? program.table with
    | none =>
      rw [hstruct] at hhead
      exact absurd hhead List.not_mem_nil
    | some fields =>
      rw [hstruct] at hhead
      rw [hnamed] at hstruct
      have hplaces := places_of_struct?
        (fun entry hentry heq => htype ▸ hentries entry hentry (heq ▸ hname)) hstruct
      exact forall_mem_fieldPlaces hgroups _ (hplaces ▸ hhead)
  next => exact absurd hx List.not_mem_nil

theorem mem_specs_of_mem_declRequests {d : Decl} {r : Request} (h : r ∈ declRequests d) :
    ∃ doc specs, d = .types doc specs ∧ r.spec ∈ specs := by
  cases d with
  | types doc specs =>
    obtain ⟨spec, hspec, hr⟩ := List.mem_filterMap.1 h
    obtain ⟨c, -, rfl⟩ := Option.map_eq_some_iff.1 hr
    exact ⟨doc, specs, rfl, hspec⟩
  | vars _ | consts _ | func _ => exact absurd h List.not_mem_nil

/-- What building a package of a loaded program finds is in a file of it that was not generated. -/
theorem exists_inside_of_mem_findings {program : Program} {p : Package} (h : program.Spelled)
    (hp : p ∈ program.packages) {x : Finding} (hx : x ∈ (Subject.ofPackage program p).build.findings) :
    ∃ f ∈ (Subject.ofPackage program p).ownSources, ∃ info ∈ program.files.files, FileAt info f ∧
      Inside info x.pos := by
  have hfileAt : ∀ f ∈ (Subject.ofPackage program p).ownSources, ∃ info ∈ program.files.files, FileAt info f :=
    fun f hf => h.placed.exists_fileAt hp (List.mem_of_mem_filter hf)
  rw [Subject.build] at hx
  obtain hx | hx := List.mem_append.1 hx
  · obtain ⟨c, hc, rfl⟩ := List.mem_map.1 hx
    obtain ⟨f, hf, hc⟩ := List.mem_flatMap.1 hc
    obtain ⟨info, hinfo, hat⟩ := hfileAt f hf
    exact ⟨f, hf, info, hinfo, hat, hat.comments c (List.mem_of_mem_filter (List.mem_of_mem_filter hc))⟩
  · obtain ⟨r, hr, hx⟩ := mem_findings_buildAll hx
    obtain ⟨f, hf, hr⟩ := List.mem_flatMap.1 hr
    obtain ⟨d, hd, hr⟩ := List.mem_flatMap.1 hr
    obtain ⟨doc, specs, rfl, hspec⟩ := mem_specs_of_mem_declRequests hr
    obtain ⟨info, hinfo, hat⟩ := hfileAt f hf
    have hinside := specInside_of_spelled h hp (List.mem_of_mem_filter hf) hat hd hspec
    refine ⟨f, hf, info, hinfo, hat, ?_⟩
    obtain herror | ⟨u, taken, hu, herror⟩ := hx
    · exact union_error_inside hinside herror
    · exact check_error_inside hinside hu herror

end TaggedUnion
