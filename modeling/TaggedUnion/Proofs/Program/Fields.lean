import TaggedUnion.Proofs.Program.Declared
import TaggedUnion.Proofs.Program.TopLevel
import TaggedUnion.Proofs.Union.Origin

/-!
# Fields are where they are written

A type that is declared as a struct has its fields where they are written, in the file of the declaration
(`fieldsOf_inside`). The fields of a struct are found by way of the table of declared types, which every package
adds to. What keeps the packages apart is that the entries of a package are at places that come after all others
(`Program.Spelled`).
-/

namespace TaggedUnion.Program

open Source TaggedUnion.Types Syntax

/-! ## Written structs -/

theorem heads_declaredGroup (home : String) (g : GroupHead × Expr) :
    (declaredGroup home g).map (·.1) =
      match g.1.names.map spelling with
      | [] => ((embeddedIdent? g.2).map spelling).toList.map fun id => ⟨id.2, home, true, tagBytes g.1.tag, id.1⟩
      | names => names.map fun id => ⟨id.2, home, false, tagBytes g.1.tag, id.1⟩ := by
  rw [declaredGroup]
  cases g.1.names with
  | nil => simp [spelling, Option.toList_map]
  | cons first rest => simp [spelling]

/-- Groups that are written alike declare the same fields. -/
theorem heads_of_same {groups groups' : List (GroupHead × Expr)} (h : List.Forall₂ SameGroup groups groups')
    (home : String) : (declaredFields home groups').map (·.1) = (declaredFields home groups).map (·.1) := by
  rw [declaredFields, declaredFields, List.map_flatMap, List.map_flatMap]
  refine flatMap_eq_of_related h fun g k hsame => ?_
  rw [heads_declaredGroup, heads_declaredGroup, hsame.names, hsame.tag, hsame.type.embedded]

theorem Spells.of_same {x y : Expr} {t : Ty} (h : Spells x t) (hsame : SameType x y) : Spells y t := by
  intro pos lbrace groups rbrace hy
  obtain ⟨groups', hx, hgroups⟩ := hsame.fields pos lbrace groups rbrace hy
  obtain ⟨home, fields, ht, hfields⟩ := h pos lbrace groups' rbrace hx
  exact ⟨home, fields, ht, hfields.trans (heads_of_same hgroups home).symm⟩

theorem EntrySpells.of_same {x y : Expr} {entry : TypeDecl} (h : EntrySpells x entry) (hsame : SameType x y) :
    EntrySpells y entry where
  rhs := h.rhs.of_same hsame
  expanded pos lbrace groups rbrace hy := by
    obtain ⟨groups', hx, -⟩ := hsame.fields pos lbrace groups rbrace hy
    exact h.expanded pos lbrace groups' rbrace hx

theorem heads_substFields (σ : List (Pos × Ty)) (fields : List (FieldHead × Ty)) :
    (Ty.subst.substFields σ fields).map (·.1) = fields.map (·.1) := by
  induction fields with
  | nil => rfl
  | cons field rest ih =>
    rw [Ty.subst.substFields, List.map_cons, List.map_cons, ih]

section

variable {table : TypeTable} {name : TypeName} {generics : List (List ParamDecl × Ty)} {pos lbrace rbrace : Pos}
  {groups : List (GroupHead × Expr)}

/-- A defined type whose entry is a written struct has the fields that are written. -/
theorem exists_struct? {entry : TypeDecl} (hfind : table.find? name = some entry)
    (hspells : EntrySpells (.struct pos lbrace groups rbrace) entry) :
    ∃ home fields, (Ty.named name generics []).struct? table = some fields ∧
      fields.map (·.1) = (declaredFields home groups).map (·.1) := by
  obtain ⟨home, written, hrhs, hwritten⟩ := hspells.rhs pos lbrace groups rbrace rfl
  obtain ⟨σ, hstruct⟩ : ∃ σ, entry.instantiate [] = .struct (Ty.subst.substFields σ written) :=
    ⟨_, by rw [TypeDecl.instantiate, hspells.expanded pos lbrace groups rbrace rfl, Option.getD_none, hrhs,
      Ty.subst]⟩
  have hunfold : ∀ depth, (Ty.struct (Ty.subst.substFields σ written)).unfold table depth =
      .struct (Ty.subst.substFields σ written) := fun depth => by cases depth <;> rfl
  refine ⟨home, Ty.subst.substFields σ written, ?_, (heads_substFields σ written).trans hwritten⟩
  rw [Ty.struct?, Ty.underlying, Ty.unfold]
  simp only [Ty.unalias, hfind, hstruct, hunfold]

/-- A defined type that stands for a written struct has the fields that are written. -/
theorem places_of_struct?
    (hentries : ∀ entry ∈ table, entry.name = name → EntrySpells (.struct pos lbrace groups rbrace) entry)
    {fields : List (FieldHead × Ty)} (h : (Ty.named name generics []).struct? table = some fields) :
    fields.map (·.1.pos) = fieldPlaces groups := by
  cases hfind : table.find? name with
  | none =>
    rw [Ty.struct?, Ty.underlying, Ty.unfold] at h
    simp [Ty.unalias, hfind] at h
  | some entry =>
    have hname : entry.name = name := by simpa using List.find?_some hfind
    have hspells := hentries entry (List.mem_of_find?_eq_some hfind) hname
    obtain ⟨home, written, hstruct, hwritten⟩ := @exists_struct? table name generics _ _ _ _ _ hfind hspells
    cases hstruct.symm.trans h
    have hplaces := congrArg (List.map (·.pos)) hwritten
    rw [List.map_map, List.map_map] at hplaces
    exact hplaces.trans (places_declaredFields home groups)

end

/-! ## Resolved packages -/

section

variable {p : Program} {path : String} {parsed : List File} {env : Env} {r : Resolved} {package : Package}
  (h : Resolves p path parsed env r package)

include h

/-- Each declaration has its object, and types have their entries. -/
theorem Resolves.objectOf : List.Forall₂ (ObjectOf env) (ownDecls parsed) r.objects ∧
    (∀ entry ∈ r.fresh, ∃ d ∈ ownDecls parsed, EntryOf env d entry) ∧
      ∀ d ∈ ownDecls parsed, ∀ spec, d.body = .type spec → spec.isAlias = false →
        ∃ entry ∈ r.fresh, EntryOf env d entry :=
  resolveDecls_eq_ok (fun _ hd hnamed => find?_eq_some_of_distinct h.own h.distinct hd hnamed) h.run

/-- The objects of a package are those of the declarations that are named. -/
theorem Resolves.mem_zip_iff {o : Object} :
    o ∈ package.objects ↔ ∃ d ∈ env.own, (d, o) ∈ (ownDecls parsed).zip r.objects := by
  rw [h.objects.mem_iff, h.own]
  constructor
  · intro ho
    obtain ⟨⟨d, o⟩, hkept, rfl⟩ := List.mem_map.1 ho
    obtain ⟨hmem, hnamed⟩ := List.mem_filter.1 hkept
    exact ⟨d, List.mem_filter.2 ⟨(List.of_mem_zip hmem).1, hnamed⟩, hmem⟩
  · rintro ⟨d, hd, hmem⟩
    exact List.mem_map.2 ⟨(d, o), List.mem_filter.2 ⟨hmem, (List.mem_filter.1 hd).2⟩, rfl⟩

theorem Resolves.exists_objectOf {o : Object} (ho : o ∈ package.objects) :
    ∃ d ∈ ownDecls parsed, d ∈ env.own ∧ ObjectOf env d o := by
  obtain ⟨d, hd, hmem⟩ := h.mem_zip_iff.1 ho
  exact ⟨d, (List.of_mem_zip hmem).1, hd, (List.forall₂_iff_zip.1 h.objectOf.1).2 hmem⟩

/-- A package declares the names of its declarations. -/
theorem Resolves.declares_iff (name : String) :
    package.objects.any (·.name == name) = (env.find? name).isSome := by
  rw [Env.find?, Bool.eq_iff_iff, List.any_eq_true, List.find?_isSome]
  constructor
  · rintro ⟨o, ho, hname⟩
    obtain ⟨d, -, hd, hobject⟩ := h.exists_objectOf ho
    exact ⟨d, hd, hobject.name ▸ hname⟩
  · rintro ⟨d, hd, hname⟩
    have hall : d ∈ ownDecls parsed := by
      rw [h.own] at hd
      exact (List.mem_filter.1 hd).1
    obtain ⟨o, hmem, hobject⟩ := exists_mem_zip h.objectOf.1 d hall
    exact ⟨o, h.mem_zip_iff.2 ⟨d, hd, hmem⟩, hobject.name.symm ▸ hname⟩

end

/-! ## Programs -/

/-- An object is that of a declaration of a defined type, which a table has an entry for, and at its place a table has
nothing but what is written there. -/
structure Defines (table : TypeTable) (spec : TypeSpec) (o : Object) : Prop where
  type : ∃ name generics, o.type = .named name generics [] ∧ name.pos = spec.name.pos ∧
    ∃ entry ∈ table, entry.name = name
  entries : ∀ entry ∈ table, entry.name.pos = spec.name.pos → EntrySpells spec.type entry

/-- The types of a program are those that are written: the table has entries for places in files only, each
declaration has an object, and what the table has for it is what is written there. -/
structure Spelled (p : Program) : Prop where
  placed : p.WellPlaced
  table : ∀ entry ∈ p.table, entry.name.pos < p.files.nextBase
  declares : ∀ q ∈ p.packages, ∀ f ∈ q.files, ∀ doc specs, .types doc specs ∈ f.decls → ∀ spec ∈ specs,
    ∃ o ∈ q.definitions, o.pos = spec.name.pos
  defines : ∀ q ∈ p.packages, ∀ f ∈ q.files, ∀ doc specs, .types doc specs ∈ f.decls → ∀ spec ∈ specs,
    spec.isAlias = false → ∀ o ∈ q.definitions, o.pos = spec.name.pos → Defines p.table spec o

section

variable {table : TypeTable} {spec spec' : TypeSpec} {o : Object}

theorem Defines.of_same (h : Defines table spec o) (hsame : SameSpec spec spec') : Defines table spec' o where
  type := hsame.name ▸ h.type
  entries entry hentry hpos := (h.entries entry hentry (hsame.name ▸ hpos)).of_same hsame.type

/-- Entries for other places change nothing. -/
theorem Defines.append {fresh : TypeTable} (h : Defines table spec o)
    (hfresh : ∀ entry ∈ fresh, spec.name.pos < entry.name.pos) : Defines (table ++ fresh) spec o where
  type := by
    obtain ⟨name, generics, htype, hpos, entry, hentry, hname⟩ := h.type
    exact ⟨name, generics, htype, hpos, entry, List.mem_append_left _ hentry, hname⟩
  entries := List.forall_mem_append.2 ⟨h.entries, fun entry hentry hpos =>
    absurd hpos (hfresh entry hentry).ne'⟩

/-- New entries are for places in the files of their package. -/
theorem exists_inside_of_mem_fresh {env : Env} {infos : List FileInfo} {files : List File} {r : Resolved}
    (hat : List.Forall₂ FileAt infos files) (hfresh : ∀ entry ∈ r.fresh, ∃ d ∈ ownDecls files, EntryOf env d entry)
    {entry : TypeDecl} (hentry : entry ∈ r.fresh) : ∃ info ∈ infos, Inside info entry.name.pos := by
  obtain ⟨d, hd, spec, hbody, hname, -⟩ := hfresh entry hentry
  obtain ⟨info, hinfo, hinside⟩ := exists_inside_of_mem_ownDecls hat hd
  rw [name_eq_of_mem_ownDecls hd hbody] at hinside
  exact ⟨info, hinfo, hname ▸ hinside⟩

/-- The entries that resolving a package gives are for the declarations of the package, after all that the table
has. -/
theorem defines_of_resolved {env : Env} {infos : List FileInfo} {files : List File} {r : Resolved}
    (hinfos : Successive infos) (hat : List.Forall₂ FileAt infos files)
    (hobjects : List.Forall₂ (ObjectOf env) (ownDecls files) r.objects)
    (hfresh : ∀ entry ∈ r.fresh, ∃ d ∈ ownDecls files, EntryOf env d entry)
    (hentered : ∀ d ∈ ownDecls files, ∀ spec, d.body = .type spec → spec.isAlias = false →
      ∃ entry ∈ r.fresh, EntryOf env d entry) {next : Pos}
    (htable : ∀ entry ∈ table, entry.name.pos < next) (hnext : ∀ info ∈ infos, next ≤ info.base) {f : File}
    (hf : f ∈ files) {doc : Option (List Comment)} {specs : List TypeSpec} (hspecs : .types doc specs ∈ f.decls)
    (hspec : spec ∈ specs) (halias : spec.isAlias = false) (ho : o ∈ r.objects) (hpos : o.pos = spec.name.pos) :
    Defines (table ++ r.fresh) spec o := by
  obtain ⟨d, hd, hname, hbody⟩ := mem_ownDecls hf hspecs hspec
  have hunique : ∀ d' ∈ ownDecls files, d'.name.pos = spec.name.pos → d' = d := fun d' hd' hpos =>
    ownDecl_eq_of_pos_eq hinfos hat hd' hd (hpos.trans (hname ▸ rfl))
  constructor
  · obtain ⟨d', hd', hobject⟩ := exists_related hobjects o ho
    obtain rfl := hunique d' hd' (hobject.pos.symm.trans hpos)
    obtain ⟨generics, htype⟩ := hobject.type spec hbody halias
    obtain ⟨entry, hentry, spec', hbody', hentryName, -⟩ := hentered d' hd' spec hbody halias
    cases hbody.symm.trans hbody'
    exact ⟨_, generics, htype, rfl, entry, List.mem_append_right _ hentry, hentryName⟩
  · refine List.forall_mem_append.2 ⟨fun entry hentry heq => ?_, fun entry hentry heq => ?_⟩
    · -- the table has entries for earlier places only
      obtain ⟨info, hinfo, hinside⟩ := exists_inside_of_mem_ownDecls hat hd
      have hbefore := (htable entry hentry).trans_le ((hnext info hinfo).trans (inside_iff.1 hinside).1)
      exact absurd (heq.trans (hname ▸ rfl)) hbefore.ne
    · -- a new entry for this place is that of this declaration
      obtain ⟨d', hd', spec', hbody', hentryName, hspells⟩ := hfresh entry hentry
      have hpos' : d'.name.pos = spec.name.pos := by
        rw [name_eq_of_mem_ownDecls hd' hbody', ← heq, hentryName]
      obtain rfl := hunique d' hd' hpos'
      cases hbody.symm.trans hbody'
      exact hspells

end

theorem Spelled.empty : Spelled {} where
  placed := ⟨.empty, List.forall_mem_nil _⟩
  table := by
    intro entry hentry
    obtain rfl | rfl : _ ∨ _ := by simpa [predeclaredTable] using hentry
    -- predeclared types are at no place
    all_goals decide
  declares := List.forall_mem_nil _
  defines := List.forall_mem_nil _

/-- Loading a package adds entries for places in its files, which come after all others. -/
theorem Spelled.load {p p' : Program} {path : String} {sources : List (String × String)} (hp : p.Spelled)
    (h : p.load? path sources = some p') : p'.Spelled := by
  have hplaced := hp.placed.load h
  obtain ⟨⟨files, parsed⟩, hread, hresolve⟩ := Option.bind_eq_some_iff.1 h
  obtain ⟨infos, hfiles, hwell, hat⟩ := readFiles?_eq_some hp.placed.files hread
  obtain ⟨env, r, package, hpackage, rfl⟩ := resolvePackage?_eq_some hresolve
  obtain ⟨hobjects, hfresh, hentered⟩ := hpackage.objectOf
  have hinfos := (List.pairwise_append.1 (hfiles ▸ hwell.apart)).2.1
  have hnext : ∀ info ∈ infos, p.files.nextBase ≤ info.base := fun info => hwell.nextBase_le_base hfiles
  have hentries : ∀ entry ∈ r.fresh, p.files.nextBase ≤ entry.name.pos ∧ entry.name.pos < files.nextBase := by
    intro entry hentry
    obtain ⟨info, hinfo, hinside⟩ := exists_inside_of_mem_fresh hat hfresh hentry
    obtain ⟨hfirst, hlast⟩ := inside_iff.1 hinside
    exact ⟨(hnext info hinfo).trans hfirst,
      hlast.trans_lt (hwell.lt_nextBase (hfiles ▸ List.mem_append_right _ hinfo))⟩
  -- the files of the new package are annotated, and its types were found in the files without annotations
  have hsource : ∀ f' ∈ r.files, ∀ doc specs', .types doc specs' ∈ f'.decls → ∀ spec' ∈ specs', ∃ f ∈ parsed,
      ∃ decl ∈ f.decls, ∃ specs, decl = .types doc specs ∧ ∃ spec ∈ specs, SameSpec spec spec' := by
    intro f' hf' doc specs' hspecs' spec' hspec'
    have hsame := ((ensures_resolveDecls_files env parsed _) {} trivial).2 r hpackage.run
    obtain ⟨f, hf, hsame⟩ := exists_related hsame f' hf'
    obtain ⟨decl, hdecl, hsame⟩ := exists_related hsame.decls _ hspecs'
    cases hsame with
    | types hsame =>
      obtain ⟨spec, hspec, hsame⟩ := exists_related hsame spec' hspec'
      exact ⟨f, hf, _, hdecl, _, rfl, spec, hspec, hsame⟩
  refine ⟨hplaced, List.forall_mem_append.2 ⟨fun entry hentry => ?_, fun entry hentry => (hentries entry hentry).2⟩,
    List.forall_mem_append.2 ⟨hp.declares, List.forall_mem_singleton.2 ?_⟩,
    List.forall_mem_append.2 ⟨?_, List.forall_mem_singleton.2 ?_⟩⟩
  · exact (hp.table entry hentry).trans_le (hwell.nextBase_le_nextBase hfiles)
  · intro f' hf' doc specs' hspecs' spec' hspec'
    obtain ⟨f, hf, decl, hdecl, specs, hdecls, spec, hspec, hsame⟩ :=
      hsource f' (hpackage.files ▸ hf') _ _ hspecs' spec' hspec'
    obtain ⟨d, hd, hname, -⟩ := mem_ownDecls hf (hdecls ▸ hdecl) hspec
    obtain ⟨o, ho, hobject⟩ := exists_related hobjects.flip d hd
    exact ⟨o, hpackage.definitions ▸ ho, by rw [hobject.pos, hname, hsame.name]⟩
  · -- what was declared before is at earlier places than the new entries
    intro q hq f hf doc specs hspecs spec hspec halias o ho hpos
    refine (hp.defines q hq f hf doc specs hspecs spec hspec halias o ho hpos).append fun entry hentry => ?_
    obtain ⟨info, hinfo, hfile⟩ := hp.placed.exists_fileAt hq hf
    have hinside := ((hfile.decls _ hspecs).2 spec hspec).name
    exact ((inside_iff.1 hinside).2.trans_lt (hp.placed.files.lt_nextBase hinfo)).trans_le (hentries entry hentry).1
  · intro f' hf' doc specs' hspecs' spec' hspec' halias o ho hpos
    obtain ⟨f, hf, decl, hdecl, specs, rfl, spec, hspec, hsame⟩ :=
      hsource f' (hpackage.files ▸ hf') _ _ hspecs' spec' hspec'
    rw [TypeSpec.isAlias, hsame.assign] at halias
    exact (defines_of_resolved hinfos hat hobjects hfresh hentered hp.table hnext hf hdecl hspec halias
      (hpackage.definitions ▸ ho) (hsame.name ▸ hpos)).of_same hsame

/-- The types of a loaded program are those that are written. -/
theorem spelled_of_loadAll? {p : Program} {sources : List (String × List (String × String))}
    (h : ({} : Program).loadAll? sources = some p) : p.Spelled :=
  loadAll?_induct (fun _ _ _ _ hp => hp.load) .empty h

end TaggedUnion.Program
