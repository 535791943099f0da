import Mathlib.Data.List.Flatten
import Mathlib.Data.List.Nodup
import TaggedUnion.Proofs.Program.Reading

/-!
# Names of top-level declarations

The names that a package declares at its top level are distinct, so each declaration is found by its name
(`find?_eq_some_of_distinct`). Declarations under blank names are told apart by their places, which are
distinct too (`ownDecl_eq_of_pos_eq`).
-/

namespace TaggedUnion.Program

open Source TaggedUnion.Types Syntax

/-! ## Names -/

theorem length_eraseDups_le (names : List String) : names.eraseDups.length ≤ names.length := by
  induction hn : names.length using Nat.strong_induction_on generalizing names with
  | _ n ih =>
    subst hn
    cases names with
    | nil => exact Nat.le_refl _
    | cons name rest =>
      have hfilter := List.length_filter_le (fun other => !other == name) rest
      rw [List.eraseDups_cons, List.length_cons, List.length_cons]
      exact Nat.succ_le_succ ((ih _ (Nat.lt_succ_of_le hfilter) _ rfl).trans hfilter)

/-- Names that are as many without repetitions have no repetitions. -/
theorem nodup_of_length_eraseDups {names : List String} (h : names.eraseDups.length = names.length) :
    names.Nodup := by
  induction names with
  | nil => exact .nil
  | cons name rest ih =>
    have hfilter := List.length_filter_le (fun other => !other == name) rest
    have hdups := length_eraseDups_le (rest.filter fun other => !other == name)
    rw [List.eraseDups_cons, List.length_cons, List.length_cons] at h
    -- As many as before, so no name was left out.
    have hall := List.length_filter_eq_length_iff.1 (hfilter.antisymm (Nat.succ.inj h ▸ hdups))
    rw [List.filter_eq_self.2 hall] at h
    refine List.nodup_cons.2 ⟨fun hmem => ?_, ih (Nat.succ.inj h)⟩
    simpa using hall name hmem

theorem nodup_of_distinct {names : List String} (h : distinct names = true)
    (hblank : "_" ∉ names) : names.Nodup := by
  have hfilter : names.filter (· != "_") = names :=
    List.filter_eq_self.2 fun name hname => bne_iff_ne.2 fun heq => hblank (heq ▸ hname)
  rw [distinct, hfilter, beq_iff_eq] at h
  exact nodup_of_length_eraseDups h

/-- Among declarations with distinct names, each is found by its name. -/
theorem find?_eq_some_of_distinct {env : Env} {all : List OwnDecl}
    (hown : env.own = all.filter OwnDecl.isNamed) (hdistinct : distinct (env.own.map (·.name.name)) = true)
    {d : OwnDecl} (hd : d ∈ all) (hnamed : d.isNamed = true) : env.find? d.name.name = some d := by
  have hmem : d ∈ env.own := hown ▸ List.mem_filter.2 ⟨hd, hnamed⟩
  have hblank : "_" ∉ env.own.map (·.name.name) := by
    intro hblank
    obtain ⟨d', hd', hname⟩ := List.mem_map.1 hblank
    rw [hown] at hd'
    have hnamed := (List.mem_filter.1 hd').2
    simp [OwnDecl.isNamed, hname] at hnamed
  rw [Env.find?]
  cases hfind : env.own.find? (·.name.name == d.name.name) with
  | none => exact absurd (List.find?_eq_none.1 hfind d hmem) (by simp)
  | some d' =>
    have hname : d'.name.name = d.name.name := by simpa using List.find?_some hfind
    rw [List.inj_on_of_nodup_map (nodup_of_distinct hdistinct hblank) (List.mem_of_find?_eq_some hfind) hmem
      hname]

/-! ## Places of declarations -/

theorem map_name_mapIdx {names : List Ident} {g : Nat → Ident → OwnDecl} (hg : ∀ i id, (g i id).name = id) :
    (names.mapIdx g).map (·.name) = names := by
  refine List.ext_getElem? fun i => ?_
  rw [List.getElem?_map, List.getElem?_mapIdx, Option.map_map]
  exact (congrArg (Option.map · names[i]?) (funext (hg i))).trans Option.map_id'

theorem map_name_varDecls (i : Nat) (spec : ValueSpec) : (varDecls i spec).map (·.name) = spec.names := by
  rw [varDecls]
  split <;> exact map_name_mapIdx fun _ _ => rfl

theorem map_name_constDecls (i : Nat) (type : Option Expr) (values : List Expr) (specs : List ValueSpec) :
    (constDecls i type values specs).map (·.name) = specs.flatMap (·.names) := by
  induction specs generalizing type values with
  | nil => rfl
  | cons spec rest ih =>
    rw [constDecls, List.map_append, ih, map_name_mapIdx fun _ _ => rfl]
    rfl

/-- What is declared are the names of the declaration, unless it is that of a method. -/
theorem sublist_declared (i : Nat) (d : Decl) : ((declared i d).map (·.name)).Sublist d.names := by
  cases d with
  | types doc specs =>
    rw [declared, List.map_map]
    exact .refl _
  | vars specs =>
    rw [declared, List.map_flatMap]
    exact List.Sublist.flatMap_right specs fun spec _ => map_name_varDecls i spec ▸ .refl _
  | consts specs =>
    rw [declared, map_name_constDecls]
    exact .refl _
  | func spec =>
    rw [declared]
    split
    · exact List.nil_sublist _
    · exact .refl _

theorem sublist_flatten_mapIdx {g : Nat → File → List OwnDecl}
    (hg : ∀ i f, ((g i f).map (·.name)).Sublist (f.decls.flatMap Decl.names)) (files : List File) :
    ((files.mapIdx g).flatten.map (·.name)).Sublist (files.flatMap fun f => f.decls.flatMap Decl.names) := by
  induction files generalizing g with
  | nil => exact .refl _
  | cons f rest ih =>
    rw [List.mapIdx_cons, List.flatten_cons, List.map_append, List.flatMap_cons]
    exact (hg 0 f).append (ih fun i => hg (i + 1))

theorem sublist_ownDecls (files : List File) :
    ((ownDecls files).map (·.name)).Sublist (files.flatMap fun f => f.decls.flatMap Decl.names) := by
  refine sublist_flatten_mapIdx (fun i f => ?_) files
  rw [List.map_flatMap]
  exact List.Sublist.flatMap_right f.decls fun d _ => sublist_declared i d

theorem forall_mem_mapIdx {P : OwnDecl → Prop} {names : List Ident} {g : Nat → Ident → OwnDecl}
    (hg : ∀ i id, P (g i id)) : ∀ d ∈ names.mapIdx g, P d := by
  intro d hd
  obtain ⟨i, hi, rfl⟩ := List.mem_mapIdx.1 hd
  exact hg i _

/-- The declaration of a type is under the name of its specification. -/
theorem name_eq_of_mem_declared {i : Nat} {decl : Decl} : ∀ d ∈ declared i decl, ∀ spec, d.body = .type spec →
    d.name = spec.name := by
  cases decl with
  | types doc specs =>
    refine List.forall_mem_map.2 ?_
    rintro _ _ _ ⟨⟩
    rfl
  | vars specs =>
    rw [declared]
    refine List.forall_mem_flatMap.2 fun spec _ => ?_
    rw [varDecls]
    split <;> exact forall_mem_mapIdx fun _ _ _ hbody => by cases hbody
  | consts specs =>
    -- the type and the values that a specification without any repeats
    rw [declared]
    generalize none = type, [] = values
    induction specs generalizing type values with
    | nil => exact List.forall_mem_nil _
    | cons spec rest ih => exact List.forall_mem_append.2 ⟨forall_mem_mapIdx fun _ _ => nofun, ih _ _⟩
  | func spec =>
    rw [declared]
    split
    · exact List.forall_mem_nil _
    · exact List.forall_mem_singleton.2 nofun

theorem name_eq_of_mem_ownDecls {files : List File} {d : OwnDecl} {spec : TypeSpec} (hd : d ∈ ownDecls files)
    (hbody : d.body = .type spec) : d.name = spec.name := by
  obtain ⟨ds, hds, hd⟩ := List.mem_flatten.1 hd
  obtain ⟨i, hi, rfl⟩ := List.mem_mapIdx.1 hds
  obtain ⟨decl, -, hd⟩ := List.mem_flatMap.1 hd
  exact name_eq_of_mem_declared d hd spec hbody

theorem mem_ownDecls {files : List File} {f : File} (hf : f ∈ files) {doc : Option (List Comment)}
    {specs : List TypeSpec} (hspecs : .types doc specs ∈ f.decls) {spec : TypeSpec} (hspec : spec ∈ specs) :
    ∃ d ∈ ownDecls files, d.name = spec.name ∧ d.body = .type spec := by
  obtain ⟨i, hi, rfl⟩ := List.mem_iff_getElem.1 hf
  refine ⟨⟨spec.name, i, .type spec⟩, List.mem_flatten.2 ⟨_, List.mem_mapIdx.2 ⟨i, hi, rfl⟩, ?_⟩, rfl, rfl⟩
  exact List.mem_flatMap.2 ⟨_, hspecs, List.mem_map_of_mem hspec⟩

/-- In files that follow one another, each declaration is within one of them. -/
theorem exists_inside_of_mem_ownDecls {infos : List FileInfo} {files : List File}
    (hat : List.Forall₂ FileAt infos files) {d : OwnDecl} (hd : d ∈ ownDecls files) :
    ∃ info ∈ infos, Inside info d.name.pos := by
  have hname := (sublist_ownDecls files).subset (List.mem_map_of_mem hd)
  obtain ⟨f, hf, hname⟩ := List.mem_flatMap.1 hname
  obtain ⟨info, hinfo, hfile⟩ := exists_related hat f hf
  exact ⟨info, hinfo, hfile.names _ hname⟩

/-- In files that follow one another, no two declarations are at one place. -/
theorem ownDecl_eq_of_pos_eq {infos : List FileInfo} {files : List File}
    (hinfos : Successive infos) (hat : List.Forall₂ FileAt infos files)
    {d d' : OwnDecl} (hd : d ∈ ownDecls files) (hd' : d' ∈ ownDecls files) (hpos : d.name.pos = d'.name.pos) :
    d = d' := by
  have hordered : (files.flatMap fun f => f.decls.flatMap Decl.names).Pairwise (·.pos < ·.pos) :=
    pairwise_flatMap_of_fileAt (fun _ _ hf => hf.names) (fun _ _ hf => hf.namesOrdered) hinfos hat
  have hnames := hordered.sublist (sublist_ownDecls files)
  rw [List.pairwise_map] at hnames
  exact eq_of_pairwise_lt hnames hd hd' hpos

end TaggedUnion.Program
