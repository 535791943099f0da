import Mathlib.Data.List.Nodup
import Mathlib.Data.List.Pairwise
import TaggedUnion.Proofs.Program.Annotation

/-!
# Where the files of a program are

The files of a program share one range of places, one after the other, and each package that is loaded lies
within the files that were read for it (`Program.WellPlaced`). So a place in a file is in no other one, and it
has a position that names a line (`FileSet.WellFormed.file?_eq_some`).
-/

namespace TaggedUnion

open Source TaggedUnion.Types Syntax Program

/-! ## File sets -/

theorem inside_iff {f : FileInfo} {pos : Nat} : Inside f pos ↔ f.base ≤ pos ∧ pos ≤ f.base + f.size := by
  rw [Inside, FileInfo.contains, Bool.and_eq_true, decide_eq_true_eq, decide_eq_true_eq]

/-- Files follow one another. -/
abbrev Successive (infos : List FileInfo) : Prop :=
  infos.Pairwise fun a b => a.base + a.size < b.base

/-- The files of a file set follow one another, and each has lines. -/
structure Source.FileSet.WellFormed (s : FileSet) : Prop where
  files : ∀ f ∈ s.files, f.WellFormed
  base : ∀ f ∈ s.files, 1 ≤ f.base
  apart : s.files.Pairwise fun a b => a.base + a.size < b.base

namespace Source.FileSet.WellFormed

variable {s : FileSet} {f g : FileInfo} {pos : Pos}

theorem empty : FileSet.WellFormed {} :=
  ⟨nofun, nofun, .nil⟩

/-- A further file comes after all others. -/
theorem lt_nextBase (h : s.WellFormed) (hf : f ∈ s.files) : f.base + f.size < s.nextBase := by
  obtain ⟨before, last, hlast⟩ := List.eq_nil_or_concat' s.files |>.resolve_left (List.ne_nil_of_mem hf)
  have hapart := h.apart
  rw [hlast] at hf hapart
  rw [FileSet.nextBase, hlast, List.getLast?_concat]
  obtain hf | hf := List.mem_append.1 hf
  · have := (List.pairwise_append.1 hapart).2.2 f hf last (List.mem_singleton_self _)
    dsimp only
    omega
  · rw [List.mem_singleton.1 hf]
    exact Nat.lt_succ_self _

theorem one_le_nextBase (s : FileSet) : 1 ≤ s.nextBase := by
  rw [FileSet.nextBase]
  split
  · exact Nat.le_refl _
  · exact Nat.le_add_left _ _

theorem add (h : s.WellFormed) (hf : f.WellFormed) (hbase : f.base = s.nextBase) :
    (s.add f).WellFormed where
  files := List.forall_mem_append.2 ⟨h.files, List.forall_mem_singleton.2 hf⟩
  base := List.forall_mem_append.2 ⟨h.base, List.forall_mem_singleton.2 (hbase ▸ one_le_nextBase s)⟩
  apart := List.pairwise_append.2 ⟨h.apart, List.pairwise_singleton _ _, fun g hg k hk => by
    rw [List.mem_singleton.1 hk, hbase]
    exact h.lt_nextBase hg⟩

/-- Files that are added come after all places so far. -/
theorem nextBase_le_base {s' : FileSet} {infos : List FileInfo} (h : s'.WellFormed)
    (hs : s'.files = s.files ++ infos) {info : FileInfo} (hinfo : info ∈ infos) : s.nextBase ≤ info.base := by
  rw [FileSet.nextBase]
  cases hlast : s.files.getLast? with
  | none => exact h.base info (hs ▸ List.mem_append_right _ hinfo)
  | some last => exact (List.pairwise_append.1 (hs ▸ h.apart)).2.2 last (List.mem_of_getLast? hlast) info hinfo

theorem nextBase_le_nextBase {s' : FileSet} {infos : List FileInfo} (h : s'.WellFormed)
    (hs : s'.files = s.files ++ infos) : s.nextBase ≤ s'.nextBase := by
  cases infos with
  | nil => rw [FileSet.nextBase, FileSet.nextBase, hs, List.append_nil]
  | cons info rest =>
    have hbase := h.nextBase_le_base hs List.mem_cons_self
    have hnext := h.lt_nextBase (hs ▸ List.mem_append_right _ List.mem_cons_self)
    exact hbase.trans ((Nat.le_add_right _ _).trans hnext.le)

/-- No place is in two files. -/
theorem eq_of_inside (h : s.WellFormed) (hf : f ∈ s.files) (hg : g ∈ s.files) (hfpos : Inside f pos)
    (hgpos : Inside g pos) : f = g := by
  by_contra hne
  have : Std.Symm fun a b : FileInfo => a.base + a.size < b.base ∨ b.base + b.size < a.base :=
    ⟨fun _ _ => Or.symm⟩
  have hapart : s.files.Pairwise fun a b => a.base + a.size < b.base ∨ b.base + b.size < a.base :=
    h.apart.imp .inl
  have hfg := hapart.forall hf hg hne
  obtain ⟨_, _⟩ := inside_iff.1 hfpos
  obtain ⟨_, _⟩ := inside_iff.1 hgpos
  omega

theorem ne_zero (h : s.WellFormed) (hf : f ∈ s.files) (hpos : Inside f pos) : pos ≠ 0 :=
  Nat.pos_iff_ne_zero.1 ((h.base f hf).trans (inside_iff.1 hpos).1)

/-- The file that has a place is found. -/
theorem file?_eq_some (h : s.WellFormed) (hf : f ∈ s.files) (hpos : Inside f pos) :
    s.file? pos = some f := by
  rw [FileSet.file?, if_neg (h.ne_zero hf hpos)]
  cases hfind : s.files.find? (·.contains pos) with
  | none => exact absurd hpos (by simpa using List.find?_eq_none.1 hfind f hf)
  | some g =>
    have hg : Inside g pos := List.find?_some (p := fun f : FileInfo => f.contains pos) hfind
    rw [h.eq_of_inside hf (List.mem_of_find?_eq_some hfind) hpos hg]

/-- A place in a file has a position that names a line. -/
theorem position_isValid (h : s.WellFormed) (hf : f ∈ s.files) (hpos : Inside f pos) :
    (s.position pos).isValid = true := by
  rw [FileSet.position, h.file?_eq_some hf hpos]
  exact (h.files f hf).position_isValid _

end Source.FileSet.WellFormed

/-! ## Packages -/

/-- The files of each package lie within files of the file set, in order. -/
structure Program.WellPlaced (p : Program) : Prop where
  files : p.files.WellFormed
  packages : ∀ q ∈ p.packages, ∃ infos, infos.Sublist p.files.files ∧ List.Forall₂ FileAt infos q.files

/-- What stands in order is told apart by its places. -/
theorem eq_of_pairwise_lt {α : Type} {p : α → Pos} {as : List α} (h : as.Pairwise (p · < p ·)) {a b : α}
    (ha : a ∈ as) (hb : b ∈ as) (hab : p a = p b) : a = b :=
  List.inj_on_of_nodup_map (List.pairwise_map.2 (h.imp Nat.ne_of_lt)) ha hb hab

/-- What stands in order in each file stands in order in all of them together. -/
theorem pairwise_flatMap_of_fileAt {α : Type} {g : File → List α} {p : α → Pos}
    (hinside : ∀ info f, FileAt info f → ∀ a ∈ g f, Inside info (p a))
    (hordered : ∀ info f, FileAt info f → (g f).Pairwise (p · < p ·))
    {infos : List FileInfo} {files : List File}
    (hinfos : Successive infos) (h : List.Forall₂ FileAt infos files) : (files.flatMap g).Pairwise (p · < p ·) := by
  induction h with
  | nil => exact .nil
  | @cons info f infos files hf hrest ih =>
    obtain ⟨hfirst, hinfos⟩ := List.pairwise_cons.1 hinfos
    rw [List.flatMap_cons, List.pairwise_append]
    refine ⟨hordered info f hf, ih hinfos, fun a ha b hb => ?_⟩
    obtain ⟨k, hk, hb⟩ := List.mem_flatMap.1 hb
    obtain ⟨info', hinfo', hk⟩ := exists_related hrest k hk
    have hlast := (inside_iff.1 (hinside info f hf a ha)).2
    have hnext := (inside_iff.1 (hinside info' k hk b hb)).1
    exact hlast.trans_lt ((hfirst info' hinfo').trans_le hnext)

namespace Program

/-- Each file of a package is in a file of the file set. -/
theorem WellPlaced.exists_fileAt {p : Program} (hp : p.WellPlaced) {q : Package} (hq : q ∈ p.packages) {f : File}
    (hf : f ∈ q.files) : ∃ info ∈ p.files.files, FileAt info f := by
  obtain ⟨infos, hsub, hat⟩ := hp.packages q hq
  obtain ⟨info, hinfo, hfile⟩ := exists_related hat f hf
  exact ⟨info, hsub.subset hinfo, hfile⟩

/-- Reading files adds them after the others. -/
theorem readFiles?_eq_some {files files' : FileSet} {sources : List (String × String)}
    {parsed : List File} (hfiles : files.WellFormed)
    (h : readFiles? files sources = some (files', parsed)) :
    ∃ infos, files'.files = files.files ++ infos ∧ files'.WellFormed ∧
      List.Forall₂ FileAt infos parsed := by
  induction sources generalizing files parsed with
  | nil =>
    cases h
    exact ⟨[], (List.append_nil _).symm, hfiles, .nil⟩
  | cons source rest ih =>
    obtain ⟨name, text⟩ := source
    obtain ⟨⟨mid, f⟩, hf, h⟩ := Option.bind_eq_some_iff.1 h
    obtain ⟨⟨_, fs⟩, hfs, h⟩ := Option.bind_eq_some_iff.1 h
    cases h
    obtain ⟨info, rfl, hbase, hwell, hat⟩ := parseFile?_eq_some hf
    obtain ⟨infos, hinfos, hwell, hats⟩ := ih (hfiles.add hwell hbase) hfs
    exact ⟨info :: infos, by rw [hinfos, FileSet.add, List.append_assoc]; rfl, hwell, .cons hat hats⟩

/-- The declarations of the files of a package. -/
def ownDecls (files : List File) : List OwnDecl :=
  (files.mapIdx fun i f => f.decls.flatMap (declared i)).flatten

theorem of_guard_eq_some {c : Prop} [Decidable c] {u : Unit} (h : (guard c : Option Unit) = some u) : c := by
  change (if c then pure () else failure) = some u at h
  split at h
  · assumption
  · cases h

/-- A package comes of the files that were read for it: what their declarations come to in their environment makes up
the package. -/
structure Resolves (p : Program) (path : String) (parsed : List File) (env : Env) (r : Resolved)
    (package : Package) : Prop where
  self : env.self = path
  own : env.own = (ownDecls parsed).filter OwnDecl.isNamed
  distinct : distinct (env.own.map (·.name.name)) = true
  imported : env.imported = p
  scopes : parsed.mapM (fileScope? p) = some env.scopes
  run : ((resolveDecls env parsed (ownDecls parsed)).run.run {}).1 = .ok r
  home : package.path = path
  files : package.files = r.files
  definitions : package.definitions = r.objects
  objects : package.objects.Perm (((ownDecls parsed).zip r.objects).filter (·.1.isNamed) |>.map (·.2))
  imports : package.imports = (parsed.flatMap fun f => f.imports.map (·.path)).eraseDups

/-- A package that is resolved is added to the program, with what resolving its declarations gives. -/
theorem resolvePackage?_eq_some {p p' : Program} {path : String} {files : List File}
    (h : p.resolvePackage? path files = some p') :
    ∃ env r package, Resolves p path files env r package ∧
      p' = { p with table := p.table ++ r.fresh, packages := p.packages ++ [package] } := by
  rw [resolvePackage?] at h
  simp only [Option.bind_eq_bind, Option.bind_eq_some_iff] at h
  obtain ⟨-, -, -, -, scopes, hscopes, _, hnames, -, -, methods, -, r, hr, -, -, h⟩ := h
  have hnames := Bool.and_eq_true_iff.1 (of_guard_eq_some hnames)
  cases h
  let env : Env :=
    { self := path, own := (ownDecls files).filter OwnDecl.isNamed, methods := methods.flatten, scopes,
      imported := p }
  refine ⟨env, r, _, ⟨rfl, rfl, hnames.1, rfl, hscopes, ?_, rfl, rfl, rfl, List.mergeSort_perm _ _, rfl⟩, rfl⟩
  change ((resolveDecls env files (ownDecls files)).run.run {}).1.toOption = some r at hr
  cases hrun : ((resolveDecls env files (ownDecls files)).run.run {}).1 <;> rw [hrun] at hr <;> cases hr
  rfl

/-- The files of a package are those that were read, with annotations. -/
theorem ensures_resolveDecls_files (env : Env) (files : List File) (all : List OwnDecl) :
    Ensures anyStore (fun r => List.Forall₂ SameFile files r.files) (resolveDecls env files all) := by
  have hfiles : (files.mapIdx fun i f => (i, f)).map (·.2) = files := by
    refine List.ext_getElem? fun i => ?_
    rw [List.getElem?_map, List.getElem?_mapIdx, Option.map_map]
    exact Option.map_id'
  refine .skip fun _ => .skip fun _ => .skip fun objects => .skip fun claims => .skip fun fresh => ?_
  refine (Ensures.mapM fun g _ => ensures_annotateFile env g.1 g.2).bind fun annotated h => .pure ?_
  rw [← List.forall₂_map_left_iff (R := SameFile), hfiles] at h
  exact h

theorem fileAt_of_sameFile {infos : List FileInfo} {files files' : List File}
    (hat : List.Forall₂ FileAt infos files) (hsame : List.Forall₂ SameFile files files') :
    List.Forall₂ FileAt infos files' := by
  induction hat generalizing files' with
  | nil => cases hsame; exact .nil
  | cons hf _ ih =>
    cases hsame with
    | cons hsame hrest => exact .cons (hsame.fileAt hf) (ih hrest)

/-- Loading a package places it after the others. -/
theorem WellPlaced.load {p p' : Program} {path : String} {sources : List (String × String)}
    (hp : p.WellPlaced) (h : p.load? path sources = some p') : p'.WellPlaced := by
  obtain ⟨⟨files, parsed⟩, hread, hresolve⟩ := Option.bind_eq_some_iff.1 h
  obtain ⟨infos, hinfos, hwell, hat⟩ := readFiles?_eq_some hp.files hread
  obtain ⟨env, r, package, hpackage, rfl⟩ := resolvePackage?_eq_some hresolve
  refine ⟨hwell, List.forall_mem_append.2 ⟨fun q hq => ?_, List.forall_mem_singleton.2 ?_⟩⟩
  · obtain ⟨old, hold, hq⟩ := hp.packages q hq
    exact ⟨old, hinfos ▸ hold.trans (List.sublist_append_left _ _), hq⟩
  · refine ⟨infos, hinfos ▸ List.sublist_append_right _ _, ?_⟩
    have hsame := ((ensures_resolveDecls_files env parsed _) {} trivial).2 r hpackage.run
    exact hpackage.files ▸ fileAt_of_sameFile hat hsame

/-- What holds of a program and is kept by loading a package is kept by loading packages. -/
theorem loadAll?_induct {I : Program → Prop}
    (hload : ∀ p p' path sources, I p → p.load? path sources = some p' → I p') {p p' : Program}
    {sources : List (String × List (String × String))} (hp : I p) (h : p.loadAll? sources = some p') :
    I p' := by
  induction sources generalizing p with
  | nil => cases h; exact hp
  | cons source rest ih =>
    obtain ⟨path, files⟩ := source
    obtain ⟨mid, hmid, hrest⟩ := Option.bind_eq_some_iff.1 h
    exact ih (hload p mid path files hp hmid) hrest

/-- All packages of a loaded program lie within their files. -/
theorem wellPlaced_of_loadAll? {p : Program} {sources : List (String × List (String × String))}
    (h : ({} : Program).loadAll? sources = some p) : p.WellPlaced :=
  loadAll?_induct (fun _ _ _ _ hp => hp.load) ⟨.empty, List.forall_mem_nil _⟩ h

end Program

end TaggedUnion
