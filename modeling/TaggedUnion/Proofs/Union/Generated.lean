import TaggedUnion.Proofs.Union.Directive
import TaggedUnion.Proofs.Union.Positions

/-!
# Objects of generated files

Whether a file was generated is asked in two ways. Requests and directives are looked for file by file; objects go
by the name of the file that their position has. In a loaded program every object of a package is declared in one
file of it (`exists_declaredIn`, `eq_of_declaredIn`), so the two can be compared. They agree unless a line mark
gives the place of the object to another file, and then exactly if that name is, or is not, the name of a generated
file just as it should be (`isGenerated_agrees_iff`). Without line marks they always agree
(`isGenerated_eq_of_no_marks`).
-/

namespace TaggedUnion

open Source TaggedUnion.Types Syntax Program

/-! ## Line marks -/

/-- The line mark that a place comes under. -/
def Source.FileSet.mark? (s : FileSet) (p : Pos) : Option LineMark :=
  (s.file? p).bind fun f => (f.marks.takeWhile (·.offset ≤ p - f.base)).getLast?

/-- A place is in the file that its line mark names, or else in the one that has it. -/
theorem position_file {s : FileSet} {info : FileInfo} {pos : Pos} (h : s.file? pos = some info) :
    (s.position pos).file = ((s.mark? pos).map (·.file)).getD info.name := by
  rw [FileSet.position, FileSet.mark?, h, Option.bind_some]
  dsimp only
  rw [FileInfo.position]
  cases (info.marks.takeWhile (·.offset ≤ pos - info.base)).getLast? <;> rfl

theorem mark?_eq_none {s : FileSet} {info : FileInfo} {pos : Pos} (h : s.file? pos = some info)
    (hmarks : info.marks = []) : s.mark? pos = none := by
  rw [FileSet.mark?, h, Option.bind_some, hmarks]
  rfl

/-! ## Declaring files -/

/-- An object is declared in a file: its name is one of those that the declarations of the file declare. -/
def Program.Object.DeclaredIn (o : Object) (f : File) : Prop :=
  ∃ id ∈ f.decls.flatMap Decl.names, id.pos = o.pos

namespace Program

/-- Every object of a loaded package is declared in a file of it. -/
theorem exists_declaredIn {sources : List (String × List (String × String))} {program : Program} {p : Package}
    {o : Object} (h : ({} : Program).loadAll? sources = some program) (hp : p ∈ program.packages)
    (ho : o ∈ p.objects) : ∃ f ∈ p.files, o.DeclaredIn f := by
  suffices hall : ∀ q ∈ program.packages, ∀ o ∈ q.objects, ∃ f ∈ q.files, o.DeclaredIn f from hall p hp o ho
  refine loadAll?_induct (I := fun program => ∀ q ∈ program.packages, ∀ o ∈ q.objects,
    ∃ f ∈ q.files, o.DeclaredIn f) ?_ (List.forall_mem_nil _) h
  intro program program' path files hold hload
  obtain ⟨⟨set, parsed⟩, -, hresolve⟩ := Option.bind_eq_some_iff.1 hload
  obtain ⟨env, r, package, hpackage, rfl⟩ := resolvePackage?_eq_some hresolve
  refine List.forall_mem_append.2 ⟨hold, List.forall_mem_singleton.2 fun o ho => ?_⟩
  -- the object is that of a declaration, and the files have kept the names when they were annotated
  obtain ⟨d, hd, -, hobject⟩ := hpackage.exists_objectOf ho
  have hname := (sublist_ownDecls parsed).subset (List.mem_map_of_mem hd)
  have hsame := ((ensures_resolveDecls_files env parsed _) {} trivial).2 r hpackage.run
  have hnames : r.files.flatMap (fun f => f.decls.flatMap Decl.names) =
      parsed.flatMap fun f => f.decls.flatMap Decl.names :=
    flatMap_eq_of_related hsame fun _ _ hfile =>
      flatMap_eq_of_related hfile.decls fun _ _ hdecl => hdecl.names_eq
  obtain ⟨f, hf, hid⟩ := List.mem_flatMap.1 (hnames ▸ hname)
  exact ⟨f, hpackage.files ▸ hf, d.name, hid, hobject.pos.symm⟩

section

variable {infos : List FileInfo} {files : List File} {o : Object} {f g : File}

/-- An object is in the file that declares it. -/
theorem Object.DeclaredIn.inside {info : FileInfo} (h : o.DeclaredIn f) (hf : FileAt info f) :
    Inside info o.pos := by
  obtain ⟨id, hid, hpos⟩ := h
  exact hpos ▸ hf.names id hid

/-- Among files that follow one another, no object is declared in two. -/
theorem eq_of_declaredIn (hinfos : Successive infos) (hfiles : List.Forall₂ FileAt infos files) (hf : f ∈ files)
    (hg : g ∈ files) (hof : o.DeclaredIn f) (hog : o.DeclaredIn g) : f = g := by
  have hordered := pairwise_flatMap_of_fileAt (g := fun f => (f.decls.flatMap Decl.names).map (f, ·))
    (p := fun x => x.2.pos)
    (fun info f hf => List.forall_mem_map.2 hf.names)
    (fun info f hf => List.pairwise_map.2 hf.namesOrdered) hinfos hfiles
  have hmem : ∀ f ∈ files, ∀ id ∈ f.decls.flatMap Decl.names,
      (f, id) ∈ files.flatMap fun f => (f.decls.flatMap Decl.names).map (f, ·) :=
    fun f hf id hid => List.mem_flatMap.2 ⟨f, hf, List.mem_map_of_mem hid⟩
  obtain ⟨id, hid, hpos⟩ := hof
  obtain ⟨id', hid', hpos'⟩ := hog
  exact (Prod.mk.inj (eq_of_pairwise_lt hordered (hmem f hf id hid) (hmem g hg id' hid')
    (hpos.trans hpos'.symm))).1

end

end Program

/-! ## Generated files -/

section

variable {s : Subject} {o : Object} {f : File}

theorem mem_generatedNames_iff (hnames : (s.sources.map (·.name)).Nodup) (hf : f ∈ s.sources) :
    f.name ∈ s.generatedNames ↔ isGeneratedFile f = true := by
  rw [Subject.generatedNames, List.mem_map]
  constructor
  · rintro ⟨g, hg, hname⟩
    obtain ⟨hg, hgenerated⟩ := List.mem_filter.1 hg
    exact List.inj_on_of_nodup_map hnames hg hf hname ▸ hgenerated
  · exact fun hgenerated => ⟨f, List.mem_filter.2 ⟨hf, hgenerated⟩, rfl⟩

/-- An object counts as generated if its position is in a generated file. -/
theorem isGenerated_iff_mem (hpos : o.pos ≠ 0) :
    s.isGenerated o = true ↔ (s.files.position o.pos).file ∈ s.generatedNames := by
  rw [Subject.isGenerated, Bool.and_eq_true, bne_iff_ne, List.contains_iff_mem]
  exact and_iff_right hpos

end

section

variable {program : Program} {p : Package} {o : Object} {f : File}

/-- Counting as generated agrees with the declaring file exactly if a line mark does not get in the way. -/
theorem isGenerated_agrees (hplaced : program.WellPlaced) (hp : p ∈ program.packages)
    (hnames : (p.files.map (·.name)).Nodup) (hf : f ∈ p.files) (hof : o.DeclaredIn f) :
    ((Subject.ofPackage program p).isGenerated o = true ↔ isGeneratedFile f = true) ↔
      ∀ mark, program.files.mark? o.pos = some mark →
        (mark.file ∈ (Subject.ofPackage program p).generatedNames ↔ isGeneratedFile f = true) := by
  obtain ⟨info, hinfo, hfile⟩ := hplaced.exists_fileAt hp hf
  have hinside := hof.inside hfile
  have hfound := hplaced.files.file?_eq_some hinfo hinside
  rw [isGenerated_iff_mem (hplaced.files.ne_zero hinfo hinside),
    show (Subject.ofPackage program p).files = program.files from rfl, position_file hfound]
  cases hmark : program.files.mark? o.pos with
  | none =>
    rw [Option.map_none, Option.getD_none, ← hfile.name]
    exact iff_of_true (mem_generatedNames_iff hnames hf) nofun
  | some mark => simp

/-- Where no file has line marks, objects count as generated just when the files that declare them were. -/
theorem isGenerated_eq_of_no_marks (hplaced : program.WellPlaced) (hp : p ∈ program.packages)
    (hnames : (p.files.map (·.name)).Nodup) (hmarks : ∀ info ∈ program.files.files, info.marks = [])
    (hf : f ∈ p.files) (hof : o.DeclaredIn f) :
    (Subject.ofPackage program p).isGenerated o = isGeneratedFile f := by
  obtain ⟨info, hinfo, hfile⟩ := hplaced.exists_fileAt hp hf
  have hnone := mark?_eq_none (hplaced.files.file?_eq_some hinfo (hof.inside hfile)) (hmarks info hinfo)
  refine Bool.eq_iff_iff.2 ((isGenerated_agrees hplaced hp hnames hf hof).2 fun mark hmark => ?_)
  cases hnone.symm.trans hmark

end

/-- An object of a package is declared in one file of it. It counts as generated just when that file is passed over
for requests and directives, exactly if its line mark, where it comes under one, names a generated file just when
that file is one. -/
theorem isGenerated_agrees_iff {sources : List (String × List (String × String))} {program : Program}
    {p : Package} {o : Object} (h : ({} : Program).loadAll? sources = some program) (hp : p ∈ program.packages)
    (hnames : (p.files.map (·.name)).Nodup) (ho : o ∈ p.objects) :
    ∃ f, (∀ g, g ∈ p.files ∧ o.DeclaredIn g ↔ g = f) ∧
      (isGeneratedFile f = true ↔ f ∉ (Subject.ofPackage program p).ownSources) ∧
      (((Subject.ofPackage program p).isGenerated o = true ↔ isGeneratedFile f = true) ↔
        ∀ mark, program.files.mark? o.pos = some mark →
          (mark.file ∈ (Subject.ofPackage program p).generatedNames ↔ isGeneratedFile f = true)) := by
  have hplaced := wellPlaced_of_loadAll? h
  obtain ⟨infos, hsub, hat⟩ := hplaced.packages p hp
  obtain ⟨f, hf, hof⟩ := exists_declaredIn h hp ho
  refine ⟨f, fun g => ⟨fun hg => ?_, fun hg => hg ▸ ⟨hf, hof⟩⟩, ?_,
    isGenerated_agrees hplaced hp hnames hf hof⟩
  · exact eq_of_declaredIn (hplaced.files.apart.sublist hsub) hat hg.1 hf hg.2 hof
  · rw [Subject.ownSources, List.mem_filter, Bool.not_eq_true', ← Bool.not_eq_true, not_and, not_not]
    exact ⟨fun hgenerated _ => hgenerated, fun hgenerated => hgenerated hf⟩

/-- A function of a generated file that comes under a line mark does not count as generated. -/
theorem markedFunction_disagrees :
    let sources := [("p", [("p_gen.go", "// Code generated by github.com/sublee/enumorph. DO NOT EDIT.\n\n" ++
      "package p\n\n//line :1\nfunc Old() \x7b\x7d\n")])]
    ∃ program p o f, ({} : Program).loadAll? sources = some program ∧ p ∈ program.packages ∧
      (p.files.map (·.name)).Nodup ∧ o ∈ p.objects ∧ o.name = "Old" ∧
      (∀ g, g ∈ p.files ∧ o.DeclaredIn g ↔ g = f) ∧ f ∉ (Subject.ofPackage program p).ownSources ∧
      (Subject.ofPackage program p).isGenerated o = false := by
  intro sources
  have hshown : (({} : Program).loadAll? sources).map (fun program => program.packages.map fun p =>
      (p.files.map fun f => (f.name, isGeneratedFile f),
        p.objects.map fun o => (o.name, (program.files.mark? o.pos).map (·.file)))) =
      some [([("p_gen.go", true)], [("Old", some "")])] := by
    rw [loadAll?_cons, String.toList_append, String.toList_ofList, String.toList_ofList]
    decide +kernel
  obtain ⟨program, hload, hprogram⟩ := Option.map_eq_some_iff.1 hshown
  obtain ⟨p, rest, hpackages, hp, -⟩ := List.map_eq_cons_iff.1 hprogram
  obtain ⟨hfiles, hobjects⟩ := Prod.mk.inj hp
  obtain ⟨f, fs, hfs, hf, hnil⟩ := List.map_eq_cons_iff.1 hfiles
  obtain ⟨hfname, hgenerated⟩ := Prod.mk.inj hf
  obtain ⟨o, os, hos, ho, -⟩ := List.map_eq_cons_iff.1 hobjects
  obtain ⟨hname, hmark⟩ := Prod.mk.inj ho
  obtain ⟨mark, hmark, hfile⟩ := Option.map_eq_some_iff.1 hmark
  rw [List.map_eq_nil_iff.1 hnil] at hfs
  have hmem : p ∈ program.packages := hpackages ▸ List.mem_cons_self
  have hobject : o ∈ p.objects := hos ▸ List.mem_cons_self
  have hnames : (p.files.map (·.name)).Nodup := hfs ▸ List.nodup_singleton _
  obtain ⟨g, hunique, hown, hagrees⟩ := isGenerated_agrees_iff hload hmem hnames hobject
  obtain rfl : g = f := List.mem_singleton.1 (hfs ▸ ((hunique g).2 rfl).1)
  refine ⟨program, p, o, g, hload, hmem, hnames, hobject, hname, hunique, hown.1 hgenerated, ?_⟩
  -- the mark names no generated file
  have hother : mark.file ∉ (Subject.ofPackage program p).generatedNames := by
    simp [Subject.generatedNames, Subject.ofPackage, hfs, hgenerated, hfname, hfile]
  refine Bool.eq_false_iff.2 fun hobject => hother ?_
  exact (hagrees.1 (iff_of_true hobject hgenerated) mark hmark).2 hgenerated

end TaggedUnion
