import Mathlib.Data.List.Flatten
import Mathlib.Data.List.Nodup
import TaggedUnion.Proofs.Program.Characters
import TaggedUnion.Proofs.Program.Reading
import TaggedUnion.Union.Fault

/-!
# Directives are used or reported

A directive asks for conversions where it is the first one in the doc comment of a type declaration of its file,
or of one of the specifications in it; anywhere else it is reported. Requests and reports are found
separately, the ones by the declarations and the others by the comments of a file, but they agree
(`used_or_reported`): each directive outside of generated files is in place or reported once, and what is in
place makes a request, unless each type of its group has a directive of its own.
-/

namespace TaggedUnion

open Source Syntax Program

/-- A comment is the first directive in the doc comment of a type declaration of a file, or of a specification
in one. What functions declare in their bodies is no declaration of the file. -/
def InPlace (f : File) (c : Comment) : Prop :=
  ∃ doc specs, Decl.types doc specs ∈ f.decls ∧
    (directive? doc = some c ∨ ∃ spec ∈ specs, directive? spec.doc = some c)

/-! ## Doc comments -/

theorem isDirective_of_directive? {doc : Option (List Comment)} {c : Comment}
    (h : directive? doc = some c) : isDirective c = true :=
  List.find?_some h

/-- The directive of a doc comment is one of its comments. -/
theorem exists_mem_of_directive? {doc : Option (List Comment)} {c : Comment}
    (h : directive? doc = some c) : ∃ g, doc = some g ∧ c ∈ g := by
  cases doc with
  | none => cases h
  | some g => exact ⟨g, rfl, List.mem_of_find?_eq_some h⟩

theorem inPlace_iff {f : File} {c : Comment} : InPlace f c ↔ c ∈ f.decls.flatMap placed := by
  rw [List.mem_flatMap]
  constructor
  · rintro ⟨doc, specs, hdecl, hc⟩
    refine ⟨_, hdecl, ?_⟩
    rw [placed, List.mem_append, Option.mem_toList, List.mem_filterMap]
    exact hc
  · rintro ⟨d, hd, hc⟩
    cases d with
    | types doc specs =>
      rw [placed, List.mem_append, Option.mem_toList, List.mem_filterMap] at hc
      exact ⟨doc, specs, hd, hc⟩
    | vars _ | consts _ | func _ => cases hc

/-- The requests of a declaration have directives that are in place. -/
theorem inPlace_of_mem_declRequests {f : File} {d : Decl} {r : Request} (hd : d ∈ f.decls)
    (hr : r ∈ declRequests d) : InPlace f r.directive := by
  cases d with
  | types doc specs =>
    obtain ⟨spec, hspec, hr⟩ := List.mem_filterMap.1 hr
    obtain ⟨c, hc, rfl⟩ := Option.map_eq_some_iff.1 hr
    refine ⟨doc, specs, hd, ?_⟩
    rcases Option.or_eq_some_iff.1 hc with hown | ⟨-, hgroup⟩
    · exact .inr ⟨spec, hspec, hown⟩
    · exact .inl hgroup
  | vars _ | consts _ | func _ => cases hr

/-! ## Files -/

section

variable {info : FileInfo} {f : File}

/-- A directive that is in place is a comment of its file. -/
theorem mem_comments_of_inPlace (hf : FileAt info f) {c : Comment} (h : InPlace f c) :
    c ∈ f.comments.flatten ∧ isDirective c = true := by
  obtain ⟨doc, specs, hdecl, hdoc | ⟨spec, hspec, hdoc⟩⟩ := h
  · obtain ⟨g, hg, hc⟩ := exists_mem_of_directive? hdoc
    exact ⟨List.mem_flatten.2 ⟨g, (hf.decls _ hdecl).1 g hg, hc⟩, isDirective_of_directive? hdoc⟩
  · obtain ⟨g, hg, hc⟩ := exists_mem_of_directive? hdoc
    have hgroup := ((hf.decls _ hdecl).2 spec hspec).doc g hg
    exact ⟨List.mem_flatten.2 ⟨g, hgroup, hc⟩, isDirective_of_directive? hdoc⟩

/-- The comments of a file are told apart by their places. -/
theorem eq_of_pos_eq (hf : FileAt info f) {c c' : Comment} (hc : c ∈ f.comments.flatten)
    (hc' : c' ∈ f.comments.flatten) (h : c.pos = c'.pos) : c = c' :=
  eq_of_pairwise_lt hf.commentsOrdered hc hc' h

/-- The misplaced directives of a file are its directives that are not in place. -/
theorem mem_misplacedDirectives_iff (hf : FileAt info f) {c : Comment} :
    c ∈ misplacedDirectives f ↔ c ∈ f.comments.flatten ∧ isDirective c = true ∧ ¬ InPlace f c := by
  have hused : c ∈ f.comments.flatten →
      (c.pos ∈ (f.decls.flatMap placed).map (·.pos) ↔ InPlace f c) := by
    intro hc
    rw [List.mem_map, inPlace_iff]
    constructor
    · rintro ⟨c', hc', hpos⟩
      have hmem := (mem_comments_of_inPlace hf (inPlace_iff.2 hc')).1
      exact eq_of_pos_eq hf hmem hc hpos ▸ hc'
    · exact fun hplaced => ⟨c, hplaced, rfl⟩
  rw [misplacedDirectives, List.mem_filter, List.mem_filter, and_assoc]
  refine and_congr_right fun hc => and_congr_right fun _ => ?_
  rw [Bool.not_eq_true', ← not_iff_not, not_not, Bool.not_eq_false, List.contains_iff_mem]
  exact hused hc

end

/-! ## Packages -/

/-- What becomes of the directives in the files of a package that were not generated. -/
structure Subject.DirectivesSettled (s : Subject) : Prop where
  /-- A directive that is not in place is reported exactly once, with its span. -/
  reported : ∀ f ∈ s.ownSources, ∀ c ∈ f.comments.flatten, isDirective c = true → ¬ InPlace f c →
    ⟨.misplaced, c.pos, c.stop⟩ ∈ s.misplacedFindings ∧
      (s.misplacedFindings.map (·.pos)).count c.pos = 1
  /-- A directive that is in place is not reported. -/
  notReported : ∀ f ∈ s.ownSources, ∀ c ∈ f.comments.flatten, InPlace f c →
    c.pos ∉ s.misplacedFindings.map (·.pos)
  /-- Nothing else is reported. -/
  nothingElse : ∀ x ∈ s.misplacedFindings, ∃ f ∈ s.ownSources, ∃ c ∈ f.comments.flatten,
    isDirective c = true ∧ ¬ InPlace f c ∧ x = ⟨.misplaced, c.pos, c.stop⟩
  /-- Reports come in the order of the source. -/
  inOrder : (s.misplacedFindings.map (·.pos)).Pairwise (· < ·)
  /-- What asks for conversions has a directive that is not reported. -/
  requested : ∀ r ∈ s.requests, isDirective r.directive = true ∧
    (∃ f ∈ s.ownSources, r.directive ∈ f.comments.flatten) ∧
    r.directive.pos ∉ s.misplacedFindings.map (·.pos)
  /-- A directive that is not reported asks for conversions, unless it is that of a group in which all types
  have their own. -/
  used : ∀ f ∈ s.ownSources, ∀ c ∈ f.comments.flatten, isDirective c = true →
    c.pos ∉ s.misplacedFindings.map (·.pos) → (∃ r ∈ s.requests, r.directive = c) ∨
      ∃ doc specs, Decl.types doc specs ∈ f.decls ∧ directive? doc = some c ∧
        ∀ spec ∈ specs, (directive? spec.doc).isSome = true

section

variable {s : Subject} {infos : List FileInfo}

/-- The comments of a package, each with its file, are told apart by their places. -/
theorem eq_of_comment_pos_eq (hinfos : Successive infos)
    (hs : List.Forall₂ FileAt infos s.sources) {f f' : File} (hf : f ∈ s.sources) (hf' : f' ∈ s.sources)
    {c c' : Comment} (hc : c ∈ f.comments.flatten) (hc' : c' ∈ f'.comments.flatten)
    (hpos : c.pos = c'.pos) : f = f' ∧ c = c' := by
  have hordered := pairwise_flatMap_of_fileAt (g := fun f => f.comments.flatten.map (f, ·))
    (p := fun x => x.2.pos)
    (fun info f hf => List.forall_mem_map.2 hf.comments)
    (fun info f hf => List.pairwise_map.2 hf.commentsOrdered) hinfos hs
  have hmem : ∀ f ∈ s.sources, ∀ c ∈ f.comments.flatten,
      (f, c) ∈ s.sources.flatMap fun f => f.comments.flatten.map (f, ·) :=
    fun f hf c hc => List.mem_flatMap.2 ⟨f, hf, List.mem_map_of_mem hc⟩
  exact Prod.mk.inj (eq_of_pairwise_lt hordered (hmem f hf c hc) (hmem f' hf' c' hc') hpos)

/-- The reports of a package are its directives that are not in place. -/
theorem mem_misplacedFindings_iff (hs : List.Forall₂ FileAt infos s.sources) {x : Finding} :
    x ∈ s.misplacedFindings ↔ ∃ f ∈ s.ownSources, ∃ c ∈ f.comments.flatten,
      isDirective c = true ∧ ¬ InPlace f c ∧ x = ⟨.misplaced, c.pos, c.stop⟩ := by
  have hfile : ∀ f ∈ s.ownSources, ∀ c, c ∈ misplacedDirectives f ↔
      c ∈ f.comments.flatten ∧ isDirective c = true ∧ ¬ InPlace f c := by
    intro f hf c
    obtain ⟨info, -, hat⟩ := exists_related hs f (List.mem_of_mem_filter hf)
    exact mem_misplacedDirectives_iff hat
  simp only [Subject.misplacedFindings, Subject.misplaced, List.mem_map, List.mem_flatMap]
  constructor
  · rintro ⟨c, ⟨f, hf, hc⟩, rfl⟩
    obtain ⟨hmem, hdirective, hplace⟩ := (hfile f hf c).1 hc
    exact ⟨f, hf, c, hmem, hdirective, hplace, rfl⟩
  · rintro ⟨f, hf, c, hmem, hdirective, hplace, rfl⟩
    exact ⟨c, ⟨f, hf, (hfile f hf c).2 ⟨hmem, hdirective, hplace⟩⟩, rfl⟩

theorem pairwise_misplacedFindings (hinfos : Successive infos)
    (hs : List.Forall₂ FileAt infos s.sources) :
    (s.misplacedFindings.map (·.pos)).Pairwise (· < ·) := by
  have hordered := pairwise_flatMap_of_fileAt (g := fun f => f.comments.flatten) (p := (·.pos))
    (fun info f hf => hf.comments) (fun info f hf => hf.commentsOrdered) hinfos hs
  have hsub : s.misplaced.Sublist (s.sources.flatMap fun f => f.comments.flatten) :=
    (List.filter_sublist.flatMap _).trans
      (List.Sublist.flatMap_right _ fun f _ => List.filter_sublist.trans List.filter_sublist)
  rw [Subject.misplacedFindings, List.map_map, List.pairwise_map]
  exact hordered.sublist hsub

/-- A directive in place makes a request, or the types of its group have directives of their own. -/
theorem request_of_inPlace {f : File} {c : Comment} (h : InPlace f c) :
    (∃ r ∈ f.decls.flatMap declRequests, r.directive = c) ∨
      ∃ doc specs, Decl.types doc specs ∈ f.decls ∧ directive? doc = some c ∧
        ∀ spec ∈ specs, (directive? spec.doc).isSome = true := by
  obtain ⟨doc, specs, hdecl, hc⟩ := h
  have hrequest : ∀ spec ∈ specs, (directive? spec.doc).or (directive? doc) = some c →
      ∃ r ∈ f.decls.flatMap declRequests, r.directive = c := fun spec hspec hor =>
    ⟨⟨spec, c⟩, List.mem_flatMap.2 ⟨_, hdecl, List.mem_filterMap.2 ⟨spec, hspec, by rw [hor]; rfl⟩⟩, rfl⟩
  obtain hdoc | ⟨spec, hspec, hdoc⟩ := hc
  · by_cases hall : ∀ spec ∈ specs, (directive? spec.doc).isSome = true
    · exact .inr ⟨doc, specs, hdecl, hdoc, hall⟩
    · push Not at hall
      obtain ⟨spec, hspec, hnone⟩ := hall
      refine .inl (hrequest spec hspec ?_)
      rw [Option.not_isSome_iff_eq_none.1 hnone, Option.none_or, hdoc]
  · exact .inl (hrequest spec hspec (by rw [hdoc, Option.some_or]))

/-- Directives are settled wherever the files of a package lie one after the other. -/
theorem directivesSettled_of_fileAt (hinfos : Successive infos)
    (hs : List.Forall₂ FileAt infos s.sources) : s.DirectivesSettled := by
  have hown : ∀ f ∈ s.ownSources, f ∈ s.sources := fun f hf => List.mem_of_mem_filter hf
  have hordered := pairwise_misplacedFindings hinfos hs
  have hplaced : ∀ f ∈ s.ownSources, ∀ c ∈ f.comments.flatten, InPlace f c →
      c.pos ∉ s.misplacedFindings.map (·.pos) := by
    intro f hf c hc hplace hmem
    obtain ⟨x, hx, hpos⟩ := List.mem_map.1 hmem
    obtain ⟨f', hf', c', hc', -, hnot, rfl⟩ := (mem_misplacedFindings_iff hs).1 hx
    obtain ⟨rfl, rfl⟩ := eq_of_comment_pos_eq hinfos hs (hown f' hf') (hown f hf) hc' hc hpos
    exact hnot hplace
  refine ⟨?_, hplaced, ?_, hordered, ?_, ?_⟩
  · intro f hf c hc hdirective hnot
    have hmem := (mem_misplacedFindings_iff hs).2 ⟨f, hf, c, hc, hdirective, hnot, rfl⟩
    refine ⟨hmem, List.count_eq_one_of_mem (hordered.imp Nat.ne_of_lt) ?_⟩
    exact List.mem_map_of_mem (f := fun x : Finding => x.pos) hmem
  · exact fun x hx => (mem_misplacedFindings_iff hs).1 hx
  · intro r hr
    obtain ⟨f, hf, hr⟩ := List.mem_flatMap.1 hr
    obtain ⟨d, hd, hr⟩ := List.mem_flatMap.1 hr
    obtain ⟨info, -, hat⟩ := exists_related hs f (hown f hf)
    have hplace := inPlace_of_mem_declRequests hd hr
    obtain ⟨hmem, hdirective⟩ := mem_comments_of_inPlace hat hplace
    exact ⟨hdirective, ⟨f, hf, hmem⟩, hplaced f hf _ hmem hplace⟩
  · intro f hf c hc hdirective hnot
    have hplace : InPlace f c := by
      by_contra hmisplaced
      have hmem := (mem_misplacedFindings_iff hs).2 ⟨f, hf, c, hc, hdirective, hmisplaced, rfl⟩
      exact hnot (List.mem_map_of_mem (f := fun x : Finding => x.pos) hmem)
    refine (request_of_inPlace hplace).imp_left ?_
    rintro ⟨r, hr, hc⟩
    exact ⟨r, List.mem_flatMap.2 ⟨f, hf, hr⟩, hc⟩

end

/-- In each package of a loaded program, every directive is used or reported, and none is both. -/
theorem used_or_reported {sources : List (String × List (String × String))} {program : Program}
    {p : Package} (h : ({} : Program).loadAll? sources = some program) (hp : p ∈ program.packages) :
    (Subject.ofPackage program p).DirectivesSettled := by
  have hplaced := wellPlaced_of_loadAll? h
  obtain ⟨infos, hsub, hat⟩ := hplaced.packages p hp
  exact directivesSettled_of_fileAt (hplaced.files.apart.sublist hsub) hat

/-- Six directives: on a function, in the body of that function, two on a group, one on a type of the group
that has its own, and one behind a type. The first, second, fourth and last of them are reported. -/
theorem sixDirectives_settled :
    let sources := [("p", [("a.go", "package p\n\n//enumorph:derive\nfunc f() \x7b\n\t//enumorph:derive\n" ++
      "\ttype T int\n\x7d\n\n//enumorph:derive\n//enumorph:derive\ntype (\n\t//enumorph:derive\n" ++
      "\tA int\n\tB int //enumorph:derive\n)\n")])]
    ∃ program p, ({} : Program).loadAll? sources = some program ∧ p ∈ program.packages ∧
      (Subject.ofPackage program p).DirectivesSettled ∧
      (Subject.ofPackage program p).misplacedFindings.map (·.pos) = [12, 42, 93, 151] := by
  intro sources
  have hfindings : ((({} : Program).loadAll? sources).map fun program => program.packages.map fun p =>
      (Subject.ofPackage program p).misplacedFindings.map (·.pos)) = some [[12, 42, 93, 151]] := by
    rw [loadAll?_cons, String.toList_append, String.toList_append, String.toList_ofList, String.toList_ofList,
      String.toList_ofList]
    decide +kernel
  obtain ⟨program, hload, hprogram⟩ := Option.map_eq_some_iff.1 hfindings
  obtain ⟨p, rest, hpackages, hp, -⟩ := List.map_eq_cons_iff.1 hprogram
  have hmem : p ∈ program.packages := hpackages ▸ List.mem_cons_self
  exact ⟨program, p, hload, hmem, used_or_reported hload hmem, hp⟩

end TaggedUnion
