import TaggedUnion.Program.Load
import TaggedUnion.Proofs.Program.Ensures
import TaggedUnion.Proofs.Syntax.Places

/-!
# Annotation moves nothing

Annotated expressions and declarations stand where they stood before: an identifier that is given a meaning
keeps its place (`ensures_annotate`). So a file that lies within its text still does when its names are
resolved (`ensures_annotateFile`).
-/

namespace TaggedUnion.Program

open Source TaggedUnion.Types Syntax

/-! ## Expressions -/

/-- An identifier as it is written, whatever it means. -/
def spelling (id : Ident) : Pos × String :=
  (id.pos, id.name)

/-- Two expressions start at one place, and embedded in a struct they give a field one name at one place. -/
structure SamePlaces (x y : Expr) : Prop where
  pos : y.pos = x.pos
  embedded : (embeddedIdent? y).map spelling = (embeddedIdent? x).map spelling

theorem SamePlaces.refl (x : Expr) : SamePlaces x x :=
  ⟨rfl, rfl⟩

theorem SamePlaces.trans {x y z : Expr} (h : SamePlaces x y) (h' : SamePlaces y z) : SamePlaces x z :=
  ⟨h'.pos.trans h.pos, h'.embedded.trans h.embedded⟩

/-- Two groups have the same names at the same places, the same tag, and their types at the same places. -/
structure SameGroup (g k : GroupHead × Expr) : Prop where
  names : k.1.names.map spelling = g.1.names.map spelling
  tag : k.1.tag = g.1.tag
  type : SamePlaces g.2 k.2

/-- Two types are at the same places; if they are structs, their fields are. -/
structure SameType (x y : Expr) : Prop extends SamePlaces x y where
  fields : ∀ pos lbrace groups rbrace, y = .struct pos lbrace groups rbrace →
    ∃ groups', x = .struct pos lbrace groups' rbrace ∧ List.Forall₂ SameGroup groups' groups

theorem samePlaces_annotateEmbedded (home : String) (t : Ty) (x : Expr) :
    SamePlaces x (annotateEmbedded home t x) := by
  fun_induction annotateEmbedded home t x with
  | case1 | case2 => exact ⟨rfl, rfl⟩
  | case3 pos x ih => exact ⟨rfl, ih.embedded⟩
  | case4 x lbrack args rbrack ih => exact ⟨ih.pos, ih.embedded⟩
  | case5 lparen x rparen ih => exact ⟨rfl, ih.embedded⟩
  | case6 => exact .refl _

variable (s : Site) (ask : Ask)

theorem ensures_annotateUse (id : Ident) :
    Ensures anyStore (fun id' => spelling id' = spelling id) (annotateUse s ask id) :=
  .skip fun _ => .pure rfl

mutual

/-- Annotation moves no type. -/
theorem ensures_annotate : ∀ x, Ensures anyStore (SameType x) (annotate s ask x)
  | .struct _ _ groups _ => (ensures_annotateFields groups).bind fun groups' h =>
      .pure ⟨⟨rfl, rfl⟩, by rintro _ _ _ _ ⟨⟩; exact ⟨groups, rfl, h⟩⟩
  | .missing _ | .literal _ _ _ => .pure ⟨.refl _, nofun⟩
  | .ident id => (ensures_annotateUse s ask id).bind fun _ h =>
      .pure ⟨⟨congrArg Prod.fst h, congrArg some h⟩, nofun⟩
  -- these name a field after a part of them
  | .selector x _ => .skip fun _ => (ensures_annotate x).bind fun _ h => .pure ⟨⟨h.pos, rfl⟩, nofun⟩
  | .index x _ _ _ => (ensures_annotate x).bind fun _ h => .skip fun _ =>
      .pure ⟨⟨h.pos, h.embedded⟩, nofun⟩
  | .star _ x | .paren _ x _ => (ensures_annotate x).bind fun _ h => .pure ⟨⟨rfl, h.embedded⟩, nofun⟩
  -- these start where their first part does
  | .slicing x _ _ _ | .assertion x _ _ _ | .call x _ _ _ _ | .keyed x _ _ | .binary x _ _ _ =>
    (ensures_annotate x).bind fun _ h => .skip fun _ => .pure ⟨⟨h.pos, rfl⟩, nofun⟩
  | .composite type _ _ _ => .skip fun _ => (ensures_annotate type).bind fun _ h => .skip fun _ =>
      .pure ⟨⟨h.pos, rfl⟩, nofun⟩
  | .closure type _ _ _ => (ensures_annotate type).bind fun _ h => .skip fun _ => .skip fun _ =>
      .pure ⟨⟨h.pos, rfl⟩, nofun⟩
  -- these start with a token of their own
  | .unary _ _ _ | .ellipsis _ _ | .slice _ _ | .chan _ _ _ _ | .interface _ _ _ _ =>
    .skip fun _ => .pure ⟨⟨rfl, rfl⟩, nofun⟩
  | .array _ _ _ | .map _ _ _ | .func _ _ _ _ _ _ _ => .skip fun _ => .skip fun _ =>
      .pure ⟨⟨rfl, rfl⟩, nofun⟩

theorem ensures_annotateFields : ∀ groups,
    Ensures anyStore (List.Forall₂ SameGroup groups) (annotateFields s ask groups)
  | [] => .pure .nil
  | (head, x) :: groups => by
    rw [annotateFields]
    refine .skip fun t => (ensures_annotate x).bind fun y hy =>
      (ensures_annotateFields groups).bind fun rest hrest => .pure (.cons ⟨?_, rfl, ?_⟩ hrest)
    · rw [List.map_map]
      rfl
    · split
      · exact hy.toSamePlaces.trans (samePlaces_annotateEmbedded _ _ _)
      · exact hy.toSamePlaces

end

/-! ## Declarations -/

/-- Two type declarations are at the same places and have the same doc comment. -/
structure SameSpec (spec spec' : TypeSpec) : Prop where
  name : spec'.name = spec.name
  doc : spec'.doc = spec.doc
  assign : spec'.assign = spec.assign
  type : SameType spec.type spec'.type

/-- Two declarations declare the same names; if they are of types, these are at the same places. -/
inductive SameDecl : Decl → Decl → Prop
  | types {doc : Option (List Comment)} {specs specs' : List TypeSpec} :
    List.Forall₂ SameSpec specs specs' → SameDecl (.types doc specs) (.types doc specs')
  | vars {specs specs' : List ValueSpec} :
    List.Forall₂ (fun spec spec' => spec'.names = spec.names) specs specs' →
      SameDecl (.vars specs) (.vars specs')
  | consts {specs specs' : List ValueSpec} :
    List.Forall₂ (fun spec spec' => spec'.names = spec.names) specs specs' →
      SameDecl (.consts specs) (.consts specs')
  | func (spec : FuncSpec) : SameDecl (.func spec) (.func spec)

/-- Two files differ in their declarations only, and there in the meanings of names. -/
structure SameFile (f f' : File) : Prop where
  eq : f' = { f with decls := f'.decls }
  decls : List.Forall₂ SameDecl f.decls f'.decls

theorem ensures_annotateDecl (d : Decl) : Ensures anyStore (SameDecl d) (annotateDecl s ask d) := by
  have hvalue : ∀ spec : ValueSpec, Ensures anyStore (fun spec' => spec'.names = spec.names)
      (annotateDecl.valueSpec s ask spec) := fun spec => .skip fun _ => .pure rfl
  cases d with
  | types doc specs =>
    refine (Ensures.mapM fun spec _ => ?_).bind fun specs' h => .pure (.types h)
    exact .skip fun params => (ensures_annotate _ ask spec.type).bind fun type h => .pure ⟨rfl, rfl, rfl, h⟩
  | vars specs => exact (Ensures.mapM fun spec _ => hvalue spec).bind fun _ h => .pure (.vars h)
  | consts specs => exact (Ensures.mapM fun spec _ => hvalue spec).bind fun _ h => .pure (.consts h)
  | func spec => exact .pure (.func spec)

theorem ensures_annotateFile (env : Env) (i : Nat) (f : File) :
    Ensures anyStore (SameFile f) (annotateFile env i f) :=
  (Ensures.mapM fun d _ => ensures_annotateDecl _ _ d).bind fun _ h => .pure ⟨rfl, h⟩

/-! ## Places -/

section

variable {P : Pos → Prop} {D : List Comment → Prop}

theorem SamePlaces.embeddedAt {x y : Expr} (h : SamePlaces x y) (hx : EmbeddedAt P x) :
    EmbeddedAt P y where
  start := h.pos ▸ hx.start
  embedded := by
    obtain ⟨id, hid, hpos⟩ := hx.embedded
    have hy := h.embedded
    rw [hid] at hy
    obtain ⟨id', hid', heq⟩ := Option.map_eq_some_iff.1 hy
    have hsame : id'.pos = id.pos := congrArg Prod.fst heq
    exact ⟨id', hid', hsame ▸ hpos⟩

theorem SameGroup.groupAt {g k : GroupHead × Expr} (h : SameGroup g k) (hg : GroupAt P g) :
    GroupAt P k where
  names := by
    have hall : ∀ spelt ∈ g.1.names.map spelling, P spelt.1 := List.forall_mem_map.2 hg.names
    rw [← h.names] at hall
    exact fun id hid => hall (spelling id) (List.mem_map_of_mem hid)
  type := h.type.pos ▸ hg.type
  embedded hnil := by
    refine h.type.embeddedAt (hg.embedded ?_)
    have hnames := h.names
    rwa [hnil, List.map_nil, eq_comm, List.map_eq_nil_iff] at hnames

theorem SameType.typeAt {x y : Expr} (h : SameType x y) (hx : TypeAt P x) : TypeAt P y where
  start := h.pos ▸ hx.start
  fields pos lbrace groups rbrace hy g hg := by
    obtain ⟨groups', rfl, hgroups⟩ := h.fields pos lbrace groups rbrace hy
    obtain ⟨g', hg', hsame⟩ := exists_related hgroups g hg
    exact hsame.groupAt (hx.fields pos lbrace groups' rbrace rfl g' hg')

theorem SameSpec.typeSpecAt {spec spec' : TypeSpec} (h : SameSpec spec spec')
    (hspec : TypeSpecAt P D spec) : TypeSpecAt P D spec' where
  name := h.name ▸ hspec.name
  type := h.type.typeAt hspec.type
  doc := h.doc ▸ hspec.doc

theorem SameDecl.declAt {d d' : Decl} (h : SameDecl d d') (hd : DeclAt P D d) : DeclAt P D d' := by
  cases h with
  | types h =>
    refine ⟨hd.1, fun spec' hspec' => ?_⟩
    obtain ⟨spec, hspec, hsame⟩ := exists_related h spec' hspec'
    exact hsame.typeSpecAt (hd.2 spec hspec)
  | vars _ | consts _ | func _ => trivial

end

theorem SameDecl.names_eq {d d' : Decl} (h : SameDecl d d') : d'.names = d.names := by
  cases h with
  | types h =>
    rw [Decl.names, Decl.names, List.map_eq_flatMap, List.map_eq_flatMap]
    exact flatMap_eq_of_related h fun spec spec' hsame => by rw [hsame.name]
  | vars h | consts h => exact flatMap_eq_of_related h fun _ _ hnames => hnames
  | func => rfl

/-- A file stays where it is when it is annotated. -/
theorem SameFile.fileAt {info : FileInfo} {f f' : File} (h : SameFile f f') (hf : FileAt info f) :
    FileAt info f' := by
  have hnames : f'.decls.flatMap Decl.names = f.decls.flatMap Decl.names :=
    flatMap_eq_of_related h.decls fun _ _ hsame => hsame.names_eq
  have hdecls : ∀ d ∈ f'.decls, DeclAt (Inside info) (· ∈ f.comments) d := by
    intro d' hd'
    obtain ⟨d, hd, hsame⟩ := exists_related h.decls d' hd'
    exact hsame.declAt (hf.decls d hd)
  rw [h.eq]
  exact { hf with
    decls := hdecls
    names := hnames ▸ hf.names
    namesOrdered := hnames ▸ hf.namesOrdered }

end TaggedUnion.Program
