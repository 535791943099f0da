import TaggedUnion.Proofs.Program.Characters
import TaggedUnion.Proofs.Union.Origin
import TaggedUnion.Proofs.Union.Rearranged

/-!
# Acceptance does not depend on the order

A package in another order has the same files, each with the same declarations, and these write out the same
fields. But the files, the declarations of a file or of a group, and the fields of a struct stand in any order, so
all of them can be at other places, and files have the names of their order (`Reordered`). What stands for what is
told by a correspondence. It is faithful if places and names of files are the same or not as those that stand for them
are, and types are identical or not as those that stand for them are (`Correspondence.Faithful`).

So directives are misplaced or not, declarations make unions with the same variants in another order
(`SameSpec.union`), and the package is accepted iff the other one is (`Reordered.acceptable_iff`): what is required
of a package is required of all its variants, of any two of their types, and of any two of their names.
-/

namespace TaggedUnion

open Source TaggedUnion.Types Syntax Program

/-! ## Packages in another order -/

/-- What stands for what in a package in another order. -/
structure Correspondence where
  place : Pos → Pos → Prop
  file : String → String → Prop
  type : Ty → Ty → Prop

section Relations

variable (M : Correspondence)

/-- Comments that stand for each other. -/
@[mk_iff] structure SameComment (c c' : Comment) : Prop where
  text : c'.text = c.text
  pos : M.place c.pos c'.pos

/-- Shapes whose payload types stand for each other. -/
inductive SameShape : Shape → Shape → Prop
  | unit : SameShape .unit .unit
  | single (accessor : Accessor) {t t' : Ty} :
    M.type t t' → SameShape (.single accessor t) (.single accessor t')
  | multi (n : Nat) : SameShape (.multi n) (.multi n)

/-- Fields with the same name and struct tag, whose types stand for each other. -/
@[mk_iff] structure SameField (f f' : WrittenField) : Prop where
  name : f'.head.name = f.head.name
  tag : f'.head.tag = f.head.tag
  type : M.type f.type f'.type

/-- Type declarations with the same fields in any order. -/
@[mk_iff] structure SameSpec (s s' : Subject) (spec spec' : TypeSpec) : Prop where
  doc : Option.Rel (List.Forall₂ (SameComment M)) spec.doc spec'.doc
  name : spec'.name.name = spec.name.name
  isAlias : spec'.isAlias = spec.isAlias
  fields : Rearranged (SameField M) (s.fieldsOf spec) (s'.fieldsOf spec')

/-- Declarations with the type declarations of a group in any order. What other declarations declare is told
by the objects of the package. -/
inductive SameDecl (s s' : Subject) : Decl → Decl → Prop
  | types {doc doc' : Option (List Comment)} {specs specs' : List TypeSpec} :
    Option.Rel (List.Forall₂ (SameComment M)) doc doc' → Rearranged (SameSpec M s s') specs specs' →
      SameDecl s s' (.types doc specs) (.types doc' specs')
  | vars (specs specs' : List ValueSpec) : SameDecl s s' (.vars specs) (.vars specs')
  | consts (specs specs' : List ValueSpec) : SameDecl s s' (.consts specs) (.consts specs')
  | func (spec spec' : FuncSpec) : SameDecl s s' (.func spec) (.func spec')

/-- The comments of a file before its package clause. -/
def Syntax.File.header (f : File) : List (List Comment) :=
  f.comments.takeWhile (startsBefore f.clause)

/-- Files with the same comments before the package clause, and with their declarations in any order. -/
@[mk_iff] structure SameFile (s s' : Subject) (f f' : File) : Prop where
  name : M.file f.name f'.name
  header : List.Forall₂ (List.Forall₂ (SameComment M)) f.header f'.header
  comments : Rearranged (SameComment M) f.comments.flatten f'.comments.flatten
  decls : Rearranged (SameDecl M s s') f.decls f'.decls

/-- Objects of one name in files that stand for each other. -/
@[mk_iff] structure SameObject (files files' : FileSet) (o o' : Object) : Prop where
  name : o'.name = o.name
  placed : o'.pos = 0 ↔ o.pos = 0
  file : M.file (files.position o.pos).file (files'.position o'.pos).file

/-- What stands for each other is told apart in the same way. -/
structure Correspondence.Faithful (table table' : TypeTable) : Prop where
  places : ∀ {p p' q q' : Pos}, M.place p p' → M.place q q' → (p = q ↔ p' = q')
  files : ∀ {a a' b b' : String}, M.file a a' → M.file b b' → (a = b ↔ a' = b')
  identical : ∀ {t t' u u' : Ty}, M.type t t' → M.type u u' →
    t'.identical table' u' = t.identical table u
  isString : ∀ {t t' : Ty}, M.type t t' → t'.isString table' = t.isString table
  shape : ∀ {t t' : Ty}, M.type t t' → SameShape M (Shape.ofType table t) (Shape.ofType table' t')

/-- Packages with their files in any order. -/
@[mk_iff] structure Reordered (s s' : Subject) : Prop where
  faithful : M.Faithful s.info.table s'.info.table
  objects : Rearranged (SameObject M s.files s'.files) s.objects s'.objects
  sources : Rearranged (SameFile M s s') s.sources s'.sources

/-- Variants with the same name and option, whose payload types stand for each other. -/
structure SameVariant (v v' : Variant) : Prop where
  name : v'.name = v.name
  option : v'.option = v.option
  shape : SameShape M v.shape v'.shape

/-- Unions with the same variants in any order. -/
structure SameUnion (u u' : Union) : Prop where
  name : u'.name = u.name
  variants : Rearranged (SameVariant M) u.variants u'.variants

end Relations

variable {M : Correspondence} {s s' : Subject}

/-! ### Correspondences that are written out -/

/-- What stands for what, pair by pair. -/
def Correspondence.ofPairs (places : List (Pos × Pos)) (files : List (String × String)) (types : List (Ty × Ty)) :
    Correspondence where
  place p p' := (p, p') ∈ places
  file a a' := (a, a') ∈ files
  type t t' := (t, t') ∈ types

/-- Everything stands for itself. -/
def Correspondence.same : Correspondence where
  place := Eq
  file := Eq
  type := Eq

section Decidable

variable [∀ p p', Decidable (M.place p p')] [∀ a a', Decidable (M.file a a')] [∀ t t', Decidable (M.type t t')]

instance (c c' : Comment) : Decidable (SameComment M c c') :=
  decidable_of_iff _ (sameComment_iff M c c').symm

instance : ∀ shape shape' : Shape, Decidable (SameShape M shape shape')
  | .unit, .unit => .isTrue .unit
  | .single a t, .single a' t' =>
    decidable_of_iff (a' = a ∧ M.type t t') ⟨fun ⟨h, ht⟩ => h ▸ .single a ht, fun | .single _ ht => ⟨rfl, ht⟩⟩
  | .multi n, .multi n' => decidable_of_iff (n' = n) ⟨fun h => by rw [h]; exact .multi n, fun | .multi _ => rfl⟩
  | .unit, .single _ _ | .unit, .multi _ | .single _ _, .unit | .single _ _, .multi _ | .multi _, .unit
  | .multi _, .single _ _ => .isFalse nofun

instance (f f' : WrittenField) : Decidable (SameField M f f') :=
  decidable_of_iff _ (sameField_iff M f f').symm

instance (spec spec' : TypeSpec) : Decidable (SameSpec M s s' spec spec') :=
  decidable_of_iff _ (sameSpec_iff M s s' spec spec').symm

instance : ∀ d d' : Decl, Decidable (SameDecl M s s' d d')
  | .types doc specs, .types doc' specs' =>
    decidable_of_iff (Option.Rel (List.Forall₂ (SameComment M)) doc doc' ∧ Rearranged (SameSpec M s s') specs specs')
      ⟨fun ⟨h, h'⟩ => .types h h', fun | .types h h' => ⟨h, h'⟩⟩
  | .vars specs, .vars specs' => .isTrue (.vars specs specs')
  | .consts specs, .consts specs' => .isTrue (.consts specs specs')
  | .func spec, .func spec' => .isTrue (.func spec spec')
  | .types _ _, .vars _ | .types _ _, .consts _ | .types _ _, .func _ | .vars _, .types _ _ | .vars _, .consts _
  | .vars _, .func _ | .consts _, .types _ _ | .consts _, .vars _ | .consts _, .func _ | .func _, .types _ _
  | .func _, .vars _ | .func _, .consts _ => .isFalse nofun

instance (f f' : File) : Decidable (SameFile M s s' f f') :=
  decidable_of_iff _ (sameFile_iff M s s' f f').symm

instance (files files' : FileSet) (o o' : Object) : Decidable (SameObject M files files' o o') :=
  decidable_of_iff _ (sameObject_iff M files files' o o').symm

end Decidable

section Pairs

variable {places : List (Pos × Pos)} {files : List (String × String)} {types : List (Ty × Ty)}

theorem Correspondence.faithful_ofPairs_iff {table table' : TypeTable} :
    (Correspondence.ofPairs places files types).Faithful table table' ↔
      (∀ x ∈ places, ∀ y ∈ places, (x.1 = y.1 ↔ x.2 = y.2)) ∧
      (∀ x ∈ files, ∀ y ∈ files, (x.1 = y.1 ↔ x.2 = y.2)) ∧
      ∀ x ∈ types, (∀ y ∈ types, x.2.identical table' y.2 = x.1.identical table y.1) ∧
        x.2.isString table' = x.1.isString table ∧
          SameShape (.ofPairs places files types) (Shape.ofType table x.1) (Shape.ofType table' x.2) :=
  ⟨fun h => ⟨fun _ hx _ hy => h.places hx hy, fun _ hx _ hy => h.files hx hy, fun _ hx =>
      ⟨fun _ hy => h.identical hx hy, h.isString hx, h.shape hx⟩⟩,
    fun ⟨hplaces, hfiles, htypes⟩ => ⟨fun hp hq => hplaces _ hp _ hq, fun ha hb => hfiles _ ha _ hb,
      fun ht hu => (htypes _ ht).1 _ hu, fun ht => (htypes _ ht).2.1, fun ht => (htypes _ ht).2.2⟩⟩

instance (p p' : Pos) : Decidable ((Correspondence.ofPairs places files types).place p p') :=
  inferInstanceAs (Decidable ((p, p') ∈ places))

instance (a a' : String) : Decidable ((Correspondence.ofPairs places files types).file a a') :=
  inferInstanceAs (Decidable ((a, a') ∈ files))

instance (t t' : Ty) : Decidable ((Correspondence.ofPairs places files types).type t t') :=
  inferInstanceAs (Decidable ((t, t') ∈ types))

instance (table table' : TypeTable) : Decidable ((Correspondence.ofPairs places files types).Faithful table table') :=
  decidable_of_iff _ Correspondence.faithful_ofPairs_iff.symm

/-- Of finitely many pairs it can be told whether two packages are the same up to them. -/
instance (s s' : Subject) : Decidable (Reordered (.ofPairs places files types) s s') :=
  decidable_of_iff _ (reordered_iff _ s s').symm

end Pairs

/-! ### Fields of a union -/

section Fields

variable {table table' : TypeTable} {fields fields' : List WrittenField} (hM : M.Faithful table table')
  (h : Rearranged (SameField M) fields fields')

theorem SameField.isTag_eq {f f' : WrittenField} (h : SameField M f f') : f.isTag = f'.isTag := by
  rw [WrittenField.isTag, WrittenField.isTag, fieldOption, fieldOption, h.tag]

theorem SameField.isBlank_eq {f f' : WrittenField} (h : SameField M f f') : f.isBlank = f'.isBlank := by
  rw [WrittenField.isBlank, WrittenField.isBlank, h.name]

include hM h

/-- The tag field is found wherever it stands. -/
theorem exists_tag_iff_of_rearranged :
    (∃ f, fields.filter WrittenField.isTag = [f] ∧ f.type.isString table = true) ↔
      ∃ f, fields'.filter WrittenField.isTag = [f] ∧ f.type.isString table' = true :=
  (h.filter fun _ _ hf => hf.isTag_eq).exists_singleton_iff fun _ _ hf => by rw [hM.isString hf.type]

/-- The variants among the fields are the same in another order. -/
theorem variantsOf_rearranged :
    Rearranged (SameVariant M) (variantsOf table fields) (variantsOf table' fields') := by
  refine (h.filter fun f f' hf => ?_).map fun f f' hf => ⟨hf.name, ?_, hM.shape hf.type⟩
  · rw [hf.isTag_eq, hf.isBlank_eq]
  · rw [Variant.ofField, Variant.ofField, fieldOption, fieldOption, hf.tag]

end Fields

/-- Type declarations with the same fields in any order make unions, or none does. -/
theorem SameSpec.exists_union_iff {spec spec' : TypeSpec}
    (hM : M.Faithful s.info.table s'.info.table) (h : SameSpec M s s' spec spec') :
    (∃ u, s.union spec = .ok u) ↔ ∃ u, s'.union spec' = .ok u := by
  rw [exists_union_eq_ok_iff, exists_union_eq_ok_iff, h.isAlias, exists_tag_iff_of_rearranged hM h.fields,
    ne_eq, (variantsOf_rearranged hM h.fields).eq_nil_iff]

/-- The unions that they make are the same up to the order of their variants. -/
theorem SameSpec.union {spec spec' : TypeSpec} (hM : M.Faithful s.info.table s'.info.table)
    (h : SameSpec M s s' spec spec') :
    Option.Rel (SameUnion M) (s.union spec).toOption (s'.union spec').toOption := by
  have hiff := h.exists_union_iff hM
  cases hu : s.union spec with
  | error x =>
    cases hu' : s'.union spec' with
    | error x' => exact .none
    | ok u' =>
      obtain ⟨u, hok⟩ := hiff.2 ⟨u', hu'⟩
      rw [hu] at hok
      cases hok
  | ok u =>
    obtain ⟨u', hu'⟩ := hiff.1 ⟨u, hu⟩
    rw [hu']
    obtain ⟨⟨hname, -⟩, -, heq⟩ := union_eq_ok hu
    obtain ⟨⟨hname', -⟩, -, heq'⟩ := union_eq_ok hu'
    exact .some ⟨by rw [hname, hname', h.name], by rw [heq, heq']; exact variantsOf_rearranged hM h.fields⟩

/-! ### Conversions of a union -/

theorem SameShape.payload? {shape shape' : Shape} (h : SameShape M shape shape') :
    Option.Rel M.type shape.payload? shape'.payload? := by
  cases h with
  | unit | multi => exact .none
  | single _ ht => exact .some ht

theorem SameShape.single_iff {shape shape' : Shape} (h : SameShape M shape shape') :
    (∃ accessor payload, shape = .single accessor payload) ↔
      ∃ accessor payload, shape' = .single accessor payload := by
  cases h <;> simp

namespace SameUnion

variable {u u' : Union} (h : SameUnion M u u')

include h

theorem wanted : Rearranged (SameVariant M) u.wanted u'.wanted :=
  h.variants.filter fun v v' hv => by rw [Variant.isSkipped, Variant.isSkipped, hv.option]

theorem names_perm : u'.names.Perm u.names := by
  refine (Rearranged.flatMap (S := Eq) h.wanted fun v v' hv => ?_).perm
  refine .of_perm (fun _ => rfl) (.of_eq ?_)
  rw [Union.conversionNames, Union.conversionNames, Union.unwrapName, Union.unwrapName, Union.wrapName,
    Union.wrapName, Union.isExported, Union.isExported, h.name, hv.name]

theorem payloads : Rearranged M.type (payloadTypes u.wanted) (payloadTypes u'.wanted) :=
  h.wanted.filterMap fun _ _ hv => hv.shape.payload?

/-- Identity of types is symmetric, so that any two payload types differ whichever comes first. -/
theorem sound_iff {table table' : TypeTable} (hM : M.Faithful table table') :
    u.Sound table ↔ u'.Sound table' := by
  have hder : (∀ v ∈ u.wanted, v.Derivable) ↔ ∀ v ∈ u'.wanted, v.Derivable :=
    h.wanted.forall_iff fun v v' hv =>
      ⟨fun ⟨hknown, hsingle⟩ => ⟨hv.option ▸ hknown, hv.shape.single_iff.1 hsingle⟩,
        fun ⟨hknown, hsingle⟩ => ⟨hv.option ▸ hknown, hv.shape.single_iff.2 hsingle⟩⟩
  -- Here the order matters, but identity is symmetric.
  have hdiff : (payloadTypes u.wanted).Pairwise (fun t t' => t.identical table t' = false) ↔
      (payloadTypes u'.wanted).Pairwise fun t t' => t.identical table' t' = false := by
    refine h.payloads.pairwise_iff (fun t t' ht => ?_) fun t t' u u' ht ht' => ?_
    · rwa [Ty.identical_comm]
    · rw [hM.identical ht ht']
  exact ⟨fun ⟨h₁, h₂⟩ => ⟨hder.1 h₁, hdiff.1 h₂⟩, fun ⟨h₁, h₂⟩ => ⟨hder.2 h₁, hdiff.2 h₂⟩⟩

end SameUnion

/-! ### Directives and requests -/

theorem SameComment.isDirective_eq {c c' : Comment} (h : SameComment M c c') :
    isDirective c = isDirective c' := by
  rw [isDirective, isDirective, h.text]

/-- The first directives of doc comments that stand for each other do so, too. -/
theorem directive?_rel {doc doc' : Option (List Comment)}
    (h : Option.Rel (List.Forall₂ (SameComment M)) doc doc') :
    Option.Rel (SameComment M) (directive? doc) (directive? doc') := by
  have hfind : ∀ {cs cs' : List Comment}, List.Forall₂ (SameComment M) cs cs' →
      Option.Rel (SameComment M) (cs.find? isDirective) (cs'.find? isDirective) := by
    intro cs cs' hcs
    induction hcs with
    | nil => exact .none
    | @cons c c' cs cs' hc _ ih =>
      rw [List.find?_cons, List.find?_cons, ← hc.isDirective_eq]
      cases isDirective c with
      | true => exact .some hc
      | false => exact ih
  cases h with
  | none => exact .none
  | some h => exact hfind h

/-- The directives of a declaration that are in place. -/
theorem SameDecl.placed {d d' : Decl} (h : SameDecl M s s' d d') :
    Rearranged (SameComment M) (TaggedUnion.placed d) (TaggedUnion.placed d') := by
  cases h with
  | types hdoc hspecs =>
    have hfirst : ∀ {a a' : Option Comment}, Option.Rel (SameComment M) a a' →
        Rearranged (SameComment M) a.toList a'.toList := by
      rintro _ _ (h | -)
      · exact ⟨_, .rfl, .cons h .nil⟩
      · exact ⟨[], .nil, .nil⟩
    exact (hfirst (directive?_rel hdoc)).append
      (hspecs.filterMap fun spec spec' hspec => directive?_rel hspec.doc)
  | vars | consts | func => exact ⟨[], .nil, .nil⟩

theorem SameDecl.requests {d d' : Decl} (h : SameDecl M s s' d d') :
    Rearranged (fun r r' : Request => SameSpec M s s' r.spec r'.spec) (declRequests d) (declRequests d') := by
  cases h with
  | types hdoc hspecs =>
    exact hspecs.filterMap fun spec spec' hspec =>
      rel_map (rel_or (directive?_rel hspec.doc) (directive?_rel hdoc)) fun _ _ _ => hspec
  | vars | consts | func => exact ⟨[], .nil, .nil⟩

namespace SameFile

variable {f f' : File} (h : SameFile M s s' f f')

include h

theorem isGeneratedFile_eq : isGeneratedFile f = isGeneratedFile f' :=
  any_eq_of_forall₂ h.header fun _ _ hgroup => any_eq_of_forall₂ hgroup fun _ _ hc => by rw [hc.text]

theorem misplaced (hM : M.Faithful s.info.table s'.info.table) :
    Rearranged (SameComment M) (misplacedDirectives f) (misplacedDirectives f') := by
  have hused : Rearranged (SameComment M) (f.decls.flatMap placed) (f'.decls.flatMap placed) :=
    h.decls.flatMap fun _ _ hd => hd.placed
  refine (h.comments.filter fun _ _ hc => hc.isDirective_eq).filter fun c c' hc => ?_
  -- A comment is in place by its place only, and that is the same place for what stands for it.
  have hmem : c.pos ∈ (f.decls.flatMap placed).map (·.pos) ↔
      c'.pos ∈ (f'.decls.flatMap placed).map (·.pos) := by
    rw [List.mem_map, List.mem_map]
    exact hused.exists_iff fun _ _ hc' => hM.places hc'.pos hc.pos
  rw [Bool.eq_iff_iff, Bool.not_eq_true', Bool.not_eq_true', ← Bool.not_eq_true, ← Bool.not_eq_true,
    List.contains_iff_mem, List.contains_iff_mem, hmem]

end SameFile

namespace Reordered

variable (h : Reordered M s s')

include h

theorem ownSources : Rearranged (SameFile M s s') s.ownSources s'.ownSources :=
  h.sources.filter fun f f' hf => by rw [hf.isGeneratedFile_eq]

theorem misplaced : Rearranged (SameComment M) s.misplaced s'.misplaced :=
  h.ownSources.flatMap fun _ _ hf => hf.misplaced h.faithful

theorem requests :
    Rearranged (fun r r' : Request => SameSpec M s s' r.spec r'.spec) s.requests s'.requests :=
  h.ownSources.flatMap fun _ _ hf => hf.decls.flatMap fun _ _ hd => hd.requests

theorem unions : Rearranged (SameUnion M) (s.unionsOf s.requests) (s'.unionsOf s'.requests) :=
  h.requests.filterMap fun _ _ hr => hr.union h.faithful

theorem conversionNames_perm : s'.conversionNames.Perm s.conversionNames :=
  (Rearranged.flatMap (S := Eq) h.unions fun _ _ hu => .of_perm (fun _ => rfl) hu.names_perm).perm

/-- What counts as generated is told by the names of files, which are the same. -/
theorem isGenerated_eq {o o' : Object} (ho : SameObject M s.files s'.files o o') :
    s.isGenerated o = s'.isGenerated o' := by
  -- The generated files stand for each other, and an object is in one of them by its name.
  have hfiles := h.sources.filter fun _ _ hf => hf.isGeneratedFile_eq
  have hmem : s.generatedNames.contains (s.files.position o.pos).file =
      s'.generatedNames.contains (s'.files.position o'.pos).file := by
    rw [Bool.eq_iff_iff, List.contains_iff_mem, List.contains_iff_mem, Subject.generatedNames,
      Subject.generatedNames, List.mem_map, List.mem_map]
    exact hfiles.exists_iff fun _ _ hf => h.faithful.files hf.name ho.file
  have hpos : (o.pos != 0) = (o'.pos != 0) := by
    rw [Bool.eq_iff_iff, bne_iff_ne, bne_iff_ne, ne_eq, ne_eq, ho.placed]
  rw [Subject.isGenerated, Subject.isGenerated, hmem, hpos]

/-- A package is accepted iff it is in another order. -/
theorem acceptable_iff : s.Acceptable ↔ s'.Acceptable := by
  have hunions : (∀ r ∈ s.requests, ∃ u, s.union r.spec = .ok u) ↔
      ∀ r ∈ s'.requests, ∃ u, s'.union r.spec = .ok u :=
    h.requests.forall_iff fun _ _ hr => hr.exists_union_iff h.faithful
  have hsound : (∀ u ∈ s.unionsOf s.requests, u.Sound s.info.table) ↔
      ∀ u ∈ s'.unionsOf s'.requests, u.Sound s'.info.table :=
    h.unions.forall_iff fun _ _ hu => hu.sound_iff h.faithful
  have hnodup := h.conversionNames_perm.nodup_iff
  have hfree : (∀ o ∈ s.objects, s.isGenerated o = false → o.name ∉ s.conversionNames) ↔
      ∀ o ∈ s'.objects, s'.isGenerated o = false → o.name ∉ s'.conversionNames := by
    refine h.objects.forall_iff fun o o' ho => ?_
    rw [h.isGenerated_eq ho, ho.name, h.conversionNames_perm.mem_iff]
  constructor
  · rintro ⟨h₁, h₂, h₃, h₄, h₅⟩
    exact ⟨h.misplaced.eq_nil_iff.1 h₁, hunions.1 h₂, hsound.1 h₃, hnodup.2 h₄, hfree.1 h₅⟩
  · rintro ⟨h₁, h₂, h₃, h₄, h₅⟩
    exact ⟨h.misplaced.eq_nil_iff.2 h₁, hunions.2 h₂, hsound.2 h₃, hnodup.1 h₄, hfree.2 h₅⟩

end Reordered

/-! ### Files and declarations in another order -/

theorem SameComment.refl (c : Comment) : SameComment .same c c := ⟨rfl, rfl⟩

theorem forall₂_comment_refl (cs : List Comment) : List.Forall₂ (SameComment .same) cs cs :=
  List.forall₂_same.2 fun c _ => .refl c

theorem SameDecl.refl (h : ∀ spec, s'.fieldsOf spec = s.fieldsOf spec) (d : Decl) :
    SameDecl .same s s' d d := by
  have hdoc : ∀ doc : Option (List Comment), Option.Rel (List.Forall₂ (SameComment .same)) doc doc := by
    rintro (- | cs)
    · exact .none
    · exact .some (forall₂_comment_refl cs)
  cases d with
  | types doc specs =>
    refine .types (hdoc doc) (.of_perm (fun spec => ⟨hdoc _, rfl, rfl, ?_⟩) .rfl)
    rw [h]
    exact .of_perm (fun _ => ⟨rfl, rfl, rfl⟩) .rfl
  | vars specs => exact .vars specs specs
  | consts specs => exact .consts specs specs
  | func spec => exact .func spec spec

theorem Correspondence.faithful_same (table : TypeTable) : Correspondence.same.Faithful table table := by
  have hshape : ∀ shape, SameShape .same shape shape := by
    rintro (- | ⟨accessor, t⟩ | n)
    · exact .unit
    · exact .single accessor rfl
    · exact .multi n
  refine ⟨?_, ?_, ?_, ?_, ?_⟩
  · rintro p _ q _ rfl rfl
    exact .rfl
  · rintro a _ b _ rfl rfl
    exact .rfl
  · rintro t _ u _ rfl rfl
    rfl
  · rintro t _ rfl
    rfl
  · rintro t _ rfl
    exact hshape _

/-- A package with its files in another order, and with the declarations of each file in another
order. -/
theorem reordered_of_perm {sources : List File} (s : Subject)
    (h : Rearranged (fun f f' => ∃ decls, decls.Perm f.decls ∧ f' = { f with decls }) s.sources sources) :
    Reordered .same s { s with sources } := by
  refine ⟨Correspondence.faithful_same _, .of_perm (fun _ => ⟨rfl, .rfl, rfl⟩) .rfl, ?_⟩
  obtain ⟨m, hperm, hall⟩ := h
  refine ⟨m, hperm, hall.imp fun f f' ⟨decls, hdecls, hf⟩ => ?_⟩
  subst hf
  exact ⟨rfl, List.forall₂_same.2 fun cs _ => forall₂_comment_refl cs, .of_perm .refl .rfl,
    .of_perm (.refl fun _ => rfl) hdecls⟩

/-! ## Building -/

/-- Building reports no error iff no directive is misplaced, every declaration that asks for
conversions is a tagged union, every variant that is not skipped has no unknown option and carries
one value, no two of these in a union carry identical types, and the names of all conversions are
different from one another and from what the package declares outside of generated files. Whether it
does is the same for packages in any order of their files, declarations and variants. -/
theorem build_eq_none_iff (workingDir : String) (σ : Session) :
    ((σ.build workingDir).1 = none ↔
      σ.subject.misplaced = [] ∧
      (∀ r ∈ σ.subject.requests, ∃ u, σ.subject.union r.spec = .ok u) ∧
      (∀ u ∈ σ.subject.unionsOf σ.subject.requests, ∀ v ∈ u.wanted,
        (∀ text, v.option ≠ .unknown text) ∧ ∃ accessor payload, v.shape = .single accessor payload) ∧
      (∀ u ∈ σ.subject.unionsOf σ.subject.requests,
        (payloadTypes u.wanted).Pairwise fun t t' => t.identical σ.subject.info.table t' = false) ∧
      σ.subject.conversionNames.Nodup ∧
      ∀ o ∈ σ.subject.objects, o.name ∈ σ.subject.conversionNames → σ.subject.isGenerated o = true) ∧
    ∀ (workingDir' : String) (σ' : Session) (M : Correspondence),
      Reordered M σ.subject σ'.subject →
        ((σ'.build workingDir').1 = none ↔ (σ.build workingDir).1 = none) := by
  have haccept : ∀ (w : String) (σ : Session), (σ.build w).1 = none ↔ σ.subject.Acceptable :=
    fun w σ => (error?_eq_none_iff _ _).trans (findings_eq_nil_iff σ.subject)
  refine ⟨(haccept workingDir σ).trans ⟨?_, ?_⟩, fun workingDir' σ' M hreordered => ?_⟩
  · rintro ⟨hplaced, hunions, hsound, hnodup, hfree⟩
    refine ⟨hplaced, hunions, fun u hu v hv => ?_, fun u hu => (hsound u hu).different, hnodup,
      fun o ho hmem => ?_⟩
    · obtain ⟨hknown, hsingle⟩ := (hsound u hu).derivable v hv
      exact ⟨hknown, hsingle⟩
    · by_contra hgen
      exact hfree o ho (Bool.eq_false_iff.2 hgen) hmem
  · rintro ⟨hplaced, hunions, hderivable, hdifferent, hnodup, hfree⟩
    refine ⟨hplaced, hunions, fun u hu => ⟨fun v hv => ?_, hdifferent u hu⟩, hnodup,
      fun o ho hgen hmem => ?_⟩
    · obtain ⟨hknown, hsingle⟩ := hderivable u hu v hv
      exact ⟨hknown, hsingle⟩
    · rw [hfree o ho hmem] at hgen
      exact absurd hgen (by simp)
  · rw [haccept, haccept]
    exact hreordered.acceptable_iff.symm

/-- A package of two files. -/
def twoFiles : List (String × List (String × String)) :=
  [("p", [("a.go", "package p\n\n//enumorph:derive\ntype Shape struct \x7b\n\tKind string `enumorph:\"tag\"`\n" ++
      "\tSquare int\n\tCircle bool\n\x7d\n\nvar _ int\n"), ("b.go", "package p\n")])]

/-- The files, declarations and fields of the package the other way round. -/
def twoFilesTurned : List (String × List (String × String)) :=
  [("p", [("a.go", "package p\n"), ("b.go", "package p\n\nvar _ int\n\n//enumorph:derive\n" ++
      "type Shape struct \x7b\n\tCircle bool\n\tSquare int\n\tKind string `enumorph:\"tag\"`\n\x7d\n")])]

/-- The types of fields of one name. -/
def fieldTypes (s s' : Subject) : List (Ty × Ty) :=
  (s.requests.flatMap fun r => s.fieldsOf r.spec).flatMap fun f =>
    ((s'.requests.flatMap fun r => s'.fieldsOf r.spec).filter (·.head.name == f.head.name)).map fun f' =>
      (f.type, f'.type)

/-- Building accepts the package either way. -/
theorem twoFiles_build_eq_none :
    let files := [("a.go", "b.go"), ("b.go", "a.go")]
    ∃ program program' : Program, ({} : Program).loadAll? twoFiles = some program ∧
      ({} : Program).loadAll? twoFilesTurned = some program' ∧
      ∃ p ∈ program.packages, ∃ p' ∈ program'.packages,
        Reordered (.ofPairs [(12, 34)] files (fieldTypes (.ofPackage program p) (.ofPackage program' p')))
          (.ofPackage program p) (.ofPackage program' p') ∧
        ((Session.start (.ofPackage program p) {}).build "").1 = none ∧
          ((Session.start (.ofPackage program' p') {}).build "").1 = none := by
  intro files
  let checked (s s' : Subject) : Bool × Bool :=
    (decide (Reordered (.ofPairs [(12, 34)] files (fieldTypes s s')) s s'), ((Session.start s {}).build "").1.isNone)
  have hchecked : ((({} : Program).loadAll? twoFiles).bind fun program =>
      (({} : Program).loadAll? twoFilesTurned).map fun program' =>
        program.packages.map fun p => program'.packages.map fun p' =>
          checked (.ofPackage program p) (.ofPackage program' p')) = some [[(true, true)]] := by
    rw [twoFiles, twoFilesTurned, loadAll?, load?, List.mergeSort_of_pairwise (by decide), loadAll?, load?,
      List.mergeSort_of_pairwise (by decide)]
    -- Both files of a package are read from characters.
    simp only [readFiles?, Syntax.parseFile?_eq]
    rw [String.toList_append, String.toList_append, String.toList_ofList, String.toList_ofList, String.toList_ofList,
      String.toList_ofList, String.toList_ofList]
    decide +kernel
  obtain ⟨program, hload, hchecked⟩ := Option.bind_eq_some_iff.1 hchecked
  obtain ⟨program', hload', hchecked⟩ := Option.map_eq_some_iff.1 hchecked
  obtain ⟨p, rest, hpackages, hp, -⟩ := List.map_eq_cons_iff.1 hchecked
  obtain ⟨p', rest', hpackages', hp', -⟩ := List.map_eq_cons_iff.1 hp
  obtain ⟨hreordered, hbuild⟩ := Prod.mk.inj hp'
  have hreordered := of_decide_eq_true hreordered
  obtain ⟨-, hsame⟩ := build_eq_none_iff "" (Session.start (.ofPackage program p) {})
  have hbuild := Option.isNone_iff_eq_none.1 hbuild
  exact ⟨program, program', hload, hload', p, hpackages ▸ List.mem_cons_self, p',
    hpackages' ▸ List.mem_cons_self, hreordered, hbuild,
    (hsame "" (Session.start (.ofPackage program' p') {}) _ hreordered).2 hbuild⟩

end TaggedUnion
