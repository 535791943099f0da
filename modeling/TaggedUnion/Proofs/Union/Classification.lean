import TaggedUnion.Proofs.Types.Outline
import TaggedUnion.Union.Variant

/-!
# Variants of identical types

It makes no difference to a union how the types of its fields are spelled. Identical types are of the same classes, for
they have one outline before and after they are unfolded. Fields of identical types make variants of one shape: a
written-out struct is identical to written-out structs only, with the same names of fields.

Main statement: this holds of all identical types, and so of a type and any chain of aliases to it
(`classified_alike`).
-/

namespace TaggedUnion

open TaggedUnion.Types Syntax

/-- Two types are of the same classes. -/
structure Types.Ty.SameClasses (table : TypeTable) (t u : Ty) : Prop where
  basic : t.isBasic table = u.isBasic table
  struct : t.isStruct table = u.isStruct table
  named : t.isNamed = u.isNamed
  anonymousStruct : t.isAnonymousStruct table = u.isAnonymousStruct table
  string : t.isString table = u.isString table

/-- Two shapes say that as many values are carried, in one place, and that these are of identical types. -/
structure Shape.Alike (table : TypeTable) (s s' : Shape) : Prop where
  code : s.code = s'.code
  count : s.count = s'.count
  accessor : s.accessor = s'.accessor
  payload : Option.Rel (Ty.Identical table) s.payload? s'.payload?

variable {table : TypeTable} {t u : Ty}

namespace Types.Ty

/-! ## Classes and outlines -/

theorem unfold_ne_synonym (table : TypeTable) (depth : Nat) (t : Ty) {name : TypeName}
    {generics : List (List ParamDecl × Ty)} {args : List Ty} {target : Ty} :
    t.unfold table depth ≠ synonym name generics args target := by
  induction depth generalizing t with
  | zero => exact t.unalias_ne_synonym
  | succ depth ih =>
    rw [unfold]
    split
    · split
      · exact ih _
      · intro h
        cases h
    · intro h
      cases h
    · exact t.unalias_ne_synonym

theorem isNamed_eq (t : Ty) : t.isNamed = match t.outline with
    | named _ _ _ => true
    | _ => false := by
  rw [isNamed, ← outline_unalias]
  cases ht : t.unalias with
  | synonym => exact absurd ht t.unalias_ne_synonym
  | _ => rfl

theorem isBasic_eq (table : TypeTable) (t : Ty) : t.isBasic table = match (t.underlying table).outline with
    | basic _ => true
    | _ => false := by
  rw [isBasic, basic?]
  cases ht : t.underlying table with
  | synonym => exact absurd ht (unfold_ne_synonym table _ t)
  | _ => rfl

theorem isStruct_eq (table : TypeTable) (t : Ty) : t.isStruct table = match (t.underlying table).outline with
    | struct _ => true
    | _ => false := by
  rw [isStruct, struct?]
  cases ht : t.underlying table with
  | synonym => exact absurd ht (unfold_ne_synonym table _ t)
  | _ => rfl

/-- No type under two names is a string. -/
theorem basicNormal_beq {name text : String} (h : text ∉ ["byte", "uint8", "rune", "int32"]) :
    (basicNormal name == text) = (name == text) := by
  simp only [List.mem_cons, List.not_mem_nil, or_false, not_or] at h
  obtain ⟨hbyte, huint8, hrune, hint32⟩ := h
  by_cases hb : name = "byte"
  · simp [basicNormal, hb, Ne.symm hbyte, Ne.symm huint8]
  · by_cases hr : name = "rune"
    · simp [basicNormal, hr, Ne.symm hrune, Ne.symm hint32]
    · simp [basicNormal, hb, hr]

theorem isString_eq (table : TypeTable) (t : Ty) : t.isString table = match (t.underlying table).outline with
    | basic name => name == "string" || name == "untyped string"
    | _ => false := by
  rw [isString, basic?]
  cases ht : t.underlying table with
  | synonym => exact absurd ht (unfold_ne_synonym table _ t)
  | basic name =>
    have hstring : (basicNormal name == "string") = (name == "string") := basicNormal_beq (by decide)
    have huntyped : (basicNormal name == "untyped string") = (name == "untyped string") := basicNormal_beq (by decide)
    simp only [outline, hstring, huntyped]
  | _ => rfl

/-- Identical types are of the same classes. -/
theorem sameClasses_of_identical (h : t.Identical table u) : SameClasses table t u := by
  have hunder := outline_underlying h
  have hnamed : t.isNamed = u.isNamed := by rw [isNamed_eq, isNamed_eq, outline_of_identical h]
  have hstruct : t.isStruct table = u.isStruct table := by rw [isStruct_eq, isStruct_eq, hunder]
  exact {
    basic := by rw [isBasic_eq, isBasic_eq, hunder]
    struct := hstruct
    named := hnamed
    anonymousStruct := by rw [isAnonymousStruct, isAnonymousStruct, hstruct, hnamed]
    string := by rw [isString_eq, isString_eq, hunder] }

end Types.Ty

/-! ## Shapes -/

/-- A type that is not a defined one has fields iff it is a written-out struct, aliases apart. -/
theorem struct?_of_isNamed_eq_false (h : t.isNamed = false) :
    t.struct? table = match t.unalias with
      | .struct fields => some fields
      | _ => none := by
  rw [Ty.isNamed] at h
  rw [Ty.struct?, Ty.underlying, Ty.unfold]
  cases ht : t.unalias <;> simp_all [Ty.emptyInterface]

theorem unalias_of_struct?_eq_some {fields : List (FieldHead × Ty)} (h : t.isNamed = false)
    (hfields : t.struct? table = some fields) : t.unalias = .struct fields := by
  rw [struct?_of_isNamed_eq_false h] at hfields
  split at hfields
  · rename_i ht
    exact Option.some.inj hfields ▸ ht
  · cases hfields

/-- A written-out struct is identical to written-out structs only, and their fields have the same names and identical
types. -/
theorem exists_fields_of_identical {fields : List (FieldHead × Ty)} (h : t.Identical table u)
    (ht : t.unalias = .struct fields) :
    ∃ fields', u.unalias = .struct fields' ∧
      List.Forall₂ (fun f f' => f.1.name = f'.1.name ∧ f.2.Identical table f'.2) fields fields' := by
  have hstruct : (Ty.struct fields).Identical table u :=
    (Ty.equivalence_identical table).trans (ht ▸ Ty.identical_unalias table t) h
  rw [Ty.Identical, Ty.Same] at hstruct
  obtain ⟨fields', hu, hsame⟩ := hstruct
  refine ⟨fields', hu, ?_⟩
  clear ht hu h
  induction fields generalizing fields' with
  | nil =>
    rw [Ty.Same.sameFields] at hsame
    rw [hsame]
    exact .nil
  | cons f fields ih =>
    obtain ⟨head, t⟩ := f
    rw [Ty.Same.sameFields] at hsame
    obtain ⟨head', t', rest, rfl, hhead, htype, hrest⟩ := hsame
    exact .cons ⟨hhead.1, htype⟩ (ih rest hrest)

/-- Fields of identical types make variants of one shape. -/
theorem shape_of_identical (h : t.Identical table u) : (Shape.ofType table t).Alike table (.ofType table u) := by
  have hwhole : (Shape.single (.whole 0) t).Alike table (.single (.whole 0) u) := ⟨rfl, rfl, rfl, .some h⟩
  have hnamed := (Ty.sameClasses_of_identical h).named
  rw [Shape.ofType, Shape.ofType, ← hnamed]
  cases ht : t.isNamed with
  | true => exact hwhole
  | false =>
    have hu : u.isNamed = false := hnamed ▸ ht
    rw [if_neg Bool.false_ne_true, if_neg Bool.false_ne_true]
    -- Only the fields of a written-out struct are looked at, and there are as many of them on both sides.
    cases hfields : t.struct? table with
    | none =>
      have hstruct := (Ty.sameClasses_of_identical h).struct
      rw [Ty.isStruct, Ty.isStruct, hfields, Option.isSome_none, eq_comm, Option.isSome_eq_false_iff,
        Option.isNone_iff_eq_none] at hstruct
      rw [hstruct]
      exact hwhole
    | some fields =>
      obtain ⟨fields', hu', hsame⟩ := exists_fields_of_identical h (unalias_of_struct?_eq_some ht hfields)
      rw [struct?_of_isNamed_eq_false hu, hu']
      cases hsame with
      | nil => exact ⟨rfl, rfl, rfl, .none⟩
      | @cons f f' _ _ hfield hrest =>
        cases hrest with
        | nil => exact ⟨rfl, rfl, congrArg (Accessor.of · 0) hfield.1, .some hfield.2⟩
        | cons _ hrest => exact ⟨rfl, congrArg (· + 2) hrest.length_eq, rfl, .none⟩

/-- The classes of a type, and the shape of a variant of that type, are those of all identical types, and so of all
types that are aliases of it. -/
theorem classified_alike (table : TypeTable) :
    (∀ t u : Ty, t.Identical table u → t.SameClasses table u ∧ ∀ (head head' : FieldHead) (expr expr' : Expr),
      (Variant.ofField table (head, t) expr).shape.Alike table (Variant.ofField table (head', u) expr').shape) ∧
    ∀ t : Ty, t.unalias.Identical table t :=
  ⟨fun _ _ h => ⟨Ty.sameClasses_of_identical h, fun _ _ _ _ => shape_of_identical h⟩, Ty.identical_unalias table⟩

/-- A generic type with one field. -/
def cellDecl : TypeDecl where
  name := ⟨"p", "Cell", 1⟩
  params := [⟨"T", 2⟩]
  rhs := .struct [(⟨"Value", "p", false, [], 3⟩, .param "T" 2)]

/-- A struct with one field, a cell of the given type. -/
def cellHolder (content : Ty) : Ty :=
  .struct [(⟨"Held", "p", false, [], 4⟩, .named cellDecl.name [] [content])]

/-- An alias of an alias with a type argument, which stands for such a struct. -/
def holderAlias : Ty :=
  .synonym ⟨"p", "Bytes", 6⟩ [] [] (.synonym ⟨"p", "Holder", 5⟩ [] [.basic "byte"] (cellHolder (.basic "byte")))

/-- A chain of aliases and a written-out struct are classified alike, though a type argument has another name. -/
theorem holderAlias_classified :
    holderAlias.Identical [cellDecl] (cellHolder (.basic "uint8")) ∧
      holderAlias.SameClasses [cellDecl] (cellHolder (.basic "uint8")) ∧
      (Shape.ofType [cellDecl] holderAlias).Alike [cellDecl] (.ofType [cellDecl] (cellHolder (.basic "uint8"))) := by
  have hid : holderAlias.Identical [cellDecl] (cellHolder (.basic "uint8")) := Ty.identical_iff_rules.1 (by decide)
  obtain ⟨hclasses, hshape⟩ := (classified_alike [cellDecl]).1 _ _ hid
  exact ⟨hid, hclasses, hshape ⟨"A", "p", false, [], 7⟩ ⟨"B", "p", false, [], 8⟩ (.ident { pos := 7, name := "Bytes" })
    (.ident { pos := 8, name := "Bytes" })⟩

end TaggedUnion
