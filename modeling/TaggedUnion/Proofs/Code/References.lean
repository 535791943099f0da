import TaggedUnion.Proofs.Code.Capture
import TaggedUnion.Proofs.Code.Referents

/-!
# Names of types in signatures

What the names in the signature of a function are meant for is told by what the code was written from. A
payload type is written from a type: its names are those of the declarations that it is made of
(`Types.Piece.reference?`), looked up as they are used (`Draft.map_head_typeReferences`), of predeclared types, and
of fields and methods (`Types.Ty.words`). Bounds are
written from expressions of the source, so a name is meant for what the name it came from refers to there
(`boundReferences`).
-/

namespace TaggedUnion

open Source TaggedUnion.Types Syntax Program Code

/-! ## Payload types -/

/-- What the text of a type shows besides the names of declarations. -/
inductive Types.Word
  | predeclared (name : String)
  /-- A field or a method, with the package that declares it. -/
  | member (home name : String)

/-- The predeclared types, the fields and the methods that the text of a type shows. -/
def Types.Ty.words : Ty → List Word
  | basic name => if name == "Pointer" then [] else [.predeclared name]
  | pointer elem => elem.words
  | slice elem => elem.words
  | array _ elem => elem.words
  | map key elem => key.words ++ elem.words
  | chan _ elem => elem.words
  | func generics params results _ => ofGroups generics ++ ofParams params ++ ofParams results
  | struct fields => ofFields fields
  | interface methods embedded _ => ofMethods methods ++ ofAll embedded
  | union terms => ofTerms terms
  | named _ generics args => if args.isEmpty then ofGroups generics else ofAll args
  | synonym _ generics args _ => if args.isEmpty then ofGroups generics else ofAll args
  | param _ _ => []
where
  ofAll : List Ty → List Word
    | [] => []
    | t :: rest => t.words ++ ofAll rest
  ofGroups : List (List ParamDecl × Ty) → List Word
    | [] => []
    | (_, bound) :: rest => bound.words ++ ofGroups rest
  ofParams : List (String × Ty) → List Word
    | [] => []
    | (_, t) :: rest => t.words ++ ofParams rest
  ofFields : List (FieldHead × Ty) → List Word
    | [] => []
    | (head, t) :: rest => .member head.home head.name :: t.words ++ ofFields rest
  ofMethods : List (MethodHead × Ty) → List Word
    | [] => []
    | (head, t) :: rest => .member head.home head.name :: t.words ++ ofMethods rest
  ofTerms : List (Bool × Ty) → List Word
    | [] => []
    | (_, t) :: rest => t.words ++ ofTerms rest

/-- What a piece of a type is meant for. -/
def Types.Piece.reference? (q : Qualifier) : Piece → Option Reference
  | .plain _ => none
  | .declared home name =>
    some (if home == "" then ⟨none, name, .predeclared name⟩
      else if q home == "" then ⟨none, name, .object home name⟩
      else ⟨some (q home), name, .object home name⟩)

/-- What a word is meant for, if it is looked up. -/
def Types.Word.reference? : Word → Option Reference
  | .predeclared name => some ⟨none, name, .predeclared name⟩
  | .member _ _ => none

/-- The names that the text of a type uses in code, and what they are meant for. -/
def Draft.typeReferences (s : Subject) (d : Draft) (t : Ty) : List Reference :=
  t.pieces.filterMap (Piece.reference? ((d.importType s t).qualifier s)) ++ t.words.filterMap Word.reference?

/-- Whether a word stands for the same in the code of a package. A field or a method that another package
keeps to itself does not: its name would be taken for one of the package. -/
def Types.Word.isShown (path : String) : Word → Bool
  | .predeclared _ => true
  | .member home name => home == path || Text.isExported name

/-- The names of declarations are looked up as they are used. -/
theorem Draft.map_head_typeReferences (s : Subject) (d : Draft) (t : Ty) :
    (d.typeReferences s t).map Reference.head =
      d.typeNames s t ++ (t.words.filterMap Word.reference?).map Reference.head := by
  have hpiece : ∀ (q : Qualifier) (p : Piece), (p.reference? q).map Reference.head = p.usedName? q := by
    intro q p
    cases p with
    | plain text => rfl
    | declared home name =>
      rw [Piece.reference?, Piece.usedName?, Option.map_some]
      by_cases hhome : home = ""
      · simp [hhome, Reference.head]
      · by_cases hq : q home = "" <;> simp [hhome, hq, Reference.head]
  rw [typeReferences, List.map_append, List.map_filterMap, typeNames]
  exact congrArg (· ++ _) (List.filterMap_congr fun p _ => hpiece _ p)

/-! ## Bounds -/

/-- What a name in the code is meant for, given what the name it came from refers to. What belongs to
what is around a name is not looked up. -/
def Syntax.Occurrence.reference? (o : Occurrence) : Option Target → Option Reference
  | none | some (.inner _) => none
  | some t =>
    match o with
    | .qualified id name => some ⟨some id.name, name.name, t⟩
    | .plain id | .embedded id => some ⟨none, id.name, t⟩
    | .member _ => none

/-- The names that the bounds of a union use in code, and what they are meant for: what the source of the
file refers to. -/
def boundReferences (program : Program) (s : Subject) (f : File) (d : Draft) (u : Union) : List Reference :=
  (u.params.zip (adaptedBounds s d u.params)).flatMap fun (g, g') =>
    ((g.2.occurrences false).zip (g'.2.occurrences false)).filterMap fun (o, o') =>
      o'.reference? (o.source? program s f)

end TaggedUnion
