import TaggedUnion.Types.Constraint

/-!
# Method sets

The methods that values of a type have: those that are declared for it, those of the interface that it
is, and those of the types that its struct embeds. A method hides others of its name that are embedded
more deeply; where several stand at the least depth, there is none. A method that is declared for
pointers belongs to values only if these are reached through a pointer.

A type parameter has the methods that its bound asks for.
-/

namespace TaggedUnion.Types

open Source

/-- What is known of the types of a program. -/
structure Setting where
  table : TypeTable
  /-- The bounds of type parameters, by the places of their declarations. -/
  bounds : List (Pos × Ty) := []
  /-- The type parameters of generic types and aliases. -/
  generics : List (TypeName × List (List ParamDecl × Ty)) := []

namespace Setting

variable (c : Setting)

/-- The underlying type; that of a type parameter is its bound, if that is known. -/
def under (t : Ty) : Ty :=
  match t.unalias with
  | .param _ pos => ((c.bounds.lookup pos).map fun bound => bound.underlying c.table).getD .invalid
  | u => u.underlying c.table

/-- What a type asks for if it is an interface or a type parameter. -/
def demand? (t : Ty) : Option Demand :=
  (c.under t).demand? c.table

end Setting

/-- The type a pointer points to, and whether it is one. -/
def Ty.target (t : Ty) : Ty × Bool :=
  match t.unalias with
  | .pointer elem => (elem, true)
  | _ => (t, false)

/-- A type on the way to a method. -/
structure Embedding where
  type : Ty
  /-- Whether it is reached through a pointer. -/
  indirect : Bool
  /-- Whether it is embedded several times at one depth. -/
  multiple : Bool := false

/-- Puts together what is embedded several times. -/
def Embedding.consolidate (es : List Embedding) : List Embedding :=
  es.foldl (fun acc e =>
    if acc.any (·.type == e.type) then
      acc.map fun a => if a.type == e.type then { a with multiple := true } else a
    else acc ++ [e]) []

/-- What a name selects at some depth. -/
inductive Selected
  | field
  /-- A method with its signature in normal form. -/
  | method (type : Ty) (viaPointer : Bool)

/-- Whether a name of a package is the one asked for; names that are not exported belong to their
packages. -/
def MethodHead.isName (m : MethodHead) (name home : String) : Bool :=
  m.name == name && (Text.isExported name || m.home == home)

namespace Setting

variable (c : Setting) (m : MethodHead)

/-- The method that is declared for a defined type. -/
def declared? (t : Ty) : Option Selected :=
  match t.unalias with
  | .named name _ args => do
    let d ← c.table.find? name
    let found ← d.methods.find? fun f => m.isName f.name name.home
    return .method ((found.instantiate args).normal c.table) found.viaPointer
  | _ => none

/-- What a type has under a name itself, and the types that it embeds. -/
def selectedAt (e : Embedding) : List Selected × List Embedding :=
  match c.declared? m e.type with
  | some s => ([s], [])
  | none =>
    match c.under e.type with
    | .struct fields =>
      ((fields.filter fun f => m.isName f.1.name f.1.home).map fun _ => .field,
        (fields.filter (·.1.embedded)).map fun f =>
          let (t, isPointer) := f.2.target
          { type := t, indirect := e.indirect || isPointer, multiple := e.multiple })
    | .interface _ _ _ =>
      (((c.demand? e.type).getD {}).methods.filterMap fun f =>
        if m.isName f.1.name f.1.home then some (.method f.2 false) else none, [])
    | _ => ([], [])

/-- The signature of a method among types of one depth, or of at most `depth` depths below. -/
def methodAmong : Nat → List Ty → List Embedding → Option Ty
  | 0, _, _ => none
  | depth + 1, seen, level =>
    let fresh := level.filter fun e => !seen.contains e.type
    let found := fresh.map fun e => (e, c.selectedAt m e)
    match found.flatMap fun (e, hits, _) => hits.map fun s => (e, s) with
    | [] =>
      if fresh.isEmpty then none
      else methodAmong depth (fresh.map (·.type) ++ seen)
        (Embedding.consolidate (found.flatMap (·.2.2)))
    | [(e, .method t viaPointer)] =>
      if e.multiple || (viaPointer && !e.indirect) then none else some t
    | _ => none

/-- The signature, in normal form, of a method that values of a type have. Pointers to interfaces have
none. -/
def method? (t : Ty) : Option Ty :=
  let (base, isPointer) := t.target
  if isPointer && (c.demand? base).isSome then none
  else c.methodAmong m (c.table.length + 2) [] [{ type := base, indirect := isPointer }]

end Setting

end TaggedUnion.Types
