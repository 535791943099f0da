import TaggedUnion.Program.Object
import TaggedUnion.Types.Recursion
import TaggedUnion.Types.Sound

/-!
# Fitting declarations

Whether the types that a package declares are sound, once all of them are known: none contains itself, the
methods of each fit beside its fields, and type arguments satisfy the bounds that belong to them.
-/

namespace TaggedUnion.Program

open Source TaggedUnion.Types

/-- The names of the fields of a struct type. -/
def fieldNames : Ty → List String
  | .struct fields => fields.map (·.1.name)
  | _ => []

/-- Whether a type can have the methods that are declared for it: no two have one name, none has the name
of a field, and values of the type are neither pointers nor interfaces. -/
def methodsFit (table : TypeTable) (d : TypeDecl) : Bool :=
  let names := d.methods.map (·.name)
  let under := d.rhs.underlying table
  distinct names && (fieldNames under).all (fun f => f == "_" || !names.contains f) &&
    match under with
    | .pointer _ | .interface _ _ _ => names.isEmpty
    | _ => true

/-- The groups of type parameters of a declared type, alias or function. -/
def genericsIn : Ty → List (List ParamDecl × Ty)
  | .named _ generics _ | .synonym _ generics _ _ | .func generics _ _ _ => generics
  | _ => []

/-- Type parameters with their bounds. -/
def boundsIn (generics : List (List ParamDecl × Ty)) : List (ParamDecl × Ty) :=
  generics.flatMap fun (params, bound) => params.map fun p => (p, bound)

/-- The type parameters of a declared type or alias, by its name. -/
def namedGenerics? (o : Object) : Option (TypeName × List (List ParamDecl × Ty)) :=
  match o.type, o.kind with
  | .named name generics _, .type => some (name, generics)
  | .synonym name generics _ _, .synonym => some (name, generics)
  | _, _ => none

/-- The bounds of the type parameters that the methods of a type name. -/
def methodBounds (generics : List (List ParamDecl × Ty)) (d : TypeDecl) : List (Pos × Ty) :=
  let bounds := boundsIn generics
  d.methods.flatMap fun m =>
    let σ := (bounds.map (·.1.pos)).zip (m.params.map fun p => Ty.param p.name p.pos)
    (m.params.zip bounds).map fun (p, _, bound) => (p.pos, bound.subst σ)

/-- What is known of the types of a program and of a package that is added to it. -/
def settingOf (p : Program) (fresh : List TypeDecl) (objects : List Object) : Setting :=
  let generics := (objects ++ p.packages.flatMap (·.objects)).filterMap namedGenerics?
  let own := objects.flatMap fun o => (boundsIn (genericsIn o.type)).map fun (q, b) => (q.pos, b)
  { table := p.table ++ fresh
    generics
    bounds := own ++ fresh.flatMap fun d => methodBounds ((generics.lookup d.name).getD []) d }

/-- Whether the declared types are sound. -/
def typesFit (c : Setting) (fresh : List TypeDecl) (objects : List Object) : Bool :=
  let types := objects.map (·.type) ++ fresh.map (·.rhs) ++
    fresh.flatMap fun d => d.methods.map (·.type)
  c.table.areFinite (fresh.map (·.name)) && fresh.all (methodsFit c.table) &&
    types.all c.isSound &&
    objects.all fun o => o.kind != .var || !o.type.isConstraint c.table

end TaggedUnion.Program
