import TaggedUnion.Program.Object

/-!
# Names in scope

What the names of a package refer to. A name is looked up in the blocks of the function around it, among
the type parameters in scope, the imports of its file, the declarations of its package and the predeclared
names, in this order.
-/

namespace TaggedUnion.Program

open Source TaggedUnion.Types Syntax

/-- What a top-level name of the package at hand is declared as. -/
inductive Body
  | type (spec : TypeSpec)
  /-- A variable with its type and its value; `part` is its number, and how many there are, if it is
  one of several that share a value. -/
  | var (type value : Option Expr) (part : Option (Nat × Nat))
  /-- A constant with its type, its value, and its number in its group. -/
  | const (type value : Option Expr) (index : Nat)
  | func (spec : FuncSpec)

/-- A top-level declaration of the package at hand. -/
structure OwnDecl where
  name : Ident
  /-- The number of the file it stands in. -/
  file : Nat
  body : Body

/-- A method of a type of the package at hand. -/
structure OwnMethod where
  file : Nat
  /-- The name of the type. -/
  base : String
  /-- The names that the receiver gives to the type parameters of the type. -/
  params : List ParamDecl
  /-- The name of the receiver. -/
  receiver : String
  /-- Whether the receiver is a pointer. -/
  viaPointer : Bool
  spec : FuncSpec

/-- What the imports of a file bring into scope. -/
structure FileScope where
  /-- Names for packages, with import paths. -/
  names : List (String × String) := []
  /-- The paths of packages whose names are used without a qualifier. -/
  dots : List String := []

/-- What names can refer to in the package at hand. -/
structure Env where
  /-- The import path of the package. -/
  self : String
  own : List OwnDecl
  methods : List OwnMethod
  scopes : List FileScope
  /-- The packages that can be imported. -/
  imported : Program

/-- The declaration of a name of the package at hand. -/
def Env.find? (env : Env) (name : String) : Option OwnDecl :=
  env.own.find? (·.name.name == name)

/-- Whether a type is declared at the top level of the package at hand. -/
def Env.declares (env : Env) (name : TypeName) : Bool :=
  name.home == env.self && (env.find? name.name).any (·.name.pos == name.pos)

/-- More than the number of steps from one defined type to what it stands for. -/
def Env.bound (env : Env) : Nat :=
  env.own.length + env.imported.table.length + 1

/-- What sort of thing a function declares in its body. -/
inductive LocalSort
  | variable
  | constant (value : Constant)
  | type

/-- What a function declares in its body, or as a parameter. -/
structure LocalDecl where
  name : String
  sort : LocalSort := .variable
  type : Ty

/-- A place at which names are resolved. -/
structure Site where
  env : Env
  scope : FileScope
  /-- What the blocks around the place declare, the innermost one first. -/
  blocks : List (List LocalDecl) := []
  /-- The name that stands for the value whose type the clauses here choose by, and its type. -/
  chosen : Option (String × Ty) := none
  /-- The type parameters in scope. -/
  params : List ParamDecl := []
  /-- The number that counts constants of a group. -/
  index : Option Nat := none

/-- The place in a file of the package at hand. -/
def Env.site (env : Env) (file : Nat) : Site :=
  { env, scope := (env.scopes[file]?).getD {} }

/-- What a name refers to. -/
inductive Referent
  | inner (d : LocalDecl)
  | param (p : ParamDecl)
  | package (path : String)
  | own (d : OwnDecl)
  | foreign (o : Object)
  | predeclared (name : String)

/-- The declared type parameters of a list of groups. -/
def paramDecls (groups : List (GroupHead × Expr)) : List ParamDecl :=
  groups.flatMap fun (head, _) => head.names.map fun id => ⟨id.name, id.pos⟩

namespace Site

/-- The place in a new block. -/
def inBlock (s : Site) (decls : List LocalDecl) : Site :=
  { s with blocks := decls :: s.blocks }

/-- The place after further declarations in the same block. -/
def after (s : Site) (decls : List LocalDecl) : Site :=
  match s.blocks with
  | [] => s.inBlock decls
  | block :: rest => { s with blocks := (decls ++ block) :: rest }

/-- What a name refers to at a site. -/
def lookup (s : Site) (name : String) : Option Referent :=
  match s.blocks.flatten.find? (·.name == name) with
  | some d => some (.inner d)
  | none =>
  match s.params.find? (·.name == name) with
  | some p => some (.param p)
  | none =>
  match s.scope.names.lookup name with
  | some path => some (.package path)
  | none =>
  match s.scope.dots.findSome? fun path =>
      if Text.isExported name then (s.env.imported.package? path).bind (·.find? name) else none with
  | some o => some (.foreign o)
  | none =>
  match s.env.find? name with
  | some d => some (.own d)
  | none => if predeclaredNames.contains name then some (.predeclared name) else none

/-- What a qualified name refers to. -/
def lookupIn (s : Site) (qualifier name : String) : Option Object :=
  match s.lookup qualifier with
  | some (.package path) =>
    if Text.isExported name then (s.env.imported.package? path).bind (·.find? name) else none
  | _ => none

end Site

/-- The name of a type declared in the package at hand. -/
def ownTypeName (s : Site) (spec : TypeSpec) : TypeName :=
  ⟨s.env.self, spec.name.name, spec.name.pos⟩

end TaggedUnion.Program
