import TaggedUnion.Program.Site

/-!
# Top-level declarations

What the declarations of a file declare, one by one, and whether they have as many values as names and
names that they may have. Constants of a group repeat values that are left out.
-/

namespace TaggedUnion.Program

open Source TaggedUnion.Types Syntax

/-- The variables of a specification. Several can share one value. -/
def varDecls (file : Nat) (spec : ValueSpec) : List OwnDecl :=
  match spec.names, spec.values with
  | _ :: _ :: _, [value] =>
    let count := spec.names.length
    spec.names.mapIdx fun i name => ⟨name, file, .var spec.type (some value) (some (i, count))⟩
  | names, values => names.mapIdx fun i name => ⟨name, file, .var spec.type values[i]? none⟩

/-- The constants of a group. A specification without a type and values repeats the one before. -/
def constDecls (file : Nat) (type : Option Expr) (values : List Expr) : List ValueSpec → List OwnDecl
  | [] => []
  | spec :: rest =>
    let (type, values) :=
      if spec.type.isNone && spec.values.isEmpty then (type, values) else (spec.type, spec.values)
    (spec.names.mapIdx fun i name => ⟨name, file, .const type values[i]? spec.index⟩) ++
      constDecls file type values rest

/-- What a declaration declares; methods are left out. -/
def declared (file : Nat) : Decl → List OwnDecl
  | .types _ specs => specs.map fun spec => ⟨spec.name, file, .type spec⟩
  | .vars specs => specs.flatMap (varDecls file)
  | .consts specs => constDecls file none [] specs
  | .func spec => if spec.receiver.isSome then [] else [⟨spec.name, file, .func spec⟩]

/-- Whether there are as many values as names, or one value for several variables, or none. -/
def varCountsAgree (spec : ValueSpec) : Bool :=
  spec.values.isEmpty || spec.values.length == spec.names.length || spec.values.length == 1

/-- Whether there are as many values as names, counting values that are repeated. -/
def constCountsAgree (count : Nat) : List ValueSpec → Bool
  | [] => true
  | spec :: rest =>
    let count := if spec.type.isNone && spec.values.isEmpty then count else spec.values.length
    count == spec.names.length && constCountsAgree count rest

/-- Whether the values of a declaration are as many as its names. -/
def countsAgree : Decl → Bool
  | .vars specs => specs.all varCountsAgree
  | .consts specs => constCountsAgree 0 specs
  | _ => true

/-- Whether a declaration takes up its name at the top level. -/
def OwnDecl.isNamed (d : OwnDecl) : Bool :=
  d.name.name != "_" &&
    match d.body with
    | .func spec => spec.name.name != "init"
    | _ => true

/-- Whether a function takes nothing and returns nothing. -/
def isPlainFunction (spec : FuncSpec) : Bool :=
  spec.params.isEmpty &&
    match spec.type with
    | .func _ params _ _ results lresult _ => params.isEmpty && results.isEmpty && lresult == 0
    | _ => false

/-- Whether a declaration can have its name in a package of the given name. Two names are for functions that
are run when the program starts. -/
def OwnDecl.nameFits (package : String) (d : OwnDecl) : Bool :=
  let isStart := d.name.name == "init"
  if isStart || (d.name.name == "main" && package == "main") then
    match d.body with
    | .func spec => isPlainFunction spec && (spec.hasBody || !isStart)
    | _ => false
  else true

end TaggedUnion.Program
