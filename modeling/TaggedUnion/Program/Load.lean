import TaggedUnion.Program.Annotate
import TaggedUnion.Program.Declare
import TaggedUnion.Program.Fit
import TaggedUnion.Program.Receiver
import TaggedUnion.Program.TopLevel
import TaggedUnion.Syntax.Parser

/-!
# Loading packages

Reads the files of a package, resolves its names and adds it to a program. Loading fails for a package
that is plainly wrong: a file that cannot be read, a name that is declared twice or not at all, an imported
package that cannot be found or is of no use, a type that contains itself, a type argument that does not
satisfy its bound.
-/

namespace TaggedUnion.Program

open Source TaggedUnion.Types Syntax

/-! ## Imports -/

/-- The names that other packages can use. -/
def Package.exported (p : Package) : List String :=
  (p.objects.filter fun o => Text.isExported o.name).map (·.name)

/-- What the imports of a file bring into scope. All of it must be of use. -/
def fileScope? (p : Program) (f : File) : Option FileScope := do
  let entries ← f.imports.mapM fun i => do return (i, ← p.package? i.path)
  guard (entries.all (·.2.name != ""))
  let name := fun ((i, package) : ImportSpec × Package) => (i.name.map (·.name)).getD package.name
  let named := entries.filter fun e => name e != "." && name e != "_"
  let names := named.map fun e => (name e, e.1.path)
  guard (distinct (names.map (·.1)))
  guard (names.all fun n => n.1 != "init" && f.qualifiers.contains n.1)
  let dots := entries.filter (name · == ".")
  guard (dots.all fun e => e.2.exported.any f.words.contains)
  return { names, dots := dots.map (·.1.path) }

/-- The names that the imports of a file bring into scope. -/
def FileScope.allNames (p : Program) (s : FileScope) : List String :=
  s.names.map (·.1) ++ s.dots.flatMap fun path => ((p.package? path).map Package.exported).getD []

/-! ## Objects -/

/-- What a declaration says. -/
def OwnDecl.recall (env : Env) (d : OwnDecl) : Check Answer :=
  if d.isNamed then env.ask (.name d.name.name) else d.answer env env.ask

/-- What a declared variable is to take, if it has a type of its own. -/
def claim? (env : Env) (d : OwnDecl) : Check (Option Claim) := do
  match d.body with
  | .var type value part => claimOf (env.site d.file) env.ask type value part
  | _ => return none

/-- The object of a declaration. -/
def object (env : Env) (d : OwnDecl) : Check Object := do
  let s := env.site d.file
  let base : Object :=
    { name := d.name.name, home := env.self, pos := d.name.pos, kind := .var, type := .invalid }
  match d.body, ← attempt (d.recall env) with
  | .type spec, some (.type params rhs) =>
    let generics ← genericsOf { s with params } env.ask spec.params
    let name := ownTypeName s spec
    return { base with
      kind := if spec.isAlias then .synonym else .type
      type := if spec.isAlias then .synonym name generics [] rhs else .named name generics []
      params }
  | .var _ _ _, some (.value type _) => return { base with type }
  | .const _ _ _, some (.value type value) => return { base with kind := .const, type, value }
  | .const _ _ _, none => return { base with kind := .const }
  | .func _, some (.value type _) => return { base with kind := .func, type }
  | _, _ => throw .wrong

/-- The methods of a defined type. -/
def methodsOf (env : Env) (base : String) : Check (List MethodDecl) :=
  (env.methods.filter (·.base == base)).mapM (·.answer env env.ask)

/-- What the right-hand side of a declared type stands for, if that is a generic type with arguments. -/
def expansion? (s : Site) (ask : Ask) (rhs : Ty) : Check (Option Ty) := do
  match rhs.unalias with
  | .named _ _ (_ :: _) => return some (← underlying s ask rhs)
  | _ => return none

/-- The table entry of a defined type. -/
def typeDecl? (env : Env) (d : OwnDecl) : Check (Option TypeDecl) := do
  let s := env.site d.file
  match d.body, ← d.recall env with
  | .type spec, .type params rhs =>
    if spec.isAlias then return none
    let methods ← methodsOf env spec.name.name
    let expanded ← expansion? s env.ask rhs
    return some { name := ownTypeName s spec, params, rhs, expanded, methods }
  | _, _ => return none

/-! ## Annotation -/

/-- Annotates the type expressions of a declaration. -/
def annotateDecl (s : Site) (ask : Ask) : Decl → Check Decl
  | .types doc specs => return .types doc (← specs.mapM fun spec => do
      let s := { s with params := paramDecls spec.params }
      let params ← spec.params.mapM fun (head, x) => do return (head, ← annotate s ask x)
      return { spec with params, type := ← annotate s ask spec.type })
  | .vars specs => return .vars (← specs.mapM valueSpec)
  | .consts specs => return .consts (← specs.mapM valueSpec)
  | d => return d
where
  valueSpec (spec : ValueSpec) : Check ValueSpec := do
    return { spec with type := ← spec.type.mapM (annotate s ask) }

/-- Annotates the type expressions of a file. -/
def annotateFile (env : Env) (i : Nat) (f : File) : Check File :=
  return { f with decls := ← f.decls.mapM (annotateDecl (env.site i) env.ask) }

/-! ## Packages -/

/-- What a package declares. -/
structure Resolved where
  /-- The objects of all declarations, in order. -/
  objects : List Object
  /-- The entries of the types. -/
  fresh : List TypeDecl
  /-- What variables are to take. -/
  claims : List Claim
  /-- The files with annotations. -/
  files : List File

/-- A declaration or a method, with its place. -/
structure Errand where
  pos : Pos
  run : Check Unit

/-- Runs something whatever comes of it; what is wrong shows again later. -/
def regardless (m : Check Unit) : Check Unit := do
  let _ ← apart m

/-- Whether a declaration is that of a type, and whether that is an alias. -/
def OwnDecl.isAlias? (d : OwnDecl) : Option Bool :=
  match d.body with
  | .type spec => some spec.isAlias
  | _ => none

/-- Looks at all declarations, in the order that decides which of several instances comes first: defined
types, aliases, everything else, each in the order of the source. -/
def surveyDecls (env : Env) (all : List OwnDecl) : Check Unit := do
  let errand := fun d : OwnDecl => Errand.mk d.name.pos (do let _ ← d.recall env)
  let methods := env.methods.map fun m =>
    Errand.mk m.spec.name.pos (do let _ ← env.ask (.method m.base m.spec.name.name))
  let others := (all.filter (·.isAlias?.isNone)).map errand ++ methods
  let errands := (all.filter (·.isAlias? == some false)).map errand ++
    (all.filter (·.isAlias? == some true)).map errand ++ others.mergeSort (·.pos ≤ ·.pos)
  errands.forM fun e => regardless e.run

/-- Expands all instances, in the order in which they were met. -/
def expandInstances (env : Env) : Check Unit := do
  let s := env.site 0
  for (_, t) in (← get).instances.reverse do
    match t with
    | .named name _ args => regardless do let _ ← unfoldOnce s env.ask name args
    | _ => pure ()

/-- Resolves the declarations of a package. -/
def resolveDecls (env : Env) (files : List File) (all : List OwnDecl) : Check Resolved := do
  surveyDecls env all
  expandInstances env
  let objects ← all.mapM (object env)
  let claims ← all.filterMapM (claim? env)
  let fresh ← all.filterMapM (typeDecl? env)
  let files ← (files.mapIdx fun i f => (i, f)).mapM fun (i, f) => annotateFile env i f
  return { objects, fresh, claims, files }

/-- Resolves the names of a package whose files have been read. One without files has no name, and cannot
be imported. -/
def resolvePackage? (p : Program) (path : String) (files : List File) : Option Program := do
  let name := (files.head?.map (·.package)).getD ""
  guard (name != "_" && files.all (·.package == name))
  guard (files.all fun f => f.decls.all countsAgree)
  let scopes ← files.mapM (fileScope? p)
  let all := (files.mapIdx fun i f => f.decls.flatMap (declared i)).flatten
  let own := all.filter OwnDecl.isNamed
  let names := own.map (·.name.name)
  guard (distinct names && all.all (OwnDecl.nameFits name))
  guard (scopes.all fun s => (s.allNames p).all fun n => !names.contains n)
  let methods ← (files.mapIdx fun i f => (i, f)).mapM fun (i, f) => fileMethods? own i f
  let env : Env := { self := path, own, methods := methods.flatten, scopes, imported := p }
  let r ← ((resolveDecls env files all).run.run {}).1.toOption
  let setting := settingOf p r.fresh r.objects
  guard (typesFit setting r.fresh r.objects && r.claims.all (·.holds setting))
  let kept := (all.zip r.objects).filter (·.1.isNamed)
  let package : Package :=
    { path
      name
      files := r.files
      objects := (kept.map (·.2)).mergeSort (·.name ≤ ·.name)
      definitions := r.objects
      imports := (files.flatMap fun f => f.imports.map (·.path)).eraseDups }
  return { p with table := setting.table, packages := p.packages ++ [package] }

/-- Reads files into a file set, in order. -/
def readFiles? (files : FileSet) : List (String × String) → Option (FileSet × List File)
  | [] => some (files, [])
  | (name, text) :: rest => do
    let (files, f) ← parseFile? files name text
    let (files, fs) ← readFiles? files rest
    return (files, f :: fs)

/-- Adds a package to a program, given its files by name. -/
def load? (p : Program) (path : String) (sources : List (String × String)) :
    Option Program := do
  let (files, parsed) ← readFiles? p.files (sources.mergeSort (·.1 ≤ ·.1))
  resolvePackage? { p with files } path parsed

/-- Loads packages one after the other; each may import the earlier ones. -/
def loadAll? (p : Program) : List (String × List (String × String)) → Option Program
  | [] => some p
  | (path, sources) :: rest => do (← p.load? path sources).loadAll? rest

end TaggedUnion.Program
