import TaggedUnion.Program.Object
import TaggedUnion.Types.Text

/-!
# Packages to derive for

What a loader delivers for a package may lack parts. A *subject* is a package with all the parts that
deriving conversions needs: a name and an import path, what it declares, the places and the text of
its files, and what its declarations mean.
-/

namespace TaggedUnion

open Source TaggedUnion.Types Syntax Program

/-- What is known about the meaning of declarations. -/
structure TypeInfo where
  table : TypeTable
  /-- The objects of declarations, by the places of their names. -/
  definitions : List Object

/-- What a package is to other packages. -/
structure Scope where
  name : String
  path : String
  /-- What the package declares at its top level. -/
  objects : List Object := []
  /-- The paths of the packages it imports. -/
  imports : List String := []

/-- A package as it is delivered; parts of it may be missing. Its name and path are told besides those
that its scope has. -/
structure Delivery where
  name : String
  path : String
  scope : Option Scope
  files : Option FileSet
  sources : Option (List File)
  info : Option TypeInfo

/-- A part of a package that must not be missing. -/
inductive Part
  | name
  | path
  | scope
  | files
  | sources
  | info
deriving Repr, DecidableEq

/-- What is said of a package that lacks a part. -/
def Part.message : Part → String
  | name => "need pkg name"
  | path => "need pkg path"
  | scope => "need pkg types"
  | files => "need pkg fset"
  | sources => "need pkg syntax"
  | info => "need pkg types info"

/-- A package that is complete enough to derive conversions for. -/
structure Subject where
  name : String
  path : String
  /-- What the package declares at its top level. -/
  objects : List Object
  /-- The paths of the packages it imports. -/
  imports : List String
  files : FileSet
  sources : List File
  info : TypeInfo

namespace Subject

/-- The object that a name at the given place declares. -/
def definition? (s : Subject) (pos : Pos) : Option Object :=
  s.info.definitions.find? (·.pos == pos)

/-- Whether the package declares a name at its top level. -/
def declares (s : Subject) (name : String) : Bool :=
  s.objects.any (·.name == name)

/-- How types are written in code that goes into the package, given the current names of packages:
its own types without a qualifier, others with the name of their package. -/
def qualifier (s : Subject) (nameOf : String → String) : Qualifier := fun path =>
  if path == s.path then "" else nameOf path

/-- A loaded package of a program. -/
def ofPackage (program : Program) (p : Package) : Subject :=
  { name := p.name
    path := p.path
    objects := p.objects
    imports := p.imports
    files := program.files
    sources := p.files
    info := ⟨program.table, p.definitions⟩ }

end Subject

/-- The package with nothing missing, or the first part it lacks. -/
def Delivery.subject (d : Delivery) : Except Part Subject :=
  if d.name == "" then .error .name
  else if d.path == "" then .error .path
  else match d.scope, d.files, d.sources, d.info with
    | none, _, _, _ => .error .scope
    | _, none, _, _ => .error .files
    | _, _, none, _ => .error .sources
    | _, _, _, none => .error .info
    | some scope, some files, some sources, some info =>
      .ok { name := d.name, path := d.path, objects := scope.objects, imports := scope.imports, files,
            sources, info }

/-- A loaded package of a program, with nothing missing. -/
def Delivery.ofPackage (program : Program) (p : Package) : Delivery :=
  { name := p.name
    path := p.path
    scope := some { name := p.name, path := p.path, objects := p.objects, imports := p.imports }
    files := some program.files
    sources := some p.files
    info := some ⟨program.table, p.definitions⟩ }

end TaggedUnion
