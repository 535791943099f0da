import TaggedUnion.Constant.Value
import TaggedUnion.Syntax.File
import TaggedUnion.Text.Letter
import TaggedUnion.Types.Predeclared

/-!
# Objects and packages

What a package declares at its top level, after its names have been resolved. A *program* is a list of
such packages over one file set, together with the table of the types they define.
-/

namespace TaggedUnion.Program

open Source TaggedUnion.Types Syntax

/-- No name is listed twice, blanks apart. -/
def distinct (names : List String) : Bool :=
  let names := names.filter (· != "_")
  names.eraseDups.length == names.length

/-- What sort of thing an object is. -/
inductive ObjectKind
  | type
  | synonym
  | var
  | const
  | func
  /-- A function that is known without a declaration. -/
  | builtin
deriving Repr, DecidableEq, Inhabited

/-- Something declared at the top level of a package. -/
structure Object where
  name : String
  /-- The import path of the declaring package. -/
  home : String
  pos : Pos
  kind : ObjectKind
  type : Ty
  /-- The type parameters of a generic type or alias. -/
  params : List ParamDecl := []
  /-- The value of a constant. -/
  value : Option Constant := none
deriving Repr, Inhabited

/-- A package with its names resolved. -/
structure Package where
  path : String
  /-- The name in the package clause. -/
  name : String
  files : List File
  /-- What is declared at the top level, sorted by name. -/
  objects : List Object
  /-- Everything that is declared, in order, under blank names too. -/
  definitions : List Object := []
  /-- The paths of the packages it imports. -/
  imports : List String
deriving Repr, Inhabited

/-- The object of a name, if it is declared at the top level. -/
def Package.find? (p : Package) (name : String) : Option Object :=
  p.objects.find? (·.name == name)

/-! ## The package without source -/

/-- The path of the package that needs no source. -/
def sourcelessPath : String := "unsafe"

/-- The type that this package declares. -/
def rawPointer : Object :=
  { name := "Pointer", home := sourcelessPath, pos := 0, kind := .type, type := .basic "Pointer" }

/-- The functions that this package declares. -/
def sourcelessFunctions : List Object :=
  ["Add", "Alignof", "Offsetof", "Sizeof", "Slice", "SliceData", "String", "StringData"].map fun name =>
    { name, home := sourcelessPath, pos := 0, kind := .builtin, type := .invalid }

/-- The package that needs no source. -/
def sourcelessPackage : Package :=
  { path := sourcelessPath, name := sourcelessPath, files := [],
    objects := rawPointer :: sourcelessFunctions, imports := [] }

end TaggedUnion.Program

namespace TaggedUnion

open Source TaggedUnion.Types Program

/-! ## Programs -/

/-- Packages over one file set. -/
structure Program where
  files : FileSet := {}
  table : TypeTable := predeclaredTable
  packages : List Package := []
deriving Inhabited

/-- The package of an import path; the latest one if there are several. -/
def Program.package? (p : Program) (path : String) : Option Package :=
  if path == sourcelessPath then some sourcelessPackage
  else p.packages.reverse.find? (·.path == path)

end TaggedUnion
