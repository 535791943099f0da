import TaggedUnion.Name.Candidate
import TaggedUnion.Syntax.Equality
import TaggedUnion.Union.Subject

/-!
# Drafts

A *draft* is code in the making: the text written so far and the packages it refers to. Every such
package is imported under a name of its own, which no declaration of the package that the code is for
has, and which it keeps. The name is the first candidate of the package's current name that is free.

Packages have a *current* name: at first the declared one, later the name they are imported under. It
is shared by all code that is generated in one run.

Expressions copied from the source are adapted to the names in the table of imports. Parts of an
expression that were adapted once stay so; the draft remembers the expression with its new form.
-/

namespace TaggedUnion

open Source TaggedUnion.Types Syntax

/-! ## Names of packages -/

/-- The current names of packages by import path; an entry hides the later ones of its path. -/
structure PackageNames where
  entries : List (String × String) := []

namespace PackageNames

/-- The current name of a package; empty if the package is not known. -/
def current (names : PackageNames) (path : String) : String :=
  (names.entries.lookup path).getD ""

/-- Gives a package another name. -/
def rename (names : PackageNames) (path name : String) : PackageNames :=
  ⟨(path, name) :: names.entries⟩

/-- The packages of a program under the names they declare. -/
def declared (program : Program) : PackageNames :=
  ⟨(program.packages.reverse ++ [Program.sourcelessPackage]).map fun p => (p.path, p.name)⟩

end PackageNames

/-! ## Imports -/

/-- What a name of the import table stands for. -/
structure Import where
  path : String
  /-- Whether the name is not the one that the package declares. -/
  hasAlias : Bool
deriving Repr, DecidableEq

/-- Code in the making. -/
structure Draft where
  text : String := ""
  /-- The imported packages by the names they are imported under, in the order of their first use. -/
  imports : List (String × Import) := []
  /-- The current names of packages. -/
  names : PackageNames := {}
  /-- Expressions of the source of which parts were adapted, with their new forms. -/
  adapted : List (Expr × Expr) := []

namespace Draft

variable (s : Subject)

/-- Adds text at the end. -/
def write (d : Draft) (text : String) : Draft :=
  { d with text := d.text ++ text }

/-- Whether a package can be imported under a name: the name stands for it already, or it is
free. -/
def admits (d : Draft) (path name : String) : Bool :=
  match d.imports.lookup name with
  | some i => i.path == path
  | none => !s.declares name

/-- The name under which a package is imported: the first candidate that is admitted. There is none
for an empty name. -/
def importName? (d : Draft) (path base : String) : Option String :=
  Name.search? base (d.imports.length + s.objects.length) (d.admits s path)

/-- Enters a name into the table, unless it is there already. -/
def enter (d : Draft) (name : String) (i : Import) : Draft :=
  if (d.imports.lookup name).isSome then d else { d with imports := d.imports ++ [(name, i)] }

/-- Imports a package that the code refers to and names it accordingly. Nothing is to be done for the
package that the code is for, or for what no package declares. -/
def importPackage (d : Draft) (path : String) : Draft :=
  if path == "" || path == s.path then d
  else
    let base := d.names.current path
    match d.importName? s path base with
    | none => d
    | some name =>
      { d.enter name ⟨path, name != base⟩ with names := d.names.rename path name }

/-- Imports a package by its path, if possible under the given name, and returns the name it has got.
Without a name it is the current one, if the package is known. The package keeps its current name. -/
def importPath (d : Draft) (path name : String) : Option (String × Draft) :=
  let known := if s.imports.contains path then d.names.current path else name
  let base := if name == "" then known else name
  (d.importName? s path base).map fun found => (found, d.enter found ⟨path, found != known⟩)

/-- Imports the packages that a type refers to. An alias stands for itself; what interfaces are made of
is not looked at. -/
def importType (d : Draft) : Ty → Draft
  | .basic _ => d
  | .pointer elem => d.importType elem
  | .slice elem => d.importType elem
  | .array _ elem => d.importType elem
  | .map key elem => (d.importType key).importType elem
  | .chan _ elem => d.importType elem
  | .func _ params results _ => importParams (importParams d params) results
  | .struct fields => importFields d fields
  | .interface _ _ _ => d
  | .union _ => d
  | .named name _ args => importAll (d.importPackage s name.home) args
  | .synonym name _ _ _ => d.importPackage s name.home
  | .param _ _ => d
where
  importAll (d : Draft) : List Ty → Draft
    | [] => d
    | t :: rest => importAll (d.importType t) rest
  importParams (d : Draft) : List (String × Ty) → Draft
    | [] => d
    | (_, t) :: rest => importParams (d.importType t) rest
  importFields (d : Draft) : List (FieldHead × Ty) → Draft
    | [] => d
    | (_, t) :: rest => importFields (d.importType t) rest

/-- Imports what an identifier refers to: the packages of its type, and its own. -/
def importIdent (d : Draft) (id : Ident) : Draft :=
  match id.meaning with
  | none => d
  | some (.package _) => d
  | some (.predeclared type) => d.importType s type
  | some (.topLevel home type) => (d.importType s type).importPackage s home
  | some (.inner home type) => (d.importType s type).importPackage s home

/-- Imports what the identifiers of an expression refer to, in order. -/
def importExpr (d : Draft) (x : Expr) : Draft :=
  x.idents.foldl (·.importIdent s) d

/-- How types are written in the code. -/
def qualifier (d : Draft) : Qualifier :=
  s.qualifier d.names.current

/-- The text of a type in the code, after what it refers to is imported. -/
def typeText (d : Draft) (t : Ty) : String × Draft :=
  let d := d.importType s t
  (t.text (d.qualifier s), d)

end Draft

end TaggedUnion
