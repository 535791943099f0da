import TaggedUnion.Layout.Expr
import TaggedUnion.Syntax.CodeUnit

/-!
# Layout of files

Files of functions are laid out in the same style as expressions: statements on lines of their own,
indented by tabs, imports sorted by path. All comments of the file stay. Empty lines between
declarations stay too, but there is never more than one. A text that cannot be read is not laid out.
-/

namespace TaggedUnion.Layout

open Source Syntax

variable (files : FileSet)

/-! ## Declarations -/

/-- Writes a function declaration. -/
def putDefinition (d : Definition) : Put Unit := do
  goTo d.pos
  symbol "func"
  space .blank
  goTo d.name.pos
  name d.name.name
  match d.params with
  | none => pure ()
  | some (groups, lbrack, rbrack) =>
    putParamList files "[" "]" lbrack rbrack (layGroups files groups)
  (lay files d.type).signature
  space .blank
  putBlock d.lbrace d.rbrace (putIndented true (layBody files d.body))

/-- Imports are sorted by path, and by name where one is imported under several. -/
def importLe (a b : ImportSpec) : Bool :=
  let name := fun i : ImportSpec => (i.name.map (·.name)).getD ""
  a.path < b.path || (a.path == b.path && name a ≤ name b)

/-- Writes an import at a place. -/
def putImport (pos : Pos) (i : ImportSpec) : Put Unit := do
  goTo pos
  match i.name with
  | some id =>
    name id.name
    space .blank
    goTo pos
  | none => pure ()
  literal false i.literal

/-- Writes imports on lines of their own, given with their places. -/
def putImportLines (previous : Option Bool) : List (Pos × ImportSpec) → Put Unit
  | [] => return ()
  | (pos, i) :: rest => do
    match previous with
    | none => pure ()
    | some long =>
      let _ ← lineBreak (← lineOf pos) 1 .ignore long
    let long ← spansLines (putImport pos i)
    putImportLines (some long) rest

/-- Writes the imports of a file, sorted, at the places they have in the source. -/
def putImports (g : ImportGroup) : Put Unit := do
  goTo g.pos
  symbol "import"
  space .blank
  goTo g.lparen
  symbol "("
  if !g.specs.isEmpty then
    space .indent
    space .sectionBreak
    putImportLines none ((g.specs.map (·.pos)).zip (g.specs.mergeSort importLe))
    space .unindent
    space .sectionBreak
  goTo g.rparen
  symbol ")"

/-! ## Files -/

/-- Writes functions. One that has a comment or comes first is set off by an empty line. -/
def putDefinitions (isFirst : Bool) : List Definition → Put Unit
  | [] => return ()
  | d :: rest => do
    let first ← lineOf d.pos
    let long := first < (← lineOf (d.rbrace + 1))
    let _ ← lineBreak first (if isFirst || d.documented then 2 else 1) .ignore long
    putDefinition files d
    putDefinitions false rest

/-- Writes a file. -/
def putUnit (u : CodeUnit) : Put Unit := do
  goTo u.clause
  symbol "package"
  space .blank
  goTo u.package.pos
  name u.package.name
  match u.imports with
  | none => pure ()
  | some g =>
    let _ ← lineBreak (← lineOf g.pos) 2 .ignore false
    putImports g
  putDefinitions files true u.definitions
  space .newline

/-- A file in the fixed style; there is none if it cannot be read. -/
def format? (text : String) : Option String :=
  (parseUnit? text).map fun (files, unit) =>
    render (finish files { attached := false, comments := unit.comments } (putUnit files unit))

end TaggedUnion.Layout
