import TaggedUnion.CommandLine.Command
import TaggedUnion.Program.Load

/-!
# Package listings

The packages that the command can work on are listed one to a line: the import path, then the files,
separated by blanks. A package comes after those it imports. A pattern asks for a package by its import
path or by its directory; a pattern that ends in dots asks for everything below.
-/

namespace TaggedUnion.CommandLine

open Text Program

/-- A listed package. -/
structure Entry where
  path : String
  /-- The files by their absolute paths. -/
  files : List String
deriving Repr, DecidableEq

/-- Reads a line of a listing; file names are relative to a directory. -/
def Entry.parse? (directory line : String) : Option Entry :=
  let absolute := fun file => if Path.isAbsolute file then Path.clean file else Path.join [directory, file]
  let isBlank := fun c => c == ' ' || c == '\t' || c == '\n' || c == '\r'
  match ((line.toList.splitBy fun a b => isBlank a == isBlank b).filter fun w => !w.any isBlank) with
  | [] => none
  | path :: files =>
    some { path := String.ofList path, files := files.map fun f => absolute (String.ofList f) }

/-- The directory of a package. -/
def Entry.directory (e : Entry) : String :=
  ((e.files.head?).map Path.directory).getD ""

/-- Whether a package holds tests only. -/
def Entry.isTest (e : Entry) : Bool :=
  !e.files.isEmpty && e.files.all (·.endsWith "_test.go")

/-- The part of a pattern before the dots that stand for everything below. -/
def stem? (pattern : String) : Option String :=
  match pattern.toList.reverse with
  | '.' :: '.' :: '.' :: '/' :: rest => some (String.ofList rest.reverse)
  | _ => none

/-- Whether a pattern asks for a package. -/
def Entry.matches (directory pattern : String) (e : Entry) : Bool :=
  let below := fun (base path : String) =>
    (Path.components base).isPrefixOf (Path.components path)
  match stem? pattern with
  | some base => below (Path.join [directory, base]) e.directory || below base e.path
  | none => e.path == pattern || e.directory == Path.join [directory, pattern]

/-- Loads the listed packages, given with the texts of their files, and returns those that were asked
for. A package that cannot be read is delivered with an error. -/
def deliver (directory : String) (request : LoadRequest)
    (entries : List (Entry × List (String × String))) : PackageNames × List Loaded :=
  let (program, broken) := entries.foldl (fun ((p : Program), broken) (e, sources) =>
    match p.load? e.path sources with
    | some p => (p, broken)
    | none => (p, e.path :: broken)) ({}, [])
  let roots := entries.filter fun (e, _) =>
    request.patterns.any (e.matches directory ·) && (request.tests || !e.isTest)
  let loaded := roots.filterMap fun (e, _) =>
    if broken.contains e.path then
      some { delivery := ⟨"", e.path, none, none, none, none⟩, paths := e.files
             errors := [⟨e.directory, "cannot be read"⟩] }
    else (program.package? e.path).map fun package =>
      { delivery := .ofPackage program package, paths := e.files }
  (.declared program, loaded)

end TaggedUnion.CommandLine
