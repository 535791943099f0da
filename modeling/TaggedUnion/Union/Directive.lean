import TaggedUnion.Union.Subject

/-!
# Derive directives

A comment of its own asks for the conversions of a tagged union: the *directive*, in the doc comment of
a type declaration. On a group of declarations it holds for all of them, unless one has a directive of
its own. Only the first directive of a doc comment counts.

Files that were generated by an earlier run say so before their package clause; they are passed over.
A directive of any other file that belongs to no type declaration is *misplaced*.
-/

namespace TaggedUnion

open Source Syntax Program

/-- The comment that asks for conversions. -/
def directiveText : String := "//enumorph:derive"

/-- The import path of the generator, which generated files name. -/
def generatorPath : String := "github.com/sublee/enumorph"

/-- How the header of a generated file starts. -/
def generatedHeader : String := "// Code generated by " ++ generatorPath

/-- Whether a comment is a directive; blanks at its end do not matter. -/
def isDirective (c : Comment) : Bool :=
  (c.text.toList.reverse.dropWhile fun x => x == ' ' || x == '\t').reverse == directiveText.toList

/-- The first directive of a doc comment. -/
def directive? (doc : Option (List Comment)) : Option Comment :=
  (doc.getD []).find? isDirective

/-- A type declaration that asks for conversions. -/
structure Request where
  spec : TypeSpec
  directive : Comment

/-- The requests of a declaration. -/
def declRequests : Decl → List Request
  | .types doc specs =>
    specs.filterMap fun spec => ((directive? spec.doc).or (directive? doc)).map (⟨spec, ·⟩)
  | _ => []

/-- The directives of a declaration that are in place, those of a group first. -/
def placed : Decl → List Comment
  | .types doc specs =>
    (directive? doc).toList ++ specs.filterMap fun spec => directive? spec.doc
  | _ => []

/-- Whether the comment group starts before the place. -/
def startsBefore (pos : Pos) (group : List Comment) : Bool :=
  match group with
  | [] => true
  | c :: _ => c.pos < pos

/-- Whether a file says before its package clause that it was generated. -/
def isGeneratedFile (f : File) : Bool :=
  (f.comments.takeWhile (startsBefore f.clause)).any fun group =>
    group.any fun c => c.text.startsWith generatedHeader

/-- The directives of a file that belong to no type declaration, in order. -/
def misplacedDirectives (f : File) : List Comment :=
  let used := (f.decls.flatMap placed).map (·.pos)
  (f.comments.flatten.filter isDirective).filter fun c => !used.contains c.pos

namespace Subject

/-- The files that were not generated. -/
def ownSources (s : Subject) : List File :=
  s.sources.filter fun f => !isGeneratedFile f

/-- The declarations that ask for conversions, in order. -/
def requests (s : Subject) : List Request :=
  s.ownSources.flatMap fun f => f.decls.flatMap declRequests

/-- The misplaced directives, in order. -/
def misplaced (s : Subject) : List Comment :=
  s.ownSources.flatMap misplacedDirectives

/-- The names of the generated files. -/
def generatedNames (s : Subject) : List String :=
  (s.sources.filter isGeneratedFile).map (·.name)

/-- Whether an object is declared in a generated file, going by the file its position names. -/
def isGenerated (s : Subject) (o : Object) : Bool :=
  o.pos != 0 && s.generatedNames.contains (s.files.position o.pos).file

end Subject

end TaggedUnion
