import TaggedUnion.Syntax.Expr

/-!
# Files

The declarations of a source file, with their doc comments. Function bodies are not kept.
-/

namespace TaggedUnion.Syntax

open Source

/-- A type declaration `name[params] = type` or `name[params] type`. -/
structure TypeSpec where
  name : Ident
  /-- The doc comment of the declaration itself, if it stands in a group. -/
  doc : Option (List Comment) := none
  params : List (GroupHead × Expr) := []
  /-- The place of the equals sign of an alias; 0 if it is none. -/
  assign : Pos := 0
  type : Expr
deriving Repr, Inhabited

namespace TypeSpec

def pos (s : TypeSpec) : Pos := s.name.pos

def stop (s : TypeSpec) : Pos := s.type.stop

/-- Whether the declaration is an alias. -/
def isAlias (s : TypeSpec) : Bool := s.assign != 0

end TypeSpec

/-- Declared variables or constants. -/
structure ValueSpec where
  names : List Ident
  type : Option Expr := none
  values : List Expr := []
  /-- The number of the specification in its group. -/
  index : Nat := 0
deriving Repr, Inhabited

/-- A declared function or method. -/
structure FuncSpec where
  name : Ident
  receiver : Option (GroupHead × Expr) := none
  params : List (GroupHead × Expr) := []
  /-- The signature, as a function type. -/
  type : Expr
  hasBody : Bool := true
deriving Repr, Inhabited

/-- An imported package. The name is `.` or `_` for imports of those forms, and missing for plain
imports. -/
structure ImportSpec where
  pos : Pos
  name : Option Ident
  /-- The path as written. -/
  literal : String
  path : String
deriving Repr, Inhabited

/-- A top-level declaration. -/
inductive Decl
  | types (doc : Option (List Comment)) (specs : List TypeSpec)
  | vars (specs : List ValueSpec)
  | consts (specs : List ValueSpec)
  | func (spec : FuncSpec)
deriving Repr, Inhabited

/-- A source file. -/
structure File where
  /-- The name the file has in the file set. -/
  name : String
  /-- The place of the package clause. -/
  clause : Pos
  package : String
  imports : List ImportSpec := []
  decls : List Decl := []
  /-- All comment groups, in order. -/
  comments : List (List Comment) := []
  /-- The names that occur in the file, bodies of functions included. -/
  words : List String := []
  /-- Those among them that something is selected from. -/
  qualifiers : List String := []
deriving Repr, Inhabited

end TaggedUnion.Syntax
