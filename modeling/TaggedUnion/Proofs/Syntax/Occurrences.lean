import TaggedUnion.Syntax.File

/-!
# Where names occur

The names of an expression in the order in which they are written, each with the part that it plays: a name that is
selected from a package by another name, a name that stands by itself, the name of a type that is embedded in a
struct, or a name that belongs to what is around it, such as that of a field or a parameter (`Occurrence`).

What the body of a function declares by itself is left out: labels, and the names that `:=` and declarations in the
body introduce.
-/

namespace TaggedUnion.Syntax

open Source TaggedUnion.Types

/-- A name in an expression. -/
inductive Occurrence
  /-- A name that is selected from a package, or from a name without a meaning. -/
  | qualified (qualifier name : Ident)
  | plain (id : Ident)
  /-- The name of an embedded type, which is also that of a field. -/
  | embedded (id : Ident)
  /-- The name of a field, a method or a parameter, where it is declared or selected. -/
  | member (id : Ident)
deriving Inhabited

/-- The name itself, apart from a qualifier. -/
def Occurrence.name : Occurrence → String
  | .qualified _ id | .plain id | .embedded id | .member id => id.name

/-- The name in front of a dot, if it is that of a package or has no meaning. -/
def qualifier? : Expr → Option Ident
  | .ident id =>
    match id.meaning with
    | none | some (.package _) => some id
    | _ => none
  | _ => none

/-- The names that a group declares. -/
def GroupHead.members (head : GroupHead) : List Occurrence :=
  head.names.map .member

mutual

/-- The names in an expression, given whether it is the type of an embedded field. -/
def Expr.occurrences (embedded : Bool) : Expr → List Occurrence
  | .missing _ => []
  | .ident id => [if embedded then .embedded id else .plain id]
  | .literal _ _ _ => []
  | .selector x sel =>
    match qualifier? x with
    | some id => [.qualified id sel]
    | none => x.occurrences false ++ [.member sel]
  | .index x _ args _ => x.occurrences embedded ++ allOccurrences args
  | .slicing x _ bounds _ => x.occurrences false ++ allOccurrences bounds
  | .assertion x _ type _ => x.occurrences false ++ type.occurrences false
  | .call function _ args _ _ => function.occurrences false ++ allOccurrences args
  | .composite type _ elems _ => type.occurrences false ++ allOccurrences elems
  | .keyed key _ value => key.occurrences false ++ value.occurrences false
  | .closure type _ body _ => type.occurrences false ++ bodyOccurrences body
  | .star _ x => x.occurrences embedded
  | .paren _ x _ => x.occurrences embedded
  | .unary _ _ x => x.occurrences false
  | .binary x _ _ y => x.occurrences false ++ y.occurrences false
  | .ellipsis _ elem => elem.occurrences false
  | .slice _ elem => elem.occurrences false
  | .array _ length elem => length.occurrences false ++ elem.occurrences false
  | .map _ key elem => key.occurrences false ++ elem.occurrences false
  | .chan _ _ _ elem => elem.occurrences false
  | .func _ params _ _ results _ _ => groupOccurrences params ++ groupOccurrences results
  | .struct _ _ fields _ => fieldOccurrences fields
  | .interface _ _ elems _ => groupOccurrences elems

/-- The names in a statement. -/
def Statement.occurrences : Statement → List Occurrence
  | .empty _ => []
  | .expr x => x.occurrences false
  | .send channel _ value => channel.occurrences false ++ value.occurrences false
  | .step x _ _ => x.occurrences false
  | .assign targets _ op values =>
    (if op = ":=" then [] else allOccurrences targets) ++ allOccurrences values
  | .start _ _ call => call.occurrences false
  | .ret _ results => allOccurrences results
  | .jump _ _ _ => []
  | .block _ body _ => bodyOccurrences body
  | .labelled _ _ target => target.occurrences
  | .cond _ first test body otherwise =>
    first.occurrences ++ (test.occurrences ++ (body.occurrences ++ otherwise.occurrences))
  | .loop _ first test after body =>
    first.occurrences ++ (test.occurrences ++ (after.occurrences ++ body.occurrences))
  | .range _ targets _ op x body =>
    (if op = ":=" then [] else allOccurrences targets) ++ (x.occurrences false ++ body.occurrences)
  | .choose _ _ first on _ clauses _ => first.occurrences ++ (on.occurrences ++ bodyOccurrences clauses)
  | .clause _ values exchange _ body =>
    allOccurrences values ++ (exchange.occurrences ++ bodyOccurrences body)
  | .declare _ _ _ _ specs _ => bodyOccurrences specs
  | .spec _ _ type values => type.occurrences false ++ allOccurrences values

/-- The names in expressions. -/
def allOccurrences : List Expr → List Occurrence
  | [] => []
  | x :: rest => x.occurrences false ++ allOccurrences rest

/-- The names in parameters or in elements of interfaces. -/
def groupOccurrences : List (GroupHead × Expr) → List Occurrence
  | [] => []
  | (head, x) :: rest => head.members ++ (x.occurrences false ++ groupOccurrences rest)

/-- The names in fields. A field without names of its own has that of its type. -/
def fieldOccurrences : List (GroupHead × Expr) → List Occurrence
  | [] => []
  | (head, x) :: rest => head.members ++ (x.occurrences head.names.isEmpty ++ fieldOccurrences rest)

/-- The names in statements. -/
def bodyOccurrences : List Statement → List Occurrence
  | [] => []
  | t :: rest => t.occurrences ++ bodyOccurrences rest

end

/-- The types that are written in a declaration of types, variables or constants. -/
def Decl.typeExprs : Decl → List Expr
  | .types _ specs => specs.flatMap fun spec => spec.params.map (·.2) ++ [spec.type]
  | .vars specs | .consts specs => specs.filterMap (·.type)
  | .func _ => []

end TaggedUnion.Syntax
