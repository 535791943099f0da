import TaggedUnion.Types.Type
import TaggedUnion.Source.Comment

/-!
# Expressions and statements

Expressions as they are written, with the places of their parts: types, and the values that the
lengths of arrays and the declarations of variables and constants are made of. Among these may be functions
with bodies, so that statements are parts of expressions. An identifier may carry its *meaning*: what it
refers to, as found by name resolution. Identifiers that are put into an expression later have none.
-/

namespace TaggedUnion.Syntax

open Source TaggedUnion.Types

/-- What an identifier refers to. -/
inductive Meaning
  /-- A package, by the name a file imports it under. -/
  | package (path : String)
  /-- Something that no package declares. -/
  | predeclared (type : Ty)
  /-- Something declared at the top level of a package. -/
  | topLevel (home : String) (type : Ty)
  /-- A field, method, parameter or type parameter, which belongs to a package but not to its top
  level. -/
  | inner (home : String) (type : Ty)
deriving Repr, Inhabited

/-- An identifier. -/
structure Ident where
  pos : Pos
  name : String
  meaning : Option Meaning := none
deriving Repr, Inhabited

/-- Where an identifier ends. -/
def Ident.stop (id : Ident) : Pos :=
  id.pos + id.name.utf8ByteSize

/-- A group of fields, parameters or methods, apart from its type: the names it declares, the struct tag
as written with its place, and the comments before it and at the end of its line. -/
structure GroupHead where
  names : List Ident := []
  tag : Option (Pos × String) := none
  doc : Option (List Comment) := none
  comment : Option (List Comment) := none
deriving Repr, Inhabited

/-- A specification in a declaration, apart from its types and values: the keyword of the declaration, its
number in it, the names it declares, the place of the equals sign of an alias, and the comments before it
and at the end of its line. -/
structure SpecHead where
  keyword : String := "var"
  index : Nat := 0
  names : List Ident := []
  assign : Pos := 0
  doc : Option (List Comment) := none
  comment : Option (List Comment) := none
deriving Repr, Inhabited

mutual

/-- Expressions. -/
inductive Expr
  /-- A part that is left out: a bound of a slice, the type of elements that follows from the type
  around them, the length of an array that follows from its elements, or the type that a choice among
  types asks for. -/
  | missing (pos : Pos)
  | ident (id : Ident)
  | literal (pos : Pos) (kind : TokenKind) (text : String)
  | selector (x : Expr) (sel : Ident)
  | index (x : Expr) (lbrack : Pos) (args : List Expr) (rbrack : Pos)
  /-- A part of a sequence: `x[a:b]` or `x[a:b:c]`. -/
  | slicing (x : Expr) (lbrack : Pos) (bounds : List Expr) (rbrack : Pos)
  | assertion (x : Expr) (lparen : Pos) (type : Expr) (rparen : Pos)
  /-- A call or conversion; `dots` is the place of dots after the last argument, or 0. -/
  | call (function : Expr) (lparen : Pos) (args : List Expr) (dots rparen : Pos)
  | composite (type : Expr) (lbrace : Pos) (elems : List Expr) (rbrace : Pos)
  | keyed (key : Expr) (colon : Pos) (value : Expr)
  /-- A function with a body. -/
  | closure (type : Expr) (lbrace : Pos) (body : List Statement) (rbrace : Pos)
  | star (pos : Pos) (x : Expr)
  | paren (lparen : Pos) (x : Expr) (rparen : Pos)
  | unary (pos : Pos) (op : String) (x : Expr)
  | binary (x : Expr) (opPos : Pos) (op : String) (y : Expr)
  /-- A variadic parameter type; also the length of an array that is left out. -/
  | ellipsis (pos : Pos) (elem : Expr)
  | slice (pos : Pos) (elem : Expr)
  | array (pos : Pos) (length elem : Expr)
  | map (pos : Pos) (key elem : Expr)
  | chan (pos arrow : Pos) (direction : Direction) (elem : Expr)
  /-- A function type; `pos` is 0 for the signature of a method. The brackets around the results
  are at 0 if there are none. -/
  | func (pos : Pos) (params : List (GroupHead × Expr)) (lparen rparen : Pos)
      (results : List (GroupHead × Expr)) (lresult rresult : Pos)
  | struct (pos lbrace : Pos) (fields : List (GroupHead × Expr)) (rbrace : Pos)
  | interface (pos lbrace : Pos) (elems : List (GroupHead × Expr)) (rbrace : Pos)

/-- Statements. -/
inductive Statement
  /-- Nothing; also a part of a statement that is left out. -/
  | empty (pos : Pos)
  | expr (x : Expr)
  | send (channel : Expr) (arrow : Pos) (value : Expr)
  /-- A step up or down by one. -/
  | step (x : Expr) (opPos : Pos) (op : String)
  /-- An assignment, perhaps with an operator, or a declaration of variables with their values. -/
  | assign (targets : List Expr) (opPos : Pos) (op : String) (values : List Expr)
  /-- A call that is made apart from the rest, or later. -/
  | start (pos : Pos) (keyword : String) (call : Expr)
  | ret (pos : Pos) (results : List Expr)
  | jump (pos : Pos) (keyword : String) (label : Option Ident)
  | block (lbrace : Pos) (body : List Statement) (rbrace : Pos)
  | labelled (label : Ident) (colon : Pos) (target : Statement)
  | cond (pos : Pos) (first test body otherwise : Statement)
  | loop (pos : Pos) (first test after body : Statement)
  /-- A loop over the parts of a value. -/
  | range (pos : Pos) (targets : List Expr) (opPos : Pos) (op : String) (x : Expr) (body : Statement)
  /-- A choice among clauses. -/
  | choose (pos : Pos) (keyword : String) (first on : Statement) (lbrace : Pos)
      (clauses : List Statement) (rbrace : Pos)
  /-- A clause of a choice: by values or types, or by an exchange over a channel. With neither it is the
  default. -/
  | clause (pos : Pos) (values : List Expr) (exchange : Statement) (colon : Pos) (body : List Statement)
  /-- A declaration; the brackets around its specifications are at 0 if there are none. -/
  | declare (pos : Pos) (keyword : String) (doc : Option (List Comment)) (lparen : Pos)
      (specs : List Statement) (rparen : Pos)
  /-- A specification in a declaration. -/
  | spec (head : SpecHead) (params : List (GroupHead × Expr)) (type : Expr) (values : List Expr)

end

deriving instance Repr for Expr, Statement

instance : Inhabited Expr := ⟨.missing 0⟩

instance : Inhabited Statement := ⟨.empty 0⟩

namespace Expr

/-- Where an expression starts. -/
def pos : Expr → Pos
  | missing pos => pos
  | ident id => id.pos
  | literal pos _ _ => pos
  | selector x _ => x.pos
  | index x _ _ _ => x.pos
  | slicing x _ _ _ => x.pos
  | assertion x _ _ _ => x.pos
  | call function _ _ _ _ => function.pos
  | composite type _ _ _ => type.pos
  | keyed key _ _ => key.pos
  | closure type _ _ _ => type.pos
  | star pos _ => pos
  | paren lparen _ _ => lparen
  | unary pos _ _ => pos
  | binary x _ _ _ => x.pos
  | ellipsis pos _ => pos
  | slice pos _ => pos
  | array pos _ _ => pos
  | map pos _ _ => pos
  | chan pos _ _ _ => pos
  | func pos _ lparen _ _ _ _ => if pos = 0 then lparen else pos
  | struct pos _ _ _ => pos
  | interface pos _ _ _ => pos

/-- Where an expression ends. -/
def stop : Expr → Pos
  | missing pos => pos
  | ident id => id.stop
  | literal pos _ text => pos + text.utf8ByteSize
  | selector _ sel => sel.stop
  | index _ _ _ rbrack => rbrack + 1
  | slicing _ _ _ rbrack => rbrack + 1
  | assertion _ _ _ rparen => rparen + 1
  | call _ _ _ _ rparen => rparen + 1
  | composite _ _ _ rbrace => rbrace + 1
  | keyed _ _ value => value.stop
  | closure _ _ _ rbrace => rbrace + 1
  | star _ x => x.stop
  | paren _ _ rparen => rparen + 1
  | unary _ _ x => x.stop
  | binary _ _ _ y => y.stop
  | ellipsis pos elem =>
    match elem with
    | missing _ => pos + 3
    | elem => elem.stop
  | slice _ elem => elem.stop
  | array _ _ elem => elem.stop
  | map _ _ elem => elem.stop
  | chan _ _ _ elem => elem.stop
  | func _ _ _ rparen results _ rresult =>
    if rresult ≠ 0 then rresult + 1
    else match results with
      | [] => rparen + 1
      | (_, type) :: _ => type.stop
  | struct _ _ _ rbrace => rbrace + 1
  | interface _ _ _ rbrace => rbrace + 1

/-- An expression without the parentheses around it. -/
def unparen : Expr → Expr
  | paren _ x _ => x.unparen
  | x => x

end Expr

/-- Where a statement starts. -/
def Statement.pos : Statement → Pos
  | empty pos => pos
  | expr x => x.pos
  | send channel _ _ => channel.pos
  | step x _ _ => x.pos
  | assign targets opPos _ _ => (targets.head?.map Expr.pos).getD opPos
  | start pos _ _ => pos
  | ret pos _ => pos
  | jump pos _ _ => pos
  | block lbrace _ _ => lbrace
  | labelled label _ _ => label.pos
  | cond pos _ _ _ _ => pos
  | loop pos _ _ _ _ => pos
  | range pos _ _ _ _ _ => pos
  | choose pos _ _ _ _ _ _ => pos
  | clause pos _ _ _ _ => pos
  | declare pos _ _ _ _ _ => pos
  | spec head _ type _ => (head.names.head?.map Ident.pos).getD type.pos

mutual

/-- The identifiers of an expression, in the order in which they are written. -/
def Expr.idents : Expr → List Ident
  | .missing _ => []
  | .ident id => [id]
  | .literal _ _ _ => []
  | .selector x sel => x.idents ++ [sel]
  | .index x _ args _ => x.idents ++ allIdents args
  | .slicing x _ bounds _ => x.idents ++ allIdents bounds
  | .assertion x _ type _ => x.idents ++ type.idents
  | .call function _ args _ _ => function.idents ++ allIdents args
  | .composite type _ elems _ => type.idents ++ allIdents elems
  | .keyed key _ value => key.idents ++ value.idents
  | .closure type _ body _ => type.idents ++ bodyIdents body
  | .star _ x => x.idents
  | .paren _ x _ => x.idents
  | .unary _ _ x => x.idents
  | .binary x _ _ y => x.idents ++ y.idents
  | .ellipsis _ elem => elem.idents
  | .slice _ elem => elem.idents
  | .array _ length elem => length.idents ++ elem.idents
  | .map _ key elem => key.idents ++ elem.idents
  | .chan _ _ _ elem => elem.idents
  | .func _ params _ _ results _ _ => groupIdents params ++ groupIdents results
  | .struct _ _ fields _ => groupIdents fields
  | .interface _ _ elems _ => groupIdents elems

/-- The identifiers of a statement, in the order in which they are written. -/
def Statement.idents : Statement → List Ident
  | .empty _ => []
  | .expr x => x.idents
  | .send channel _ value => channel.idents ++ value.idents
  | .step x _ _ => x.idents
  | .assign targets _ _ values => allIdents targets ++ allIdents values
  | .start _ _ call => call.idents
  | .ret _ results => allIdents results
  | .jump _ _ label => label.toList
  | .block _ body _ => bodyIdents body
  | .labelled label _ target => label :: target.idents
  | .cond _ first test body otherwise =>
    first.idents ++ test.idents ++ body.idents ++ otherwise.idents
  | .loop _ first test after body => first.idents ++ test.idents ++ after.idents ++ body.idents
  | .range _ targets _ _ x body => allIdents targets ++ x.idents ++ body.idents
  | .choose _ _ first on _ clauses _ => first.idents ++ on.idents ++ bodyIdents clauses
  | .clause _ values exchange _ body => allIdents values ++ exchange.idents ++ bodyIdents body
  | .declare _ _ _ _ specs _ => bodyIdents specs
  | .spec head params type values =>
    head.names ++ groupIdents params ++ type.idents ++ allIdents values

/-- The identifiers of expressions. -/
def allIdents : List Expr → List Ident
  | [] => []
  | x :: rest => x.idents ++ allIdents rest

/-- The identifiers of groups. -/
def groupIdents : List (GroupHead × Expr) → List Ident
  | [] => []
  | (head, x) :: rest => head.names ++ x.idents ++ groupIdents rest

/-- The identifiers of statements. -/
def bodyIdents : List Statement → List Ident
  | [] => []
  | s :: rest => s.idents ++ bodyIdents rest

end


/-- Where a group starts: at its first name, or at its type. -/
def groupPos (g : GroupHead × Expr) : Pos :=
  match g.1.names with
  | [] => g.2.pos
  | id :: _ => id.pos

/-- Where a group ends. -/
def groupStop (g : GroupHead × Expr) : Pos :=
  match g.1.tag with
  | some (pos, text) => pos + text.utf8ByteSize
  | none => g.2.stop

end TaggedUnion.Syntax
