import TaggedUnion.Program.Object
import TaggedUnion.Syntax.Expr
import TaggedUnion.Text.Datum
import TaggedUnion.Types.Basics
import TaggedUnion.Types.Text

/-!
# Anatomy of code

The sorts of types, objects and expressions, and what these are made of when templates show them part by
part. A basic type has a number, a set of properties and a name. An expression has its places and
smaller expressions; identifiers in it show as their names.
-/

namespace TaggedUnion.Anatomy

open Source TaggedUnion.Types Syntax Program Text

/-! ## Sorts -/

/-- The sort of a type. -/
def typeSort : Ty → String
  | .basic _ => "*types.Basic"
  | .pointer _ => "*types.Pointer"
  | .slice _ => "*types.Slice"
  | .array _ _ => "*types.Array"
  | .map _ _ => "*types.Map"
  | .chan _ _ => "*types.Chan"
  | .func _ _ _ _ => "*types.Signature"
  | .struct _ => "*types.Struct"
  | .interface _ _ _ => "*types.Interface"
  | .union _ => "*types.Union"
  | .named _ _ _ => "*types.Named"
  | .synonym _ _ _ _ => "*types.Alias"
  | .param _ _ => "*types.TypeParam"

/-- The sort of an object. -/
def objectSort : ObjectKind → String
  | .type | .synonym => "*types.TypeName"
  | .var => "*types.Var"
  | .const => "*types.Const"
  | .func => "*types.Func"
  | .builtin => "*types.Builtin"

/-- The sort of an expression. -/
def exprSort : Expr → String
  | .missing _ => "<nil>"
  | .ident _ => "*ast.Ident"
  | .literal _ _ _ => "*ast.BasicLit"
  | .selector _ _ => "*ast.SelectorExpr"
  | .index _ _ [_] _ => "*ast.IndexExpr"
  | .index _ _ _ _ => "*ast.IndexListExpr"
  | .slicing _ _ _ _ => "*ast.SliceExpr"
  | .assertion _ _ _ _ => "*ast.TypeAssertExpr"
  | .call _ _ _ _ _ => "*ast.CallExpr"
  | .composite _ _ _ _ => "*ast.CompositeLit"
  | .keyed _ _ _ => "*ast.KeyValueExpr"
  | .closure _ _ _ _ => "*ast.FuncLit"
  | .star _ _ => "*ast.StarExpr"
  | .paren _ _ _ => "*ast.ParenExpr"
  | .unary _ _ _ => "*ast.UnaryExpr"
  | .binary _ _ _ _ => "*ast.BinaryExpr"
  | .ellipsis _ _ => "*ast.Ellipsis"
  | .slice _ _ | .array _ _ _ => "*ast.ArrayType"
  | .map _ _ _ => "*ast.MapType"
  | .chan _ _ _ _ => "*ast.ChanType"
  | .func _ _ _ _ _ _ _ => "*ast.FuncType"
  | .struct _ _ _ _ => "*ast.StructType"
  | .interface _ _ _ _ => "*ast.InterfaceType"

/-! ## Basic types -/

/-- The basic types in the order of their numbers, from 1 on. -/
def basicNames : List String :=
  ["bool", "int", "int8", "int16", "int32", "int64", "uint", "uint8", "uint16", "uint32", "uint64",
   "uintptr", "float32", "float64", "complex64", "complex128", "string", "Pointer",
   "untyped bool", "untyped int", "untyped rune", "untyped float", "untyped complex",
   "untyped string", "untyped nil"]

/-- The number of a basic type; one that has two names has one number. -/
def basicNumber (name : String) : Nat :=
  let name := match name with
    | "byte" => "uint8"
    | "rune" => "int32"
    | name => name
  basicNames.idxOf name + 1

/-- The properties of a basic type, each of which is a bit. -/
def basicProperties (name : String) : Nat :=
  let bits := [isBooleanName name, isIntegerName name, isUnsignedName name, isFloatName name,
    isComplexName name, isStringName name, isUntypedName name]
  bits.foldr (fun bit rest => (if bit then 1 else 0) + 2 * rest) 0

/-- What a type is made of. -/
def ofType (t : Ty) : Datum :=
  let parts := match t with
    | .basic name =>
      .reference (typeSort t) (.record "types.Basic"
        [("kind", .number "types.BasicKind" (basicNumber name)),
         ("info", .number "types.BasicInfo" (basicProperties name)),
         ("name", .text name)])
    | t => .sealed (typeSort t)
  .speaking (t.text fullPath) parts

/-! ## Places -/

/-- A place in a source. -/
def ofPlace (p : Pos) : Datum :=
  .number "token.Pos" p

/-- The full text of a position; parts that are not known are left out. -/
def positionText (p : Position) : String :=
  if p.isValid then
    (if p.file == "" then "" else p.file ++ ":") ++ toString p.line ++
      (if p.column == 0 then "" else ":" ++ toString p.column)
  else if p.file == "" then "-" else p.file

/-- What a position is made of. -/
def ofPosition (p : Position) : Datum :=
  let number := fun n : Int => Datum.number "int" n
  .speaking (positionText p) (.record "token.Position"
    [("Filename", .text p.file), ("Offset", number p.offset), ("Line", number p.line),
     ("Column", number p.column)])

/-! ## Expressions -/

/-- What an identifier is made of. -/
def ofIdent (id : Ident) : Datum :=
  .speaking id.name (.reference "*ast.Ident" (.record "ast.Ident"
    [("NamePos", ofPlace id.pos), ("Name", .text id.name), ("Obj", .absent "*ast.Object")]))

/-- The number of a direction: a bit for each of its two ways. -/
def directionNumber : Direction → Nat
  | .send => 1
  | .receive => 2
  | .both => 3

/-- A smaller expression inside of another. Only identifiers are looked into. -/
def ofInner : Expr → Datum
  | .ident id => ofIdent id
  | .missing _ => .void "ast.Expr"
  | x => .sealed (exprSort x)

/-- The parts of an expression, as far as they are known. -/
def exprParts? : Expr → Option (String × List (String × Datum))
  | .selector x sel => some ("ast.SelectorExpr", [("X", ofInner x), ("Sel", ofIdent sel)])
  | .index x lbrack [arg] rbrack =>
    some ("ast.IndexExpr",
      [("X", ofInner x), ("Lbrack", ofPlace lbrack), ("Index", ofInner arg), ("Rbrack", ofPlace rbrack)])
  | .index x lbrack args rbrack =>
    some ("ast.IndexListExpr",
      [("X", ofInner x), ("Lbrack", ofPlace lbrack), ("Indices", .list "[]ast.Expr" (args.map ofInner)),
       ("Rbrack", ofPlace rbrack)])
  | .star pos x => some ("ast.StarExpr", [("Star", ofPlace pos), ("X", ofInner x)])
  | .paren lparen x rparen =>
    some ("ast.ParenExpr", [("Lparen", ofPlace lparen), ("X", ofInner x), ("Rparen", ofPlace rparen)])
  | .slice pos elem =>
    some ("ast.ArrayType", [("Lbrack", ofPlace pos), ("Len", .void "ast.Expr"), ("Elt", ofInner elem)])
  | .array pos length elem =>
    some ("ast.ArrayType", [("Lbrack", ofPlace pos), ("Len", ofInner length), ("Elt", ofInner elem)])
  | .map pos key elem =>
    some ("ast.MapType", [("Map", ofPlace pos), ("Key", ofInner key), ("Value", ofInner elem)])
  | .chan pos arrow direction elem =>
    some ("ast.ChanType",
      [("Begin", ofPlace pos), ("Arrow", ofPlace arrow),
       ("Dir", .number "ast.ChanDir" (directionNumber direction)), ("Value", ofInner elem)])
  | _ => none

/-- What an expression is made of. -/
def ofExpr (x : Expr) : Datum :=
  match x, exprParts? x with
  | .ident id, _ => ofIdent id
  | x, some (sort, parts) => .reference (exprSort x) (.record sort parts)
  | x, none => .sealed (exprSort x)

end TaggedUnion.Anatomy
