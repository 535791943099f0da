import TaggedUnion.Code.Anatomy
import TaggedUnion.Code.Requalify
import TaggedUnion.Diagnostic
import TaggedUnion.Layout.Expr
import TaggedUnion.Program.Describe
import TaggedUnion.Text.Template

/-!
# Values in templates

What templates for code and messages can show: types, objects, expressions and places, besides texts and
numbers. Three verbs are for them: `t` writes a type as code of the package does, `c` an expression as
it is laid out, `b` a place with its file, line and column. A value that a verb cannot show is named by
its sort. With all other verbs a value is written in full.

A *manner* says how: for which package the text is, which files places refer to, and what packages are
called. In the manner of no package every type is qualified and no place can be resolved.
-/

namespace TaggedUnion

open Source TaggedUnion.Types Syntax Program Text Anatomy

/-- Something a template can show. -/
inductive Value
  | type (t : Ty)
  /-- A type together with what is known about it. -/
  | classified (t : Ty)
  | object (o : Object)
  /-- Something that belongs to an object. -/
  | holder (o : Object)
  | place (p : Pos)
  | position (p : Position)
  /-- An expression of the source and the type it denotes. -/
  | expr (x : Expr) (t : Ty)
  | error (text : String)
  | text (s : String)
  | number (n : Int)
  /-- The type expression of a declaration that has none. -/
  | nothing

/-- How values are written. -/
structure Manner where
  workingDir : String
  /-- The import path of the package that the text is for; empty if it is for none. -/
  home : String := ""
  files : Option FileSet := none
  /-- Whether the types of expressions are known. -/
  informed : Bool := false
  table : TypeTable := []
  nameOf : String → String

namespace Value

/-- The sort of a value. -/
def sort : Value → String
  | type t => typeSort t
  | classified _ => "typeinfo.Type"
  | object o => objectSort o.kind
  | holder _ => "main.objecter"
  | place _ => "token.Pos"
  | position _ => "token.Position"
  | expr x _ => exprSort x
  | error _ => "*errors.errorString"
  | text _ => "string"
  | number _ => "int"
  | nothing => ""

/-- Whether a value is one of those that the verbs for code are for. -/
def isCode : Value → Bool
  | error _ | text _ | number _ | nothing => false
  | _ => true

/-- The sort under which a template knows a value that is one. -/
def listedSort (v : Value) : String :=
  if v.isCode then "codefmt.formatArg" else v.sort

/-! ## Verbs for code -/

/-- The type of a value. -/
def type? (m : Manner) : Value → Option Ty
  | type t | classified t => some t
  | object o | holder o => some o.type
  | expr _ t => if m.informed then some t else none
  | _ => none

/-- Where a defined type is declared. -/
def typePlace? (t : Ty) : Option Pos :=
  match t.unalias with
  | .named name _ _ => some name.pos
  | _ => none

/-- The place of a value: its own, that of its object, or that of the defined type it is. -/
def place? : Value → Option Pos
  | place p => some p
  | object o | holder o => some o.pos
  | type t | classified t => typePlace? t
  | _ => none

/-- How a verb shows that a value cannot be shown. -/
def cannot (verb : Char) (v : Value) : String :=
  "[%" ++ String.singleton verb ++ " cannot format " ++ v.sort ++ "]"

/-- How a verb shows that places cannot be resolved without files. -/
def noFiles (verb : Char) : String :=
  "%!" ++ String.singleton verb ++
    "(PANIC=Format method: runtime error: invalid memory address or nil pointer dereference)"

/-- A value as a type. -/
def asType (m : Manner) (v : Value) : String :=
  match v.type? m with
  | none => v.cannot 't'
  | some t => t.text fun path => if path == m.home then "" else m.nameOf path

/-- A value as an expression. -/
def asExpr (m : Manner) (v : Value) : String :=
  match v, m.files with
  | expr x _, some files => Layout.exprText files x
  | expr _ _, none => noFiles 'c'
  | v, _ => v.cannot 'c'

/-- A value as a place. -/
def asPlace (m : Manner) (v : Value) : String :=
  match v with
  | position p => p.text m.workingDir
  | v =>
    match v.place?, m.files with
    | none, _ => v.cannot 'b'
    | some 0, _ => Position.text m.workingDir {}
    | some p, some files => (files.position p).text m.workingDir
    | some _, none => noFiles 'b'

/-! ## Other verbs -/

/-- What a value is made of. -/
def datum (m : Manner) : Value → Datum
  | type t => ofType t
  | classified t => .speaking (t.text fullPath) (.sealed "typeinfo.Type")
  | object o => .speaking (o.describe m.table) (.sealed (objectSort o.kind))
  | holder _ => .sealed "main.objecter"
  | place p => ofPlace p
  | position p => ofPosition p
  | expr x _ => ofExpr x
  | error s =>
    .speaking s (.reference "*errors.errorString" (.record "errors.errorString" [("s", .text s)]))
  | text s => .text s
  | number n => .number "int" n
  | nothing => .void ""

/-- What a template knows a value as: code comes with the manner in which it is written. -/
def listedDatum (m : Manner) (v : Value) : Datum :=
  if v.isCode then
    let known := fun sort b => if b then Datum.sealed sort else .absent sort
    .record v.listedSort
      [("x", v.datum m),
       ("fmt", .record "codefmt.Formatter"
         [("PkgPath", .text m.home), ("Fset", known "*token.FileSet" m.files.isSome),
          ("TypesInfo", known "*types.Info" m.informed)])]
  else v.datum m

/-- A value by a verb. Two verbs are about what the template knows the value as: its sort, and its
address, which no value has. One more is for errors, and fits none of them here. -/
def write (m : Manner) (f : Flags) (verb : Char) (v : Value) : String :=
  match verb, v, v.isCode with
  | verb, .nothing, _ => writeNothing f verb
  | 'T', _, _ => pad f (truncated f v.listedSort)
  | 'p', _, _ | 'w', _, _ => (v.listedDatum m).misfitting f verb v.listedSort
  | 't', _, true => v.asType m
  | 'c', _, true => v.asExpr m
  | 'b', _, true => v.asPlace m
  | _, _, _ => (v.datum m).write f verb true true

end Value

/-- Expands a template. -/
def Manner.expand (m : Manner) (template : String) (args : List Value) : String :=
  Template.expand
    { write := Value.write m
      typeName? := fun
        | .nothing => none
        | v => some v.listedSort
      number? := fun
        | .number n => some n
        | _ => none } template args

/-- How text for a package is written. -/
def Subject.manner (s : Subject) (workingDir : String) (nameOf : String → String) : Manner :=
  { workingDir, home := s.path, files := some s.files, informed := true, table := s.info.table, nameOf }

/-- How text for no package is written, of what the types of a table are used in. -/
def Manner.neutral (workingDir : String) (table : TypeTable) (nameOf : String → String) : Manner :=
  { workingDir, table, nameOf }

namespace Draft

/-- Imports what an argument of a template refers to. -/
def importValue (s : Subject) (d : Draft) : Value → Draft
  | .expr x _ => d.importExpr s x
  | .object o | .holder o => d.importPackage s o.home
  | .type t | .classified t => d.importType s t
  | _ => d

/-- Expands a template in the draft, after what its arguments refer to is imported. -/
def expand (workingDir : String) (s : Subject) (d : Draft) (template : String) (args : List Value) :
    String × Draft :=
  let d := args.foldl (importValue s) d
  ((s.manner workingDir d.names.current).expand template args, d)

end Draft

/-- A diagnostic whose message is a template; the arguments must not be errors. -/
def Manner.diagnostic? (m : Manner) (kind : Option Kind) (pos stop : Pos) (template : String)
    (args : List Value) : Option Diagnostic :=
  let isError := fun
    | Value.error _ => true
    | _ => false
  if args.any isError then none
  else some { message := m.expand template args, kind, pos, stop, files := m.files }

/-- What is said of an error among the arguments of a diagnostic. -/
def nestedErrorMessage : String := "CodeError cannot wrap error"

end TaggedUnion
