import TaggedUnion.Union.Directive
import TaggedUnion.Types.Classify
import TaggedUnion.Syntax.Expr
import TaggedUnion.Text.Quoted

/-!
# Variants

Every field of a union other than its tag is a *variant*. A field of any type that is not a written-out
struct carries one value: itself. A written-out struct carries its fields, so it may carry no value,
one or several.
-/

namespace TaggedUnion

open Source TaggedUnion.Types Syntax

/-- Where the payload of a variant is: the variant field itself, or a field of it. -/
inductive Accessor
  /-- The variant field itself, under a number. -/
  | whole (index : Int)
  /-- The only field of a written-out struct. -/
  | field (name : String)
deriving Repr, DecidableEq

namespace Accessor

/-- The accessor of a name; an empty name stands for the variant field itself. -/
def of (name : String) (index : Int) : Accessor :=
  if name == "" then whole index else field name

/-- Whether the payload is the variant field itself. -/
def isWhole : Accessor → Bool
  | whole _ => true
  | field _ => false

/-- The name of the field, or the number. -/
def text : Accessor → String
  | whole index => toString index
  | field name => name

end Accessor

/-- What a variant carries. -/
inductive Shape
  /-- Nothing. -/
  | unit
  /-- One value. -/
  | single (accessor : Accessor) (payload : Ty)
  /-- The given number of values, two or more. -/
  | multi (count : Nat)
deriving Repr

namespace Shape

/-- The number of values. -/
def count : Shape → Nat
  | unit => 0
  | single _ _ => 1
  | multi n => n

/-- Shapes are numbered by how many values they carry: none, one, several. -/
def code : Shape → Int
  | unit => 0
  | single _ _ => 1
  | multi _ => 2

/-- The names of the shapes, by number; a number without a shape is shown as it is. -/
def codeText (code : Int) : String :=
  if code = 0 then "Unit"
  else if code = 1 then "SinglePayload"
  else if code = 2 then "MultiPayload"
  else "Shape(" ++ toString code ++ ")"

/-- The accessor of the payload; of a variant without one, the field itself. -/
def accessor : Shape → Accessor
  | single accessor _ => accessor
  | _ => .whole 0

/-- The type of the payload. -/
def payload? : Shape → Option Ty
  | single _ payload => some payload
  | _ => none

/-- The shape of a field of the given type. -/
def ofType (table : TypeTable) (t : Ty) : Shape :=
  if t.isNamed then single (.whole 0) t
  else match t.struct? table with
    | none => single (.whole 0) t
    | some [] => unit
    | some [(head, type)] => single (.of head.name 0) type
    | some fields => multi fields.length

end Shape

/-- What the struct tag of a variant asks for. -/
inductive VariantOption
  /-- Conversions. -/
  | derive
  /-- No conversions. -/
  | ignore
  /-- Something that is not known. -/
  | unknown (text : Text.Bytes)
deriving Repr, DecidableEq

/-- The key of options in struct tags. -/
def optionKey : String := "enumorph"

/-- The option of the tag field. -/
def tagOption : String := "tag"

/-- The option of variants that are left out. -/
def ignoreOption : String := "ignore"

/-- The option of a field; empty if it has none. -/
def fieldOption (head : FieldHead) : Text.Bytes :=
  (Text.tagValue? optionKey head.tag).getD []

namespace VariantOption

/-- The option that a text asks for. -/
def ofBytes (text : Text.Bytes) : VariantOption :=
  if text.isEmpty then derive
  else if text == Text.Bytes.ofText ignoreOption then ignore
  else unknown text

/-- The text of an unknown option. -/
def text : VariantOption → String
  | unknown text => text.text
  | _ => ""

end VariantOption

/-- A field of a union other than its tag. -/
structure Variant where
  name : String
  shape : Shape
  option : VariantOption
  pos : Pos
  /-- The type of the field as written. -/
  expr : Expr

/-- Whether the variant is left out. -/
def Variant.isSkipped (v : Variant) : Bool :=
  v.option == .ignore

/-- The variant of a field. -/
def Variant.ofField (table : TypeTable) (field : FieldHead × Ty) (expr : Expr) : Variant :=
  { name := field.1.name
    shape := .ofType table field.2
    option := .ofBytes (fieldOption field.1)
    pos := field.1.pos
    expr }

end TaggedUnion
