import TaggedUnion.Types.Type

/-!
# Classes of types

What a type is, apart from what it is made of: a basic type, a struct, a defined type. Only the type
itself is looked at, so recursive declarations make no difference.
-/

namespace TaggedUnion.Types.Ty

variable (table : TypeTable)

/-- Whether the type is a defined one, possibly under an alias. -/
def isNamed (t : Ty) : Bool :=
  match t.unalias with
  | named _ _ _ => true
  | _ => false

/-- The name of the basic type that underlies the type. -/
def basic? (t : Ty) : Option String :=
  match t.underlying table with
  | basic name => some name
  | _ => none

/-- The fields of the struct that underlies the type. -/
def struct? (t : Ty) : Option (List (FieldHead × Ty)) :=
  match t.underlying table with
  | struct fields => some fields
  | _ => none

def isBasic (t : Ty) : Bool := (t.basic? table).isSome

def isStruct (t : Ty) : Bool := (t.struct? table).isSome

/-- A struct that is written out rather than defined. -/
def isAnonymousStruct (t : Ty) : Bool := t.isStruct table && !t.isNamed

/-- Whether the underlying type is a string. -/
def isString (t : Ty) : Bool :=
  match t.basic? table with
  | some name => name == "string" || name == "untyped string"
  | none => false

end TaggedUnion.Types.Ty
