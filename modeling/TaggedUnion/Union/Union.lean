import TaggedUnion.Union.Fault

/-!
# Tagged unions

A tagged union is a struct whose *tag* field holds the name of the variant that is active; the other
fields are the variants. A declaration is a tagged union if its type is written out as a struct, exactly
one field has the tag option, that field holds a string, and there is a variant. Otherwise the first
fault in the order of the fields is reported; faults of variants do not count here.
-/

namespace TaggedUnion

open Source TaggedUnion.Types Syntax Program

/-- A tagged union. -/
structure Union where
  name : String
  pos : Pos
  /-- The type parameters as written. -/
  params : List (GroupHead × Expr)
  tag : FieldHead
  variants : List Variant

namespace Union

/-- Whether conversions of the union are exported. -/
def isExported (u : Union) : Bool :=
  Text.isExported u.name

/-- Whether the union has type parameters. -/
def isGeneric (u : Union) : Bool :=
  !u.params.isEmpty

/-- The variants that conversions are asked for. -/
def wanted (u : Union) : List Variant :=
  u.variants.filter fun v => !v.isSkipped

end Union

/-- A field of a struct, with its type as written. -/
structure WrittenField where
  head : FieldHead
  type : Ty
  expr : Expr

/-- The fields of a struct, each with the type expression of its group. A group of names declares a
field for each of them, an embedded type one field. -/
def writtenFields (groups : List (GroupHead × Expr)) (fields : List (FieldHead × Ty)) :
    List WrittenField :=
  let exprs := groups.flatMap fun (head, x) => List.replicate (max head.names.length 1) x
  (fields.zip exprs).map fun ((head, type), expr) => ⟨head, type, expr⟩

/-- Whether a field is the tag field. -/
def WrittenField.isTag (f : WrittenField) : Bool :=
  fieldOption f.head == Text.Bytes.ofText tagOption

/-- Whether a field has no name to refer to it by. -/
def WrittenField.isBlank (f : WrittenField) : Bool :=
  f.head.name == "_"

/-- Looks for the tag field, and fails at the first field with the tag option that is not the only one
or holds no string. -/
def findTag (table : TypeTable) (union : String) (found : Option FieldHead) :
    List WrittenField → Except Finding (Option FieldHead)
  | [] => .ok found
  | f :: rest =>
    if f.isTag then
      match found with
      | some previous => .error ⟨.tagRedeclared union f.head.name previous.pos, f.head.pos, 0⟩
      | none =>
        if f.type.isString table then findTag table union (some f.head) rest
        else .error ⟨.tagNotString union f.head.name f.type, f.head.pos, 0⟩
    else findTag table union found rest

/-- The variants among the fields. -/
def variantsOf (table : TypeTable) (fields : List WrittenField) : List Variant :=
  (fields.filter fun f => !f.isTag && !f.isBlank).map fun f => .ofField table (f.head, f.type) f.expr

/-- The union that the fields of a declared struct make up, or what keeps them from being one. -/
def unionOf (table : TypeTable) (spec : TypeSpec) (o : Object) (fields : List WrittenField) :
    Except Finding Union := do
  let name := spec.name.name
  match ← findTag table name none fields with
  | none => .error ⟨.noTag name, spec.type.pos, spec.type.stop⟩
  | some tag =>
    let variants := variantsOf table fields
    if variants.isEmpty then .error ⟨.noVariants name, spec.type.pos, spec.type.stop⟩
    else .ok { name, pos := o.pos, params := spec.params, tag, variants }

/-- The tagged union that a type declaration makes, or what is wrong with it. -/
def Subject.union (s : Subject) (spec : TypeSpec) : Except Finding Union :=
  let name := spec.name.name
  if spec.isAlias then .error ⟨.aliased name, spec.pos, spec.stop⟩
  else match s.definition? spec.name.pos with
    | none => .error ⟨.unknownType name, spec.name.pos, spec.name.stop⟩
    | some o =>
      match spec.type with
      | .struct _ _ groups _ =>
        let fields := (o.type.struct? s.info.table).getD []
        unionOf s.info.table spec o (writtenFields groups fields)
      | type => .error ⟨.notStruct name type, type.pos, type.stop⟩

end TaggedUnion
