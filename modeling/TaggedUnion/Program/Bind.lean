import TaggedUnion.Program.Evaluate

/-!
# What statements declare

The names that the statements of a body bring into scope, with their types: variables that take the values
of an assignment, the parts that a loop goes over, the value that a choice among types looks at, and
declared constants and types. A type that cannot be told is invalid; names are found all the same.
-/

namespace TaggedUnion.Program

open Source TaggedUnion.Types Syntax

/-- A type that may have none; then it is invalid. -/
def orInvalid (m : Check Ty) : Check Ty := do
  try m catch _ => return .invalid

/-- An identifier that declares something of the given type. -/
def annotateDef (home : String) (t : Ty) (id : Ident) : Ident :=
  { id with meaning := some (.inner home t) }

variable (s : Site) (ask : Ask)

/-- What an expression stands for; a value of an invalid type if that cannot be told. -/
def operandOrInvalid (x : Expr) : Check Operand := do
  try operand s ask x none catch _ => return .value .invalid

/-- The types of so many variables that take the given values. One value may stand for several, or for a
value and whether there is one. -/
def assignedTypes (count : Nat) (values : List Expr) : Check (List Ty) := do
  match count, values with
  | 2, [x] =>
    let x ← operandOrInvalid s ask x
    match x.mode with
    | .checked => return [x.type, .basic "bool"]
    | _ => return x.types.map Ty.default
  | _, [x] => return (← operandOrInvalid s ask x).types.map Ty.default
  | _, xs => xs.mapM fun x => do return (← operandOrInvalid s ask x).type.default

/-- The types of the parameters of a function that takes the parts of a loop. -/
def yieldedTypes (t : Ty) : Check (List Ty) := do
  match ← underlying s ask t with
  | .func _ params _ _ => return params.map (·.2)
  | _ => return []

/-- The types of the parts of values of a type. -/
def partTypesOf (t : Ty) : Check (List Ty) := do
  match ← arrayBehind s ask t with
  | .basic name => return if isStringName name then [.basic "int", .basic "rune"] else [t.default]
  | .array _ elem | .slice elem => return [.basic "int", elem]
  | .map key elem => return [key, elem]
  | .chan _ elem => return [elem]
  | .func _ [(_, yield)] _ _ => yieldedTypes s ask yield
  | _ => return []

/-- The types of the parts that a loop over a value goes through. -/
def partTypes (x : Expr) : Check (List Ty) := do
  try partTypesOf s ask (← operand s ask x none).type catch _ => return []

/-- The parameters and results of a function as names in its body. -/
def signatureDecls : Expr → Check (List LocalDecl)
  | .func _ params _ _ results _ _ => do
    let found ← (params ++ results).mapM fun (head, x) => do
      let t ← orInvalid (typeOf s ask x)
      return head.names.map fun id => { name := id.name, type := t }
    return found.flatten
  | _ => return []

/-- Names that are declared with values of the given types, or used if the block has them already. Returns
them with their meanings, and what is new. -/
def bindTargets : List Expr → List Ty → List Expr × List LocalDecl
  | .ident id :: rest, types =>
    let t := types.head?.getD .invalid
    let (targets, decls) := bindTargets rest types.tail
    let known := s.blocks.head?.bind fun b => b.find? (·.name == id.name)
    match known with
    | some d => (.ident (annotateDef s.env.self d.type id) :: targets, decls)
    | none =>
      let own : List LocalDecl := if id.name == "_" then [] else [{ name := id.name, type := t }]
      (.ident (annotateDef s.env.self t id) :: targets, own ++ decls)
  | x :: rest, types =>
    let (targets, decls) := bindTargets rest types.tail
    (x :: targets, decls)
  | [], _ => ([], [])

/-- The name of a choice among types for the value it looks at, and the type of that. -/
def chosenValue : Statement → Check (Option (String × Ty))
  | .assign [.ident id] _ ":=" [.assertion x _ (.missing _) _] => do
    return some (id.name, (← operandOrInvalid s ask x).type)
  | _ => return none

/-- The place in a clause: the value that is looked at has the type of the clause, if that is a single
one. -/
def inClause (values : List Expr) : Check Site := do
  match s.chosen with
  | none => return s.inBlock []
  | some (name, whole) =>
    let type ← match values with
      | [x] => do
        let x ← operandOrInvalid s ask x
        match x.mode with
        | .type => pure x.type
        | _ => pure whole
      | _ => pure whole
    return { s.inBlock [{ name, type }] with chosen := none }

/-- A constant as a name in a body, with the number of its specification. -/
def constantDecl (index : Nat) (type : Option Ty) (id : Ident) (value : Option Expr) :
    Check LocalDecl := do
  let x ← match value with
    | some v => operandOrInvalid { s with index := some index } ask v
    | none => pure (.value .invalid)
  let x ← match type with
    | some t => try convert s ask t x catch _ => pure (.value t)
    | none => pure x
  match x.mode with
  | .constant c => return { name := id.name, sort := .constant c, type := x.type }
  | _ => return { name := id.name, type := x.type }

/-- The names that a specification of values declares. -/
def valueDecls (head : SpecHead) (type : Option Ty) (values : List Expr) : Check (List LocalDecl) := do
  if head.keyword == "const" then
    head.names.zipIdx.mapM fun (id, i) => constantDecl s ask head.index type id values[i]?
  else
    let types ← match type with
      | some t => pure (head.names.map fun _ => t)
      | none => assignedTypes s ask head.names.length values
    return head.names.mapIdx fun i id => { name := id.name, type := types[i]?.getD .invalid }

/-- The name that a specification of a type declares, given what an alias stands for. -/
def typeDeclIn (head : SpecHead) (target : Ty) : List LocalDecl :=
  head.names.map fun id =>
    let name : TypeName := ⟨s.env.self, id.name, id.pos⟩
    { name := id.name
      sort := .type
      type := if head.assign == 0 then .named name [] [] else .synonym name [] [] target }

end TaggedUnion.Program
