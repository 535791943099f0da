import TaggedUnion.Constant.Fit
import TaggedUnion.Constant.Literal
import TaggedUnion.Program.Instance

/-!
# Operands

What an expression stands for: a type, a constant, a value or a variable, with its type, and what can be
selected from it: its fields and methods.
-/

namespace TaggedUnion.Program

open Source TaggedUnion.Types Syntax

/-- What sort of thing an expression stands for. -/
inductive Mode
  /-- Nothing, as a call without results. -/
  | void
  | builtin (name : String)
  | type
  | constant (value : Constant)
  /-- Something that has an address. -/
  | variable
  | value
  /-- A value that can be taken together with whether there is one. -/
  | checked
  /-- Several values, as a call with several results. -/
  | tuple (types : List Ty)

/-- What an expression stands for. -/
structure Operand where
  mode : Mode
  type : Ty
  /-- The first type arguments of a generic function, if some are given. -/
  written : List Ty := []

namespace Operand

/-- The type that an operand stands for. -/
def asType (x : Operand) : Check Ty :=
  match x.mode with
  | .type => return x.type
  | _ => throw .wrong

/-- A value of a type. -/
def value (t : Ty) : Operand := { mode := .value, type := t }

/-- A constant of a type. -/
def constant (c : Constant) (t : Ty) : Operand := { mode := .constant c, type := t }

/-- A type as an operand. -/
def ofType (t : Ty) : Operand := { mode := .type, type := t }

/-- A variable of a type. -/
def addressable (t : Ty) : Operand := { mode := .variable, type := t }

/-- A value of a type that comes with whether there is one. -/
def checked (t : Ty) : Operand := { mode := .checked, type := t }

/-- No value at all. -/
def void : Operand := { mode := .void, type := .invalid }

/-- A predeclared function. -/
def builtin (name : String) : Operand := { mode := .builtin name, type := .invalid }

/-- The value of a constant. -/
def constant? (x : Operand) : Option Constant :=
  match x.mode with
  | .constant c => some c
  | _ => none

/-- Whether an operand has a value. -/
def isValue (x : Operand) : Bool :=
  match x.mode with
  | .constant _ | .variable | .value | .checked => true
  | _ => false

/-- The types of the values that an operand stands for. -/
def types (x : Operand) : List Ty :=
  match x.mode with
  | .tuple types => types
  | _ => [x.type]

end Operand

/-! ## Underlying types -/

variable (s : Site) (ask : Ask)

/-- What a defined type stands for, if it is one. -/
def unfoldOnce (name : TypeName) (args : List Ty) : Check (Option Ty) := do
  if s.env.declares name then
    match ← ask (.name name.name) with
    | .type params rhs => return some (← substIn s.env ((params.map (·.pos)).zip args) rhs)
    | _ => return none
  else (s.env.imported.table.find? name).mapM (expandDecl s.env · args)

/-- Unfolds aliases and at most `depth` defined types. -/
def unfoldTo : Nat → Ty → Check Ty
  | 0, t => return t.unalias
  | depth + 1, t =>
    match t.unalias with
    | .named name generics args => do
      match ← unfoldOnce s ask name args with
      | some rhs => unfoldTo depth rhs
      | none => return .named name generics args
    | u => return u

/-- The type that underlies a type. -/
def underlying (t : Ty) : Check Ty :=
  unfoldTo s ask s.env.bound t

/-- The name of the basic type that underlies a type. -/
def basicName? (t : Ty) : Check (Option String) := do
  match ← underlying s ask t with
  | .basic name => return some name
  | _ => return none

/-! ## Fields and methods -/

/-- A field or a method. -/
inductive Member
  | field (head : FieldHead) (type : Ty)
  | method (home receiver : String) (type : Ty)

/-- The type of a field, or the signature of a method. -/
def Member.type : Member → Ty
  | field _ t => t
  | method _ _ t => t

/-- The type a pointer points to; other types stay. -/
def dereference (t : Ty) : Ty :=
  match t.unalias with
  | .pointer elem => elem
  | _ => t

/-- The methods of an interface, with those of the types it embeds down to some depth. -/
def interfaceMethods : Nat → Ty → Check (List (MethodHead × Ty))
  | 0, _ => return []
  | depth + 1, t => do
    match ← underlying s ask t with
    | .interface methods embedded _ =>
      let inner ← embedded.mapM (interfaceMethods depth)
      return methods ++ inner.flatten
    | _ => return []

/-- Whether a name of a package can be used here. -/
def Site.reaches (name home : String) : Bool :=
  Text.isExported name || home == s.env.self

/-- The declared method of a defined type. -/
def declaredMethod? (t : Ty) (name : String) : Check (Option Member) := do
  match t.unalias with
  | .named type _ args =>
    if s.env.declares type then
      if s.env.methods.any fun m => m.base == type.name && m.spec.name.name == name then
        match ← ask (.method type.name name) with
        | .method m => return some (.method type.home m.receiver (← expandMethod s.env m args))
        | _ => return none
      else return none
    else
      let found := (s.env.imported.table.find? type).bind fun d =>
        d.methods.find? (·.name == name)
      (found.filter fun _ => s.reaches name type.home).mapM fun m => do
        return .method type.home m.receiver (← expandMethod s.env m args)
  | _ => return none

/-- The members of the given name that a type has itself, and the types it embeds. -/
def membersAt (t : Ty) (name : String) : Check (List Member × List Ty) := do
  match ← declaredMethod? s ask t name with
  | some m => return ([m], [])
  | none =>
    match ← underlying s ask t with
    | .struct fields =>
      let found := fields.filter fun f => f.1.name == name && s.reaches name f.1.home
      return (found.map fun f => .field f.1 f.2,
        (fields.filter (·.1.embedded)).map fun f => dereference f.2)
    | .interface methods embedded implicit =>
      let all ← interfaceMethods s ask s.env.bound (.interface methods embedded implicit)
      let found := all.find? fun m => m.1.name == name && s.reaches name m.1.home
      return (found.toList.map fun m => .method m.1.home "" m.2, [])
    | _ => return ([], [])

/-- The member of the given name at the least depth of embedding; there is none if there are several
at that depth. -/
def memberAmong (name : String) : Nat → List Ty → List Ty → Check (Option Member)
  | 0, _, _ => return none
  | _, _, [] => return none
  | depth + 1, seen, level => do
    let fresh := level.filter fun t => !seen.contains t
    let found ← fresh.mapM (membersAt s ask · name)
    match found.flatMap (·.1) with
    | [m] => return some m
    | [] => memberAmong name depth (fresh ++ seen) (found.flatMap (·.2))
    | _ => return none

/-- The field or method that a name selects from values of a type. -/
def member? (t : Ty) (name : String) : Check (Option Member) :=
  memberAmong s ask name s.env.bound [] [dereference t]

end TaggedUnion.Program
