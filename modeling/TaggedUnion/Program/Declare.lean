import TaggedUnion.Program.Assign
import TaggedUnion.Program.Evaluate

/-!
# What declarations say

The answers to what is asked of the declarations of a package: the right-hand side of a type, the type of
a variable or function, the value of a constant, the signature of a method. Each is found once and
then remembered.

A declaration that asks for itself is wrong: an alias of itself, a variable whose value needs that
variable. A defined type may mention itself, since its name alone asks for nothing.
-/

namespace TaggedUnion.Program

open Source TaggedUnion.Types Syntax

/-! ## Type parameters -/

/-- Puts bounds of neighbouring groups together where they are the same named type. -/
def mergeGroups : List (List ParamDecl × Ty) → List (List ParamDecl × Ty)
  | [] => []
  | (names, t) :: rest =>
    match mergeGroups rest with
    | [] => [(names, t)]
    | (names', t') :: rest' =>
      let shared := match t with
        | .named _ _ _ | .synonym _ _ _ _ => t == t'
        | _ => false
      if shared then (names ++ names', t) :: rest' else (names, t) :: (names', t') :: rest'

section

variable (s : Site) (ask : Ask)

/-- The groups of type parameters with a common bound. A bound that is no interface is made one, for
each parameter on its own. A type parameter is no bound. -/
def boundGroups (params : List ParamDecl) (bound : Ty) : Check (List (List ParamDecl × Ty)) := do
  match ← underlying s ask bound with
  | .interface _ _ _ => return [(params, bound)]
  | .param _ _ => throw .wrong
  | _ => return params.map fun p => ([p], .interface [] [bound] true)

/-- The type parameters of a declaration with their bounds. -/
def genericsOf (groups : List (GroupHead × Expr)) : Check (List (List ParamDecl × Ty)) := do
  if !distinct ((paramDecls groups).map (·.name)) then throw .wrong
  let bounds ← groups.mapM fun (head, x) => do
    boundGroups s ask (head.names.map fun id => ⟨id.name, id.pos⟩) (← boundOf s ask x)
  return mergeGroups bounds.flatten

/-- Fails if a function gives one name to two of its parameters, or to one of them and something
else. -/
def checkNames (others : List String) (params results : List (String × Ty)) : Check Unit :=
  if distinct ((others ++ (params ++ results).map (·.1)).filter (· != "")) then return ()
  else throw .wrong

/-- The type of a declared function. -/
def funcType (spec : FuncSpec) : Check Ty := do
  let own := paramDecls spec.params
  let s := { s with params := own }
  let generics ← genericsOf s ask spec.params
  match ← typeOf s ask spec.type with
  | .func _ params results variadic =>
    checkNames (own.map (·.name)) params results
    return .func generics params results variadic
  | _ => throw .wrong

/-! ## Variables and constants -/

/-- The value that a variable, perhaps of the given type, takes; `part` is its number, and how many there
are, if it is one of several that share the value. -/
def shareOf (type : Option Ty) (x : Operand) (part : Option (Nat × Nat)) : Check Operand := do
  match part, x.mode with
  | some (i, n), .tuple types =>
    if types.length == n then return .value (← orWrong (types[i]?)) else throw .wrong
  | some (0, 2), .checked => return .value x.type
  | some (1, 2), .checked => return .value .untypedBool
  | none, _ => if x.isValue then specialise s ask type x else throw .wrong
  | _, _ => throw .wrong

/-- The value of a variable that has one, if it is clear what it is. -/
def initialValue (type : Option Ty) (value : Option Expr) (part : Option (Nat × Nat)) :
    Check (Option Operand) := do
  match value with
  | some v => attempt (do shareOf s ask type (← operand s ask v none) part)
  | none => return none

/-- The type of a variable, which may take it from its value. If it is unclear what that is, the type is
invalid. -/
def varType (type value : Option Expr) (part : Option (Nat × Nat)) : Check Ty := do
  match type with
  | some x =>
    let t ← typeOf s ask x
    let _ ← initialValue s ask (some t) value part
    return t
  | none =>
    if value.isNone then throw .wrong
    match ← initialValue s ask none value part with
    | some y => if y.type == .untypedNil then throw .wrong else return y.type.default
    | none => return .invalid

/-- What a variable with a type of its own is to take. -/
def claimOf (type value : Option Expr) (part : Option (Nat × Nat)) : Check (Option Claim) := do
  match type with
  | some x =>
    let t ← typeOf s ask x
    return (← initialValue s ask (some t) value part).map fun y => ⟨y, t⟩
  | none => return none

/-- A constant, as one of its type if it has one. -/
def constantOf (type value : Option Expr) : Check Operand := do
  let t ← type.mapM (typeOf s ask)
  let x ← operand s ask (← orWrong value) none
  let c ← orWrong x.constant?
  match t with
  | some t => return .constant (← fitTo s ask t c) t
  | none => return .constant c x.type

end

/-! ## Declarations -/

/-- What a declaration says. -/
def OwnDecl.answer (env : Env) (ask : Ask) (d : OwnDecl) : Check Answer := do
  let s := env.site d.file
  match d.body with
  | .type spec =>
    let params := paramDecls spec.params
    let s := { s with params }
    for (_, bound) in spec.params do
      let _ ← boundOf s ask bound
    let rhs ← typeOf s ask spec.type
    if rhs.isParam then throw .wrong
    return .type params rhs
  | .var type value part => return .value (← varType s ask type value part) none
  | .const type value index =>
    let x ← constantOf { s with index := some index } ask type value
    return .value x.type x.constant?
  | .func spec => return .value (← funcType s ask spec) none

/-- What the declaration of a method says. Besides the type parameters of its type, it may have some of
its own. -/
def OwnMethod.answer (env : Env) (ask : Ask) (m : OwnMethod) : Check MethodDecl := do
  let own := paramDecls m.spec.params
  let s := { env.site m.file with params := m.params ++ own }
  let generics ← genericsOf s ask m.spec.params
  match ← typeOf s ask m.spec.type with
  | .func _ params results variadic =>
    checkNames (m.receiver :: (m.params ++ own).map (·.name)) params results
    return {
      name := m.spec.name.name
      receiver := m.receiver
      params := m.params
      viaPointer := m.viaPointer
      type := .func generics params results variadic }
  | _ => throw .wrong

/-- The answer to a question. -/
def Env.answer (env : Env) (ask : Ask) : Key → Check Answer
  | .name name => do (← orWrong (env.find? name)).answer env ask
  | .method base name => do
    let m ← orWrong (env.methods.find? fun m => m.base == base && m.spec.name.name == name)
    return .method (← m.answer env ask)

/-- Runs a computation apart from others: what it finds is kept, but not whether it calls functions. -/
def apart {α : Type} (m : Check α) : Check (Except Trouble α) := do
  let before ← get
  let r ← try pure (.ok (← m)) catch e => pure (.error e)
  modify fun σ => { σ with active := before.active, called := before.called }
  return r

/-- How the declarations of a package are asked for, in chains of at most the given length. -/
def Env.askTo (env : Env) : Nat → Ask
  | 0, _ => throw .wrong
  | length + 1, key => do
    match (← get).found.lookup key with
    | some r => MonadExcept.ofExcept r
    | none =>
      if (← get).active.contains key then throw .wrong
      let r ← apart (do
        modify fun σ => { σ with active := key :: σ.active }
        env.answer (env.askTo length) key)
      modify fun σ => { σ with found := (key, r) :: σ.found }
      MonadExcept.ofExcept r

/-- How the declarations of a package are asked for. No chain is longer than the number of
declarations, since none asks for itself. -/
def Env.ask (env : Env) : Ask :=
  env.askTo (env.own.length + env.methods.length + 1)

end TaggedUnion.Program
