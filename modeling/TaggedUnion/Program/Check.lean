import TaggedUnion.Program.Site
import TaggedUnion.Types.Identity

/-!
# Asking for declarations

Finding out what an expression stands for may take what other declarations of the package say. These are
asked for one at a time and remembered, and a declaration that asks for itself is wrong.

An expression can be plainly wrong, as one with a name that nothing declares, or it can be *unclear*
what it stands for. A variable with an unclear value has an invalid type, but is no reason to refuse
a package.
-/

namespace TaggedUnion.Program

open Source TaggedUnion.Types Syntax

/-- Why an expression has no meaning. -/
inductive Trouble
  | wrong
  | unclear
deriving Repr, DecidableEq

/-- What can be asked for. -/
inductive Key
  | name (name : String)
  | method (base name : String)
deriving Repr, DecidableEq

/-- What a declaration of the package at hand says. -/
inductive Answer
  /-- The parameters and the right-hand side of a type or alias. -/
  | type (params : List ParamDecl) (rhs : Ty)
  /-- The type of a variable, function or constant, and the value of a constant. -/
  | value (type : Ty) (constant : Option Constant)
  | method (m : MethodDecl)

/-- What is known of the package at hand. -/
structure Store where
  found : List (Key × Except Trouble Answer) := []
  /-- What is being asked for. -/
  active : List Key := []
  /-- Whether a function was called, or something was received from a channel. -/
  called : Bool := false
  /-- The types whose declarations have been looked at because they were mentioned. -/
  visited : List String := []
  /-- The generic types with arguments that were met, the latest first, each with the form that it shares
  with those that it stands for. -/
  instances : List (Ty × Ty) := []

/-- Computations that ask for declarations. -/
abbrev Check := ExceptT Trouble (StateM Store)

/-- How declarations are asked for. -/
abbrev Ask := Key → Check Answer

/-- Takes the value out of an option. -/
def orWrong {α : Type} : Option α → Check α
  | some a => return a
  | none => throw .wrong

/-- Takes the value out of an option. -/
def orUnclear {α : Type} : Option α → Check α
  | some a => return a
  | none => throw .unclear

/-- A computation whose result may be unclear. -/
def attempt {α : Type} (m : Check α) : Check (Option α) := do
  try
    return some (← m)
  catch
    | .unclear => return none
    | .wrong => throw .wrong

/-- The types of the package at hand that are known. -/
def Store.table (env : Env) (σ : Store) : TypeTable :=
  σ.found.filterMap fun
    | (.name name, .ok (.type params rhs)) => do
      let d ← env.find? name
      match d.body with
      | .type spec =>
        if spec.isAlias then none
        else some { name := ⟨env.self, name, spec.name.pos⟩, params, rhs }
      | _ => none
    | _ => none

/-- All types that are known. -/
def knownTypes (env : Env) : Check TypeTable :=
  return (← get).table env ++ env.imported.table

/-- Whether a declaration is that of a variable or a constant. -/
def Body.isValue : Body → Bool
  | var _ _ _ | const _ _ _ => true
  | _ => false

/-- Whether something asked for is a variable or a constant. -/
def Key.isValue (env : Env) : Key → Bool
  | name n => (env.find? n).any fun d => d.body.isValue
  | method _ _ => false

/-- Looks at the declaration of a type that is mentioned, before anything else is done with it. A type may be
mentioned in its own declaration, but not in that of a value which it depends on. -/
def visit (env : Env) (ask : Ask) (name : String) : Check Unit := do
  let σ ← get
  let key := Key.name name
  if σ.active.contains key then
    if (σ.active.takeWhile (· != key)).any (Key.isValue env) then throw .wrong
  else if !σ.visited.contains name then
    set { σ with visited := name :: σ.visited }
    try
      let _ ← ask key
    catch _ =>
      -- what went wrong may be all right where the type itself is asked for
      modify fun τ => { τ with found := σ.found }

end TaggedUnion.Program
