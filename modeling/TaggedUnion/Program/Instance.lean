import TaggedUnion.Program.Check

/-!
# Instances

A generic type with arguments is an *instance*. Instances that are identical and spelled alike, apart from
the names of parameters in their arguments, are one and the same: all of them are written like the
first one that was met. An alias with arguments is shared in the same way.
-/

namespace TaggedUnion.Program

open Source TaggedUnion.Types

variable (env : Env)

/-- The form that instances have in common which are one and the same. -/
def sharedForm (σ : Store) (t : Ty) : Ty :=
  let table := σ.table env ++ env.imported.table
  t.normalTo true table (table.length + 1)

/-- The instance that a generic type with arguments is. -/
def instanceOf (name : TypeName) (args : List Ty) : Check Ty := do
  let σ ← get
  let t := Ty.named name [] args
  if args.isEmpty then return t
  let form := sharedForm env σ t
  match σ.instances.lookup form with
  | some u => return u
  | none =>
    set { σ with instances := (form, t) :: σ.instances }
    return t

/-- A type with its type parameters replaced, where what is generic gets its arguments anew. -/
def substIn (σ : List (Pos × Ty)) : Ty → Check Ty
  | .basic name => return .basic name
  | .pointer elem => return .pointer (← substIn σ elem)
  | .slice elem => return .slice (← substIn σ elem)
  | .array length elem => return .array length (← substIn σ elem)
  | .map key elem => do
    let key ← substIn σ key
    return .map key (← substIn σ elem)
  | .chan direction elem => return .chan direction (← substIn σ elem)
  | .func generics params results variadic => do
    let params ← substParams params
    let results ← substParams results
    return .func (← substGroups generics) params results variadic
  | .struct fields => return .struct (← substFields fields)
  | .interface methods embedded implicit => do
    let methods ← substMethods methods
    return .interface methods (← substAll embedded) implicit
  | .union terms => return .union (← substTerms terms)
  | .named name generics args => do
    let args' ← substAll args
    if args' == args then return .named name generics args else instanceOf env name args'
  | .synonym name generics args target => do
    let args' ← substAll args
    if args' == args then return .synonym name generics args target
    else return .synonym name [] args' (← substIn σ target)
  | .param name pos => return (σ.lookup pos).getD (.param name pos)
where
  substAll : List Ty → Check (List Ty)
    | [] => return []
    | t :: rest => do
      let t ← substIn σ t
      return t :: (← substAll rest)
  substGroups : List (List ParamDecl × Ty) → Check (List (List ParamDecl × Ty))
    | [] => return []
    | (names, t) :: rest => do
      let t ← substIn σ t
      return (names, t) :: (← substGroups rest)
  substParams : List (String × Ty) → Check (List (String × Ty))
    | [] => return []
    | (name, t) :: rest => do
      let t ← substIn σ t
      return (name, t) :: (← substParams rest)
  substFields : List (FieldHead × Ty) → Check (List (FieldHead × Ty))
    | [] => return []
    | (head, t) :: rest => do
      let t ← substIn σ t
      return (head, t) :: (← substFields rest)
  substMethods : List (MethodHead × Ty) → Check (List (MethodHead × Ty))
    | [] => return []
    | (head, t) :: rest => do
      let t ← substIn σ t
      return (head, t) :: (← substMethods rest)
  substTerms : List (Bool × Ty) → Check (List (Bool × Ty))
    | [] => return []
    | (tilde, t) :: rest => do
      let t ← substIn σ t
      return (tilde, t) :: (← substTerms rest)

/-- An alias with arguments, given its parameters and what it stands for in terms of these. -/
def aliasOf (name : TypeName) (params : List ParamDecl) (target : Ty) (args : List Ty) : Check Ty := do
  if args.isEmpty then return .synonym name [] [] target
  let form := sharedForm env (← get) (.synonym name [] args .invalid)
  match (← get).instances.lookup form with
  | some u => return u
  | none =>
    let t := Ty.synonym name [] args (← substIn env ((params.map (·.pos)).zip args) target)
    modify fun σ => { σ with instances := (form, t) :: σ.instances }
    return t

/-- What a declared type with arguments stands for. -/
def expandDecl (d : TypeDecl) (args : List Ty) : Check Ty :=
  substIn env ((d.params.map (·.pos)).zip args) (d.expanded.getD d.rhs)

/-- The signature of a method for given type arguments. -/
def expandMethod (m : MethodDecl) (args : List Ty) : Check Ty :=
  substIn env ((m.params.map (·.pos)).zip args) m.type

end TaggedUnion.Program
