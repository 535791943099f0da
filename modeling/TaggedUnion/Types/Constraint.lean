import TaggedUnion.Types.Identity

/-!
# Constraints

An interface that restricts the types that satisfy it, other than by their methods, is a *constraint*. It
bounds type parameters, but is no type of values. The alternatives of a constraint must not overlap; a
marked one must be its own underlying type; and an interface among them must not ask for methods, nor
for comparable values.
-/

namespace TaggedUnion.Types

namespace Ty

/-! ## Parts of types -/

/-- All types that a type is written with, itself included. -/
def parts : Ty → List Ty
  | t@(pointer elem) => t :: elem.parts
  | t@(slice elem) => t :: elem.parts
  | t@(array _ elem) => t :: elem.parts
  | t@(map key elem) => t :: (key.parts ++ elem.parts)
  | t@(chan _ elem) => t :: elem.parts
  | t@(func generics params results _) =>
    t :: (groupParts generics ++ paramParts params ++ paramParts results)
  | t@(struct fields) => t :: fieldParts fields
  | t@(interface methods embedded _) => t :: (methodParts methods ++ allParts embedded)
  | t@(union terms) => t :: termParts terms
  | t@(named _ generics args) => t :: (groupParts generics ++ allParts args)
  | t@(synonym _ generics args _) => t :: (groupParts generics ++ allParts args)
  | t => [t]
where
  allParts : List Ty → List Ty
    | [] => []
    | t :: rest => t.parts ++ allParts rest
  groupParts : List (List ParamDecl × Ty) → List Ty
    | [] => []
    | (_, t) :: rest => t.parts ++ groupParts rest
  paramParts : List (String × Ty) → List Ty
    | [] => []
    | (_, t) :: rest => t.parts ++ paramParts rest
  fieldParts : List (FieldHead × Ty) → List Ty
    | [] => []
    | (_, t) :: rest => t.parts ++ fieldParts rest
  methodParts : List (MethodHead × Ty) → List Ty
    | [] => []
    | (_, t) :: rest => t.parts ++ methodParts rest
  termParts : List (Bool × Ty) → List Ty
    | [] => []
    | (_, t) :: rest => t.parts ++ termParts rest

/-- The types of the values that a type is directly made of, and its type arguments. -/
def components : Ty → List Ty
  | pointer elem | slice elem | array _ elem | chan _ elem => [elem]
  | map key elem => [key, elem]
  | func _ params results _ => params.map (·.2) ++ results.map (·.2)
  | struct fields => fields.map (·.2)
  | named _ _ args | synonym _ _ args _ => args
  | _ => []

/-! ## Constraints -/

/-- What a type asks for if it is an interface. -/
def demand? (table : TypeTable) (t : Ty) : Option Demand :=
  match (t.underlying table) with
  | u@(.interface _ _ _) =>
    match u.normal table with
    | .interface methods embedded _ => some (.ofInterface methods embedded)
    | _ => none
  | _ => none

/-- Whether a type is a constraint, which has no values. -/
def isConstraint (table : TypeTable) (t : Ty) : Bool :=
  match t.unalias with
  | .param _ _ => false
  | u =>
    match u.demand? table with
    | some d => d.types.comparable || d.types.terms.isSome
    | none => false

/-- Whether a type is a type parameter. -/
def isParam (t : Ty) : Bool :=
  match t.unalias with
  | .param _ _ => true
  | _ => false

/-- Whether an alternative can stand in a constraint beside earlier ones. -/
def admitsTerm (table : TypeTable) (earlier : List Term) (t : Term) : Bool :=
  let normal := fun t : Ty => t.normal table
  let under := fun t : Ty => normal (t.underlying table)
  if t.2.isParam then false
  else match t.2.demand? table with
    | some d => !t.1 && d.methods.isEmpty && !d.types.comparable
    | none =>
      (!t.1 || under t.2 == normal t.2) &&
        earlier.all fun e =>
          (e.2.demand? table).isSome || Term.disjoint under (e.1, normal e.2) (t.1, normal t.2)

/-- Whether alternatives can stand beside each other. -/
def admitsTerms (table : TypeTable) (earlier : List Term) : List Term → Bool
  | [] => true
  | t :: rest => admitsTerm table earlier t && admitsTerms table (earlier ++ [t]) rest

end Ty

end TaggedUnion.Types
