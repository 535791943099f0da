import TaggedUnion.Types.Code
import TaggedUnion.Types.Terms
import TaggedUnion.Text.Letter

/-!
# Type identity

Two types are identical if they have the same *normal form*. The normal form of a type has no aliases
and no names of parameters; type parameters of a function are numbered; an interface has its methods
sorted, with those of embedded interfaces among them, and the set of types it admits as sorted terms;
and names that are not exported belong to their package. A defined type is identical only to itself,
so its normal form keeps its name.
-/

namespace TaggedUnion.Types

open Source

/-- Unexported names of different packages are different; exported ones are not. -/
def ownedBy (name home : String) : String :=
  if Text.isExported name then "" else home

/-- The order of methods in normal forms. -/
def methodKeyLe (a b : MethodHead × Ty) : Bool :=
  a.1.name < b.1.name || (a.1.name == b.1.name && a.1.home ≤ b.1.home)

/-- Sorts methods and drops repeated ones. -/
def sortMethods (methods : List (MethodHead × Ty)) : List (MethodHead × Ty) :=
  dropRepeated (methods.mergeSort methodKeyLe)
where
  dropRepeated : List (MethodHead × Ty) → List (MethodHead × Ty)
    | a :: b :: rest => if a.1 == b.1 then dropRepeated (a :: rest) else a :: dropRepeated (b :: rest)
    | ms => ms
  termination_by ms => ms.length

/-- Basic types under two names. -/
def basicNormal (name : String) : String :=
  if name == "byte" then "uint8" else if name == "rune" then "int32" else name

/-! ## Interfaces in normal form -/

/-- What an interface asks for: methods, and a type in a set. -/
structure Demand where
  methods : List (MethodHead × Ty) := []
  types : TypeSet := {}

namespace Demand

/-- The order of terms in normal forms. -/
def termLe (a b : Term) : Bool :=
  codeLe (a.1.toNat :: a.2.code) (b.1.toNat :: b.2.code)

/-- The interface in normal form that asks for the given. -/
def interface (d : Demand) : Ty :=
  .interface (sortMethods d.methods)
    ((if d.types.comparable then [comparableType] else []) ++
      match d.types.terms with
      | none => []
      | some ts => [.union (ts.mergeSort termLe)]) false

/-- What an interface in normal form asks for. -/
def ofInterface (methods : List (MethodHead × Ty)) (embedded : List Ty) : Demand :=
  { methods
    types := {
      terms := embedded.findSome? fun
        | .union ts => some ts
        | _ => none
      comparable := embedded.any (· == comparableType) } }

variable (expand : Ty → Ty)

/-- The normal form of the type that underlies one in normal form. -/
def under (t : Ty) : Ty :=
  match t with
  | .named _ _ _ => expand t
  | t => t

/-- Whether values of a type in normal form can be compared, looking into at most `depth` types. -/
def isComparable : Nat → Ty → Bool
  | 0, _ => false
  | depth + 1, t =>
    match under expand t with
    | .struct fields => fields.all fun f => isComparable depth f.2
    | .array _ elem => isComparable depth elem
    | .interface methods embedded _ =>
      let d := ofInterface methods embedded
      d.types.comparable || (match d.types.terms with
        | none => false
        | some ts => ts.all fun t => isComparable depth t.2)
    | .slice _ | .map _ _ | .func _ _ _ _ => false
    | _ => true

/-- The terms of an alternative; those of an interface are its own. -/
def termsOf (t : Term) : Option (List Term) :=
  match under expand t.2 with
  | .interface methods embedded _ => (ofInterface methods embedded).types.terms
  | u => some (if t.1 && u != t.2 then [] else [t])

/-- What an element of an interface, in normal form, asks for. -/
def ofElement (e : Ty) : Demand :=
  if e == comparableType then { types := { comparable := true } }
  else match e with
  | .union ts =>
    let all := ts.map (termsOf expand)
    { types := {
        terms := all.foldl (fun acc terms =>
          match acc, terms with
          | some as, some bs => some (TypeSet.unite (under expand) as bs)
          | _, _ => none) (some []) } }
  | e =>
    match under expand e with
    | .interface methods embedded _ => ofInterface methods embedded
    | _ => { types := { terms := some [(false, e)] } }

/-- How deep types are looked into for comparability. -/
def comparisonDepth : Nat := 1000

/-- What an interface asks for that asks for both. -/
def and (a b : Demand) : Demand :=
  { methods := a.methods ++ b.methods
    types := a.types.inter (under expand) (isComparable expand comparisonDepth) b.types }

end Demand

namespace Ty

/-- The place-holder of a numbered type parameter. -/
def numbered (i : Nat) : Ty := param ("#" ++ toString i) 0

/-- Numbers the type parameters of a function, after those that have numbers already. -/
def numbering (numbers : List (Pos × Nat)) (generics : List (List ParamDecl × Ty)) : List (Pos × Nat) :=
  (generics.flatMap (·.1)).mapIdx (fun i p => (p.pos, numbers.length + i)) ++ numbers

/-- A type parameter in a normal form; it is given by its number if it has one. -/
def normalParam (numbers : List (Pos × Nat)) (name : String) (pos : Pos) : Ty :=
  match numbers.lookup pos with
  | some i => numbered i
  | none => param name pos

/-- A bound for each type parameter. -/
def flatBounds (generics : List (List ParamDecl × Ty)) : List (List ParamDecl × Ty) :=
  generics.flatMap fun (params, bound) => params.map fun _ => ([], bound)

/-- The normal form of a type, given the numbers of type parameters around it; `expand` gives the normal form of what a
defined type stands for. If `spelled` holds, aliases and the two names of a basic type are kept where they stand for
themselves. -/
def normalWith (spelled : Bool) (expand : Ty → Ty) (numbers : List (Pos × Nat)) : Ty → Ty
  | basic name => basic (if spelled then name else basicNormal name)
  | pointer elem => pointer (elem.normalWith spelled expand numbers)
  | slice elem => slice (elem.normalWith spelled expand numbers)
  | array length elem => array length (elem.normalWith spelled expand numbers)
  | map key elem => map (key.normalWith spelled expand numbers) (elem.normalWith spelled expand numbers)
  | chan direction elem => chan direction (elem.normalWith spelled expand numbers)
  | func generics params results variadic =>
    let inner := numbering numbers generics
    func (flatBounds (normalGroups inner generics)) (normalParams inner params) (normalParams inner results) variadic
  | struct fields => struct (normalFields numbers fields)
  | interface methods embedded _ =>
    let own : Demand := { methods := normalMethods numbers methods }
    let elements := (normalAll numbers embedded).map fun e => Demand.ofElement expand e.unalias
    (elements.foldl (Demand.and expand) own).interface
  | union terms => union (normalTerms numbers terms)
  | named name _ args => named name [] (normalAll numbers args)
  | synonym name _ args target =>
    if spelled then synonym name [] (normalAll numbers args) (target.normalWith spelled expand numbers)
    else target.normalWith spelled expand numbers
  | param name pos => normalParam numbers name pos
where
  normalAll (numbers : List (Pos × Nat)) : List Ty → List Ty
    | [] => []
    | t :: rest => t.normalWith spelled expand numbers :: normalAll numbers rest
  normalGroups (numbers : List (Pos × Nat)) : List (List ParamDecl × Ty) → List (List ParamDecl × Ty)
    | [] => []
    | (params, t) :: rest => (params, t.normalWith spelled expand numbers) :: normalGroups numbers rest
  normalParams (numbers : List (Pos × Nat)) : List (String × Ty) → List (String × Ty)
    | [] => []
    | (_, t) :: rest => ("", t.normalWith spelled expand numbers) :: normalParams numbers rest
  normalFields (numbers : List (Pos × Nat)) : List (FieldHead × Ty) → List (FieldHead × Ty)
    | [] => []
    | (head, t) :: rest =>
      ({ head with home := ownedBy head.name head.home, pos := 0 }, t.normalWith spelled expand numbers) ::
        normalFields numbers rest
  normalMethods (numbers : List (Pos × Nat)) : List (MethodHead × Ty) → List (MethodHead × Ty)
    | [] => []
    | (head, t) :: rest =>
      ({ head with home := ownedBy head.name head.home }, t.normalWith spelled expand numbers) ::
        normalMethods numbers rest
  normalTerms (numbers : List (Pos × Nat)) : List (Bool × Ty) → List (Bool × Ty)
    | [] => []
    | (tilde, t) :: rest => (tilde, t.normalWith spelled expand numbers) :: normalTerms numbers rest

/-- The normal form of what a defined type stands for, with embedded types unfolded to the given depth. -/
def expandTo (spelled : Bool) (table : TypeTable) : Nat → Ty → Ty
  | 0, t => t
  | depth + 1, t => (t.underlying table).normalWith spelled (expandTo spelled table depth) []

/-- The normal form of a type, with embedded types unfolded to the given depth. -/
def normalTo (spelled : Bool) (table : TypeTable) (depth : Nat) : Ty → Ty :=
  normalWith spelled (expandTo spelled table depth) []

/-- The normal form of a type. -/
def normal (table : TypeTable) (t : Ty) : Ty :=
  t.normalTo false table table.length

/-- Whether two types are identical. -/
def identical (table : TypeTable) (t u : Ty) : Bool :=
  t.normal table == u.normal table

end Ty

end TaggedUnion.Types
