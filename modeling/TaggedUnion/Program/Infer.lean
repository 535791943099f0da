import TaggedUnion.Program.Operand
import TaggedUnion.Types.Constraint

/-!
# Inferred type arguments

The type arguments of a generic function follow from what it is used with: the types of its parameters, which
mention type parameters, are matched against the types of the arguments. Then bounds are matched with
what is known: one that admits types of one form only, with that form, and others with the methods that
they ask for. Last, a parameter that only untyped constants were given for takes their default type.

Types are matched *exactly* or not. If not, a defined type matches what it stands for, the directions of
channels make no difference, and an interface matches a type that has its methods.
-/

namespace TaggedUnion.Program

open Source TaggedUnion.Types

/-- Types for type parameters, which are given by the places of their declarations, the latest first. A type
parameter may also stand for another one that is not known yet. -/
abbrev Solution := List (Pos × Ty)

/-- How types are matched. In an assignment only the outermost types need not match exactly. -/
structure Matching where
  exact : Bool := false
  assign : Bool := false

/-- How the elements of types are matched. -/
def Matching.inner (m : Matching) : Matching :=
  { m with exact := m.exact || m.assign }

/-! ## What is known -/

section

variable (targets : List Pos)

/-- The type parameter that is to be found, if the type is one. -/
def target? (t : Ty) : Option Pos :=
  match t.unalias with
  | .param _ pos => if targets.contains pos then some pos else none
  | _ => none

/-- The last in a chain of at most `length` type parameters that stand for each other. -/
def Solution.root (σ : Solution) : Nat → Pos → Pos
  | 0, pos => pos
  | length + 1, pos =>
    match (σ.lookup pos).bind (target? targets) with
    | some next => root σ length next
    | none => pos

/-- The type parameter that another one stands for. -/
def Solution.leader (σ : Solution) (pos : Pos) : Pos :=
  σ.root targets targets.length pos

/-- What is known of a type parameter. -/
def Solution.known? (σ : Solution) (pos : Pos) : Option Ty :=
  (σ.lookup (σ.leader targets pos)).filter fun t => (target? targets t).isNone

/-- Notes the type that a type parameter stands for. -/
def Solution.put (σ : Solution) (pos : Pos) (t : Ty) : Solution :=
  (σ.leader targets pos, t) :: σ

/-- Lets a type parameter that is not known stand for another one. -/
def Solution.link (σ : Solution) (pos other : Pos) : Solution :=
  let a := σ.leader targets pos
  let b := σ.leader targets other
  if a == b then σ else (a, .param "" b) :: σ

/-- Whether a type mentions a type parameter that is to be found. -/
def mentions (t : Ty) : Bool :=
  t.parts.any fun p => (target? targets p).isSome

end

/-! ## Matching -/

variable (s : Site) (ask : Ask)

/-- Whether a type is written out or basic, rather than defined. -/
def isWrittenOut (t : Ty) : Bool :=
  match t.unalias with
  | .named _ _ _ | .param _ _ => false
  | _ => true

/-- Whether a type is an interface. -/
def isInterface (t : Ty) : Check Bool := do
  if t.isParam then return false
  match ← underlying s ask t with
  | .interface _ _ _ => return true
  | _ => return false

/-- The better one of two types that match: an interface, a defined type, a channel for one direction. -/
def preferred (known given : Ty) : Check Ty := do
  let a ← isInterface s ask known
  let b ← isInterface s ask given
  if a != b then return if b then given else known
  match known.unalias, given.unalias with
  | .chan .both _, .chan _ _ => return given
  | _, _ => return if isWrittenOut known && !isWrittenOut given then given else known

/-- Pairs of the methods of one list with those of another one that have the same names. -/
def methodPairs? (as bs : List (MethodHead × Ty)) : Option (List (Ty × Ty)) :=
  as.mapM fun a => (bs.find? fun b => a.1.name == b.1.name).map fun b => (a.2, b.2)

/-- Pairs of methods with those that a type has under their names. -/
def memberPairs? (methods : List (MethodHead × Ty)) (t : Ty) : Check (Option (List (Ty × Ty))) := do
  let found ← methods.mapM fun m => do
    match ← member? s ask t m.1.name with
    | some (.method _ _ u) => return some (m.2, u)
    | _ => return none
  return found.mapM id

/-- The pairs of methods that must match if one of two types is an interface. Methods of one of two
interfaces must be among those of the other. -/
def interfacePairs? (x y : Ty) : Check (Option (Option (List (Ty × Ty)))) := do
  let methods := interfaceMethods s ask s.env.bound
  match ← isInterface s ask x, ← isInterface s ask y with
  | true, true =>
    let as ← methods x
    let bs ← methods y
    return some (if as.length ≤ bs.length then methodPairs? as bs else methodPairs? bs as)
  | true, false => return some (← memberPairs? s ask (← methods x) y)
  | false, true => return some (← memberPairs? s ask (← methods y) x)
  | false, false => return none

/-- The pairs of types that two types of the same form are made of; none if their forms differ. -/
def elementPairs? (exact : Bool) : Ty → Ty → Option (List (Ty × Ty))
  | .basic m, .basic n => if basicNormal m == basicNormal n then some [] else none
  | .pointer a, .pointer b => some [(a, b)]
  | .slice a, .slice b => some [(a, b)]
  | .array m a, .array n b => if m == n then some [(a, b)] else none
  | .map k a, .map l b => some [(k, l), (a, b)]
  | .chan d a, .chan e b => if !exact || d == e then some [(a, b)] else none
  | .func g ps rs v, .func h as bs w =>
    if g.length == h.length && v == w && ps.length == as.length && rs.length == bs.length then
      some ((ps.map (·.2)).zip (as.map (·.2)) ++ (rs.map (·.2)).zip (bs.map (·.2)))
    else none
  | .struct fs, .struct gs =>
    let key := fun f : FieldHead × Ty => (f.1.name, ownedBy f.1.name f.1.home, f.1.embedded, f.1.tag)
    if fs.map key == gs.map key then some ((fs.map (·.2)).zip (gs.map (·.2))) else none
  | _, _ => none

/-- Matches two types, going at most `depth` types deep. -/
def unify (targets : List Pos) : Nat → Matching → Solution → Ty → Ty → Check (Option Solution)
  | 0, _, _, _, _ => return none
  | depth + 1, m, σ, x, y => do
    let all := fun (m : Matching) (pairs : List (Ty × Ty)) => pairs.foldlM (fun acc (a, b) => do
      match acc with
      | none => return none
      | some σ => unify targets depth m σ a b) (some σ)
    if x.unalias == y.unalias then return some σ
    let isNamed := fun t : Ty => !isWrittenOut t && !t.isParam
    let (x, y) := if isNamed x || (target? targets y).isSome then (y, x) else (x, y)
    let opens := !m.exact && isNamed y && isWrittenOut x && !(← isInterface s ask x)
    let y ← if opens then underlying s ask y else pure y
    match target? targets x, target? targets y with
    | some p, some q =>
      match σ.known? targets p, σ.known? targets q with
      | some a, some b => unify targets depth m σ a b
      | none, _ => return some (σ.link targets p q)
      | _, none => return some (σ.link targets q p)
    | some p, none =>
      match σ.known? targets p with
      | none => return some (σ.put targets p y)
      | some t =>
        match ← unify targets depth m σ t y with
        | none => return none
        | some σ =>
          if m.exact then return some σ
          let best ← preferred s ask t y
          return some (σ.put targets p best)
    | none, _ =>
      let methods ← if m.exact then pure none else interfacePairs? s ask x y
      match methods with
      | some none => return none
      | some (some pairs) => all { exact := true } pairs
      | none =>
        match x.unalias, y.unalias with
        | .named a _ as, .named b _ bs =>
          if a == b && as.length == bs.length then all m (as.zip bs) else return none
        | .interface ms es i, .interface ns fs j =>
          let as ← interfaceMethods s ask s.env.bound (.interface ms es i)
          let bs ← interfaceMethods s ask s.env.bound (.interface ns fs j)
          if as.length != bs.length then return none
          match methodPairs? as bs with
          | some pairs => all { exact := true } pairs
          | none => return none
        | a, b =>
          match elementPairs? m.exact a b with
          | some pairs => all m.inner pairs
          | none => return none

/-- How deep types are matched. -/
def unifyDepth : Nat := 1000

/-! ## Bounds -/

/-- The terms that are in both of two lists. -/
def commonTerms (table : TypeTable) (as bs : List Term) : List Term :=
  let normal := fun t : Ty => t.normal table
  let under := fun t : Ty => normal (t.underlying table)
  as.flatMap fun a => bs.filterMap fun b =>
    if Term.disjoint under (a.1, normal a.2) (b.1, normal b.2) then none
    else some (if !a.1 || b.1 then a else b)

/-- The terms of a constraint as they are written, with constraints nested to at most the given depth. There
are none if it admits all types. -/
def termsTo : Nat → Ty → Check (Option (List Term))
  | 0, _ => return none
  | depth + 1, t => do
    if t.unalias == comparableType then return none
    match ← underlying s ask t with
    | .union terms =>
      let each ← terms.mapM fun (tilde, u) => do
        if !tilde && (← isInterface s ask u) then termsTo depth u else return some [(tilde, u)]
      return (each.mapM id).map List.flatten
    | .interface _ embedded _ =>
      let each ← embedded.mapM (termsTo depth)
      match each.filterMap id with
      | [] => return none
      | first :: rest =>
        let table ← knownTypes s.env
        return some (rest.foldl (commonTerms table) first)
    | _ => return some [(false, t)]

/-- The form that a bound admits types of, if there is one: the only term, or what all terms have for an
underlying type. Also says whether there is only one term. -/
def core? (bound : Ty) : Check (Option (Term × Bool)) := do
  match ← termsTo s ask s.env.bound bound with
  | some [term] => return some (term, true)
  | some (first :: rest) =>
    let table ← knownTypes s.env
    let form ← underlying s ask first.2
    let others ← rest.mapM fun t => underlying s ask t.2
    if others.all (Ty.identical table form) then
      return some (((first :: rest).any (·.1), form), false)
    else return none
  | _ => return none

/-- Matches a type with another one, or gives up. -/
def demandMatch (targets : List Pos) (m : Matching) (σ : Solution) (x y : Ty) : Check Solution := do
  orUnclear (← unify s ask targets unifyDepth m σ x y)

/-- Matches the bound of a type parameter with what is known. -/
def solveBound (targets : List Pos) (σ : Solution) (pos : Pos) (bound : Ty) : Check Solution := do
  match ← core? s ask bound, σ.known? targets pos with
  | some ((tilde, form), _), some t =>
    let t ← if tilde && !t.isParam then underlying s ask t else pure t
    demandMatch s ask targets {} σ t form
  | some ((false, form), true), none => return σ.put targets pos form
  | some _, none => return σ
  | none, some t =>
    let methods ← interfaceMethods s ask s.env.bound bound
    let pairs ← orUnclear (← memberPairs? s ask methods t)
    pairs.foldlM (fun σ (a, b) => demandMatch s ask targets { exact := true } σ a b) σ
  | none, none => return σ

/-- Matches bounds with what is known, as long as that makes anything known, but at most `count` times. -/
def solveBounds (targets : List Pos) (bounds : List (Pos × Ty)) : Nat → Solution → Check Solution
  | 0, σ => return σ
  | count + 1, σ => do
    let size := fun τ : Solution => targets.countP fun pos => (τ.known? targets pos).isSome
    let τ ← bounds.foldlM (fun σ (pos, bound) => solveBound s ask targets σ pos bound) σ
    if size τ == size σ then return τ else solveBounds targets bounds count τ

/-! ## Arguments -/

/-- The type that a parameter takes from the untyped constants given for it. -/
def defaultAmong (pos : Pos) (given : List (Ty × Operand)) : Option Ty :=
  let names := given.filterMap fun (p, x) =>
    match p, x.type with
    | .param _ q, .basic name =>
      if q == pos && isUntypedName name && name != "untyped nil" then some name else none
    | _, _ => none
  match names with
  | [] => none
  | first :: rest => do
    let name ← rest.foldlM (fun a b =>
      if a == b then some a
      else if untypedNumbers.contains a && untypedNumbers.contains b then some (Ty.moreGeneral a b)
      else none) first
    return Ty.default (.basic name)

/-- The types of the parameters of a function for the given number of arguments; a variadic one takes
any number, unless the last argument is a slice that is followed by dots. -/
def paramsFor (params : List Ty) (variadic dots : Bool) (count : Nat) : List Ty :=
  if variadic && !dots then
    match params.getLast?.map Ty.unalias with
    | some (.slice elem) =>
      params.dropLast ++ List.replicate (count - (params.length - 1)) elem
    | _ => params
  else params

/-- Type parameters with their bounds. -/
def boundsOf (generics : List (List ParamDecl × Ty)) : List (Pos × Ty) :=
  generics.flatMap fun (ps, bound) => ps.map fun p => (p.pos, bound)

/-- Puts what is known into the types that mention type parameters, as often as there are such. -/
def settle (targets : List Pos) : Nat → Solution → Check Solution
  | 0, σ => return σ
  | count + 1, σ => do
    let τ ← σ.mapM fun (pos, t) => do
      return (pos, ← if mentions targets t then substIn s.env σ t else pure t)
    settle targets count τ

/-- The types for all type parameters, given some of them and the arguments for parameters that mention
them. -/
def infer (bounds : List (Pos × Ty)) (start : Solution) (given : List (Ty × Operand)) :
    Check Solution := do
  let targets := bounds.map (·.1)
  let given := given.filter fun g => mentions targets g.1 || mentions targets g.2.type
  let typed := given.filter fun g => !g.2.type.isUntyped && g.2.type != .invalid
  let σ ← typed.foldlM (fun σ (p, x) => demandMatch s ask targets { assign := true } σ p x.type) start
  let σ ← solveBounds s ask targets bounds (targets.length + 1) σ
  let σ := targets.foldl (fun σ pos =>
    if (σ.known? targets pos).isSome then σ
    else match defaultAmong pos given with
      | some t => σ.put targets pos t
      | none => σ) σ
  let found ← targets.mapM fun pos => do return (pos, ← orUnclear (σ.known? targets pos))
  let found ← settle s targets targets.length found
  if found.any fun (_, t) => mentions targets t then throw .unclear
  return found

end TaggedUnion.Program
