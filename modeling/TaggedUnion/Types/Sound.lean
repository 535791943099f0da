import TaggedUnion.Types.MethodSet

/-!
# Sound types

A type argument must *satisfy* the bound of its type parameter: have its methods, be among the types that
it admits, and have comparable values if it asks for that. The keys of maps must have comparable
values as well. A type all of whose parts obey these and similar rules is *sound*.
-/

namespace TaggedUnion.Types

open Source

namespace Setting

variable (c : Setting)

/-! ## Comparable values -/

/-- Whether values of all the types can be compared, apart from those that were seen; at most `count` types
are looked at. -/
def areComparable : Nat → List Ty → List Ty → Bool
  | 0, _, _ => true
  | _, _, [] => true
  | count + 1, seen, t :: rest =>
    if seen.contains t then areComparable count seen rest
    else match c.under t with
      | .struct fields => areComparable count (t :: seen) (fields.map (·.2) ++ rest)
      | .array _ elem => areComparable count (t :: seen) (elem :: rest)
      | .interface _ _ _ =>
        if t.isParam then
          let types := ((c.demand? t).getD {}).types
          match types.terms with
          | some ts => areComparable count (t :: seen) (ts.map (·.2) ++ rest)
          | none => types.comparable && areComparable count (t :: seen) rest
        else areComparable count (t :: seen) rest
      | .slice _ | .map _ _ | .func _ _ _ _ => false
      | _ => areComparable count (t :: seen) rest

/-- Whether values of a type can be compared. Those of an interface can, whatever they hold. -/
def isComparable (t : Ty) : Bool :=
  c.areComparable 10000 [] [t]

/-! ## Bounds -/

/-- Whether a type has a method with the given signature in normal form. -/
def hasMethod (t : Ty) (m : MethodHead × Ty) : Bool :=
  c.method? m.1 t == some m.2

/-- Whether a type is among those that terms admit. All types of an interface have to be. -/
def isAmong (t : Ty) (terms : List Term) : Bool :=
  let under := fun u : Ty => (u.underlying c.table).normal c.table
  match c.demand? t with
  | some d =>
    match d.types.terms with
    | some ts => ts.all fun a => terms.any (Term.subset under a)
    | none => false
  | none => terms.any (Term.subset under (false, t.normal c.table))

/-- Whether nothing is asked of a type: nothing is known of it, or no type is of it. -/
def isExempt (t : Ty) : Bool :=
  c.under t == .invalid ||
    match c.demand? t with
    | some d => d.types.terms.any List.isEmpty
    | none => false

/-- Whether a type satisfies a bound. -/
def satisfies (t bound : Ty) : Bool :=
  match bound.demand? c.table with
  | none => true
  | some d =>
    c.isExempt t ||
      (d.methods.all (c.hasMethod t) && d.types.terms.all (c.isAmong t) &&
        (!d.types.comparable || c.isComparable t))

/-- Whether type arguments satisfy the bounds of the type parameters they are for. -/
def admitsArguments (generics : List (List ParamDecl × Ty)) (args : List Ty) : Bool :=
  let params := generics.flatMap fun (ps, bound) => ps.map fun p => (p.pos, bound)
  let σ := (params.map (·.1)).zip args
  (params.zip args).all fun ((_, bound), t) => c.satisfies t (bound.subst σ)

/-! ## Soundness -/

/-- Whether a field of the given type can be embedded. -/
def canEmbed (t : Ty) : Bool :=
  let (base, isPointer) := t.target
  match c.under base with
  | .basic name => name != "Pointer"
  | .pointer _ => false
  | .interface _ _ _ => !base.isParam && !isPointer
  | _ => true

/-- Whether methods of one name have one signature. -/
def methodsAgree (methods : List (MethodHead × Ty)) (embedded : List Ty) : Bool :=
  let own := match (Ty.interface methods [] false).normal c.table with
    | .interface methods _ _ => methods
    | _ => []
  let all := own ++ embedded.flatMap fun e => ((e.demand? c.table).getD {}).methods
  all.all fun a => all.all fun b => a.1 != b.1 || a.2 == b.2

/-- Whether the parts of a type fit together. -/
def isSoundPart (part : Ty) : Bool :=
  part.components.all (fun t => !t.isConstraint c.table) &&
    match part with
    | .interface methods embedded _ =>
      embedded.all (fun e => !e.isParam) && c.methodsAgree methods embedded
    | .union terms => Ty.admitsTerms c.table [] terms
    | .map key _ => c.isComparable key
    | .struct fields => fields.all fun f => !f.1.embedded || c.canEmbed f.2
    | .named name _ args | .synonym name _ args _ =>
      args.isEmpty || c.admitsArguments ((c.generics.lookup name).getD []) args
    | _ => true

/-- Whether a type is sound: values are not of constraints, an interface embeds no type parameter,
alternatives can stand beside each other, keys can be compared, and type arguments satisfy their
bounds. -/
def isSound (t : Ty) : Bool :=
  t.parts.all c.isSoundPart

end Setting

end TaggedUnion.Types
