import TaggedUnion.Types.Type

/-!
# Types that contain themselves

Values of a type *hold* values of the types of its fields and elements, but not of what pointers,
slices, maps, channels and functions refer to. A defined type that holds itself, perhaps through other
types, has no values, and is refused.

What a generic type holds is followed without putting in the type arguments: a type parameter stands
for the argument that the type around it was given, which is looked at from outside of that type. So
only types that are written somewhere are met, however they are nested.
-/

namespace TaggedUnion.Types

open Source

/-- The defined types and type parameters that values of a type hold. Interfaces hold the types they
embed. -/
def Ty.held : Ty → List Ty
  | .named name generics args => [.named name generics args]
  | .param name pos => [.param name pos]
  | .synonym _ _ _ target => target.held
  | .array _ elem => elem.held
  | .struct fields => heldFields fields
  | .interface _ embedded _ => heldAll embedded
  | .union terms => heldTerms terms
  | _ => []
where
  heldAll : List Ty → List Ty
    | [] => []
    | t :: rest => t.held ++ heldAll rest
  heldFields : List (FieldHead × Ty) → List Ty
    | [] => []
    | (_, t) :: rest => t.held ++ heldFields rest
  heldTerms : List (Bool × Ty) → List Ty
    | [] => []
    | (_, t) :: rest => t.held ++ heldTerms rest

/-- The type argument for a type parameter of a declaration. -/
def TypeDecl.argument? (d : TypeDecl) (args : List Ty) (pos : Pos) : Option Ty :=
  ((d.params.map (·.pos)).zip args).lookup pos

/-- Fails if a defined type, found inside the types of `nest`, holds one of these or itself. The state
lists the types that are known not to; they are not followed again. Chains of types are followed up
to the given length. -/
def checkFinite (table : TypeTable) : Nat → List Ty → Ty → StateT (List Ty) Option Unit
  | 0, _, _ => return ()
  | length + 1, nest, t => do
    match t with
    | .named name _ _ =>
      if name.home == "" || (← get).contains t then return ()
      if nest.contains t then failure
      match table.find? name with
      | none => return ()
      | some d =>
        d.rhs.held.forM (checkFinite table length (t :: nest))
        modify (t :: ·)
    | .param _ pos =>
      match nest with
      | .named name _ args :: outer =>
        match (table.find? name).bind fun d => d.argument? args pos with
        | some a => a.held.forM (checkFinite table length outer)
        | none => return ()
      | _ => return ()
    | _ => return ()

/-- How long chains of types are followed. -/
def TypeTable.chainLimit (table : TypeTable) : Nat :=
  2 * table.length + 1000

/-- Whether none of the named types holds itself. -/
def TypeTable.areFinite (table : TypeTable) (names : List TypeName) : Bool :=
  ((names.forM fun name =>
    checkFinite table table.chainLimit [] (.named name [] [])).run []).isSome

end TaggedUnion.Types
