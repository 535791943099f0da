import TaggedUnion.Program.Operand
import TaggedUnion.Types.Sound

/-!
# Assignable values

A variable with a type of its own takes only values that are *assignable* to that type: values of the
type itself, of a type that is written out alike, or of a type with all methods of an interface.
Constants without a type are assignable if they have a value of the type.
-/

namespace TaggedUnion.Program

open TaggedUnion.Types

/-- A value that a variable of some type is to take. -/
structure Claim where
  value : Operand
  type : Ty

/-- Whether a type has a name, rather than being written out. -/
def hasName (t : Ty) : Bool :=
  match t.unalias with
  | .basic _ | .named _ _ _ | .param _ _ => true
  | _ => false

/-- Whether a type, or a type it is written with, is not known. -/
def isPartlyUnknown (t : Ty) : Bool :=
  t.parts.any (· == .invalid)

/-- Whether there is a zero value of pointers in a type with the given underlying type. -/
def hasNil : Ty → Bool
  | .pointer _ | .slice _ | .map _ _ | .chan _ _ | .func _ _ _ _ | .interface _ _ _ => true
  | .basic name => name == "Pointer"
  | _ => false

/-- Whether values of an untyped basic type can be of another basic type. -/
def sameSort (untyped name : String) : Bool :=
  (isBooleanName untyped && isBooleanName name) || (isStringName untyped && isStringName name) ||
    (isNumericName untyped && isNumericName name)

/-- Whether an untyped value is assignable to a type. -/
def isUntypedAssignable (c : Setting) (untyped : String) (x : Operand) (t : Ty) : Bool :=
  if t.isParam then true
  else if untyped == "untyped nil" then hasNil (c.under t)
  else match c.under t with
    | .basic name =>
      match x.constant? with
      | some k => (k.fit? name).isSome
      | none => sameSort untyped name
    | .interface _ _ _ => ((c.demand? t).getD {}).methods.isEmpty
    | _ => false

/-- Whether channels of one type are assignable to another: those for both directions to one of them. -/
def isChannelAssignable (c : Setting) (source target : Ty) : Bool :=
  match source, target with
  | .chan .both a, .chan _ b => a.identical c.table b
  | _, _ => false

/-- Whether values of a type are assignable to another one. -/
def isTypeAssignable (c : Setting) (v t : Ty) : Bool :=
  let source := c.under v
  let target := c.under t
  let alike := source.identical c.table target || isChannelAssignable c source target
  v.identical c.table t || v.isParam || t.isParam || (alike && !(hasName v && hasName t)) ||
    match target with
    | .interface _ _ _ => c.satisfies v t
    | _ => false

/-- Whether a value is assignable to a type. -/
def Claim.holds (c : Setting) (claim : Claim) : Bool :=
  let v := claim.value.type
  isPartlyUnknown v || isPartlyUnknown claim.type ||
    match v with
    | .basic name =>
      if isUntypedName name then isUntypedAssignable c name claim.value claim.type
      else isTypeAssignable c v claim.type
    | v => isTypeAssignable c v claim.type

end TaggedUnion.Program
