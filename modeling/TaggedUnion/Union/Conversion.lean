import TaggedUnion.Name.Identifier
import TaggedUnion.Name.Reserved
import TaggedUnion.Types.Index
import TaggedUnion.Union.Union

/-!
# Conversions

A variant that carries one value gets two conversions: *unwrap*, from the union to the payload, and
*wrap*, from the payload to the union. Their names are put together from the names of the union and the
variant. Two variants of a union must not carry identical types, and no name may be declared twice in
a package.

Variants are checked in order. The names that are taken are remembered across the unions of a
package, also those of a variant that is then rejected.
-/

namespace TaggedUnion

open Source TaggedUnion.Types

/-- The conversions of a variant. -/
structure Conversion where
  variant : String
  accessor : Accessor
  payload : Ty
  /-- The name of the function from the union to the payload. -/
  unwrap : String
  /-- The name of the function from the payload to the union. -/
  wrap : String
  pos : Pos

/-- The name of a conversion. The preposition alone makes a name, so there always is one. -/
def conversionName (exported : Bool) (union preposition variant : String) : String :=
  (Name.join? exported [union, preposition, variant]).getD ""

namespace Union

/-- The name of the conversion from the union to the payload of a variant. -/
def unwrapName (u : Union) (variant : String) : String :=
  conversionName u.isExported u.name "to" variant

/-- The name of the conversion from the payload of a variant to the union. -/
def wrapName (u : Union) (variant : String) : String :=
  conversionName u.isExported u.name "from" variant

end Union

/-- The names that are taken in a package, with the places where they are declared. -/
abbrev TakenNames := Name.Reserved Pos

/-- The names a package declares itself. What earlier runs generated is going to be replaced, so it takes
up no names. -/
def Subject.takenNames (s : Subject) : TakenNames :=
  .ofList ((s.objects.filter fun o => !s.isGenerated o).map fun o => (o.name, o.pos))

/-- The state of checking the variants of one union. -/
structure Checking where
  /-- The names that are taken in the package. -/
  taken : TakenNames
  /-- The variants of the union so far, by their payload types. -/
  payloads : Index Variant := {}

/-- Takes names one after the other, up to the first that is taken already. -/
def takeNames (u : Union) (v : Variant) : TakenNames → List String → TakenNames × Option Finding
  | taken, [] => (taken, none)
  | taken, name :: rest =>
    match taken.reserve name v.pos with
    | .ok taken' => takeNames u v taken' rest
    | .error previous => (taken, some ⟨.nameTaken u.name v.name name previous, v.pos, 0⟩)

/-- Checks a variant that carries one value. -/
def convert (table : TypeTable) (u : Union) (v : Variant) (accessor : Accessor) (payload : Ty)
    (c : Checking) : Checking × Except Finding Conversion :=
  match c.payloads.put table payload v with
  | .error earlier =>
    (c, .error ⟨.samePayload u.name earlier.name v.name payload earlier.pos, v.pos, 0⟩)
  | .ok payloads =>
    let conversion : Conversion :=
      { variant := v.name, accessor, payload
        unwrap := u.unwrapName v.name, wrap := u.wrapName v.name, pos := v.pos }
    match takeNames u v c.taken [conversion.unwrap, conversion.wrap] with
    | (taken, some finding) => ({ taken, payloads }, .error finding)
    | (taken, none) => ({ taken, payloads }, .ok conversion)

/-- Checks a variant. -/
def checkVariant (table : TypeTable) (u : Union) (v : Variant) (c : Checking) :
    Checking × Except Finding Conversion :=
  match v.option, v.shape with
  | .unknown text, _ => (c, .error ⟨.unknownOption u.name v.name text, v.pos, 0⟩)
  | _, .unit => (c, .error ⟨.unitVariant u.name v.name, v.pos, 0⟩)
  | _, .multi count =>
    (c, .error ⟨.multiField u.name v.name count, v.expr.pos, v.expr.stop⟩)
  | _, .single accessor payload => convert table u v accessor payload c

/-- Checks variants one after the other. -/
def checkVariants (table : TypeTable) (u : Union) :
    Checking → List Variant → Checking × List (Except Finding Conversion)
  | c, [] => (c, [])
  | c, v :: rest =>
    let (c, outcome) := checkVariant table u v c
    let (c, outcomes) := checkVariants table u c rest
    (c, outcome :: outcomes)

/-- Checks the wanted variants of a union, or only the first ones if a limit is given; at least one
is checked if there is any. Returns the names that are taken afterwards, and an outcome for each
variant. -/
def Union.check (table : TypeTable) (u : Union) (limit : Option Nat) (taken : TakenNames) :
    TakenNames × List (Except Finding Conversion) :=
  let variants := match limit with
    | none => u.wanted
    | some n => u.wanted.take (max n 1)
  let (c, outcomes) := checkVariants table u { taken } variants
  (c.taken, outcomes)

end TaggedUnion
