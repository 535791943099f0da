import TaggedUnion.Code.Function
import TaggedUnion.Code.Requalify
import TaggedUnion.Layout.Expr
import TaggedUnion.Union.Conversion

/-!
# Conversion functions

The functions that are generated for the variants of a union. For a variant `Circle` of a union `Shape`:

* *unwrap*, `ShapeToCircle`, returns the payload if the union holds the variant, and otherwise an error
  that holds the union;
* *wrap*, `ShapeFromCircle`, returns a union that holds the payload as the variant.

A generic union passes its type parameters on to both, with their bounds as they are written in the
source.
-/

namespace TaggedUnion

open Source TaggedUnion.Types Syntax Code

/-- The import path of the package that declares the error of conversions. -/
def errorsPath : String := generatorPath ++ "/pkg/enumorpherrors"

/-- The name of that package. -/
def errorsName : String := "enumorpherrors"

/-- The type parameters of a union, to be written after the name of a function, and its type arguments,
to be written after the name of the union. Both are empty if there are none. -/
structure Generics where
  params : String := ""
  args : String := ""
deriving Repr, DecidableEq

/-- The groups of type parameters with their bounds as the code writes them. -/
def paramTexts (s : Subject) (d : Draft) : List (GroupHead × Expr) → List String × Draft
  | [] => ([], d)
  | (head, bound) :: rest =>
    let (bound, d) := d.adapt s bound
    let d := d.importExpr s bound
    let text := ", ".intercalate (head.names.map (·.name)) ++ " " ++ Layout.exprText s.files bound
    let (texts, d) := paramTexts s d rest
    (text :: texts, d)

/-- The type parameters and arguments of a union as the code writes them. -/
def Draft.generics (s : Subject) (d : Draft) (u : Union) : Generics × Draft :=
  if u.isGeneric then
    let (texts, d) := paramTexts s d u.params
    let names := u.params.flatMap fun (head, _) => head.names.map (·.name)
    ({ params := "[" ++ ", ".intercalate texts ++ "]"
       args := "[" ++ ", ".intercalate names ++ "]" }, d)
  else ({}, d)

namespace Conversion

/-- The place of the payload in a union. -/
def place (c : Conversion) (root : String) : Place :=
  match c.accessor with
  | .whole _ => ⟨root, [c.variant]⟩
  | .field name => ⟨root, [c.variant, name]⟩

/-- The function from the union to the payload, given the payload type as the code writes it and the
name of the package of errors. -/
def unwrapFunction (u : Union) (g : Generics) (errors payload : String) (c : Conversion) : Function :=
  let input : Place := ⟨inputName, []⟩
  let tag : Place := ⟨inputName, [u.tag.name]⟩
  { doc := [c.unwrap ++ " returns the payload of in if it holds the " ++ c.variant ++ " variant.",
      "Otherwise, it returns a *" ++ errors ++ ".Mismatch holding in."]
    name := c.unwrap
    params := g.params
    input := u.name ++ g.args
    outputs := [(outputName, payload), (errorName, "error")]
    body := [.choose tag c.variant
      (.ret [.place (c.place inputName), .nil])
      (.ret [.place ⟨outputName, []⟩, .mismatch errors u.name g.args input tag c.variant])] }

/-- The function from the payload to the union. -/
def wrapFunction (u : Union) (g : Generics) (payload : String) (c : Conversion) : Function :=
  { doc := [c.wrap ++ " returns a " ++ u.name ++ " holding in as the " ++ c.variant ++ " variant."]
    name := c.wrap
    params := g.params
    input := payload
    outputs := [(outputName, u.name ++ g.args)]
    body := [.assign ⟨outputName, [u.tag.name]⟩ (.text c.variant),
      .assign (c.place outputName) (.place ⟨inputName, []⟩),
      .ret [.place ⟨outputName, []⟩]] }

end Conversion

namespace Draft

/-- Writes the two functions of a variant. -/
def writeConversion (s : Subject) (u : Union) (g : Generics) (errors : String) (d : Draft)
    (c : Conversion) : Draft :=
  let (payload, d) := d.typeText s c.payload
  let d := d.write ((c.unwrapFunction u g errors payload).write ++ "\n")
  let (payload, d) := d.typeText s c.payload
  d.write ((c.wrapFunction u g payload).write ++ "\n")

/-- Writes the functions of the given variants of a union. -/
def writeConversions (s : Subject) (d : Draft) (u : Union) (conversions : List Conversion) : Draft :=
  if conversions.isEmpty then d
  else
    let (g, d) := d.generics s u
    let (errors, d) := (d.importPath s errorsPath errorsName).getD (errorsName, d)
    conversions.foldl (writeConversion s u g errors) d

end Draft

end TaggedUnion
