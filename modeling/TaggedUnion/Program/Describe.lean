import TaggedUnion.Program.Object
import TaggedUnion.Types.Text

/-!
# Descriptions of objects

An object is described by its sort, its full name and its type; a type by what it stands for.
-/

namespace TaggedUnion.Program

open TaggedUnion.Types

/-- The parameters and results of a function type, with its type parameters. -/
def signatureText (q : Qualifier) : Ty → String
  | .func generics params results variadic =>
    bracketed (Ty.text.groupTexts q generics) ++ paramsText (Ty.text.paramTexts q variadic params) ++
      resultsText (Ty.text.paramTexts q false results)
  | t => t.text q

/-- The type parameters of a generic type or alias. -/
def genericsText (q : Qualifier) : Ty → String
  | .named _ generics _ => bracketed (Ty.text.groupTexts q generics)
  | .synonym _ generics _ _ => bracketed (Ty.text.groupTexts q generics)
  | _ => ""

/-- What the right-hand side of an alias is. -/
def aliasTarget : Ty → Ty
  | .synonym _ _ _ target => target
  | t => t

/-- The description of an object, with types by their full paths. -/
def Object.describe (table : TypeTable) (o : Object) : String :=
  let name := qualified fullPath o.home o.name
  match o.kind with
  | .builtin => "builtin " ++ name
  | .func => "func " ++ name ++ signatureText fullPath o.type
  | .var => "var " ++ name ++ " " ++ o.type.text fullPath
  | .const => "const " ++ name ++ " " ++ o.type.text fullPath
  | .synonym =>
    "type " ++ name ++ genericsText fullPath o.type ++ " = " ++ (aliasTarget o.type).text fullPath
  | .type =>
    "type " ++ name ++ genericsText fullPath o.type ++ " " ++ (o.type.underlying table).text fullPath

end TaggedUnion.Program
