import TaggedUnion.Code.Draft
import TaggedUnion.Layout.Source
import TaggedUnion.Union.Directive

/-!
# Generated files

A generated file consists of a header that says where it comes from, the package clause, the imports, and
the code of a draft. It is laid out in the fixed style if it can be read.
-/

namespace TaggedUnion

/-- The line a generated file starts with. -/
def headerLine (version : String) : String :=
  generatedHeader ++ (if version == "" then "" else "@" ++ version) ++ ". DO NOT EDIT.\n"

/-- An import as a line. -/
def importLine (name : String) (i : Import) : String :=
  (if i.hasAlias then name ++ " " else "") ++ Text.quote i.path ++ "\n"

/-- The imports of a draft, sorted by name, between brackets. -/
def importBlock (imports : List (String × Import)) : String :=
  if imports.isEmpty then ""
  else
    "import (\n" ++
      String.join ((imports.mergeSort (·.1 ≤ ·.1)).map fun (name, i) => importLine name i) ++ ")\n\n"

/-- The text of a generated file before it is laid out. -/
def rawFile (version package : String) (d : Draft) : String :=
  headerLine version ++ "\n" ++ "package " ++ package ++ "\n\n" ++ importBlock d.imports ++ d.text

/-- A generated file. -/
def generatedFile (version package : String) (d : Draft) : String :=
  let raw := rawFile version package d
  (Layout.format? raw).getD raw

end TaggedUnion
