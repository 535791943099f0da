import TaggedUnion.Text.Quoted

/-!
# Functions

The small language of generated functions: assignments to places within a value, returns, and a choice
by the text at a place. A function takes one value, called `in`, and has named results, the first of
which is called `out`. A function is written without indentation.
-/

namespace TaggedUnion.Code

/-- A place within the value of a variable: the variable, and the fields to go through. -/
structure Place where
  root : String
  fields : List String := []
deriving Repr, DecidableEq

/-- What is assigned or returned. -/
inductive Term
  /-- What is at a place. -/
  | place (p : Place)
  /-- A text. -/
  | text (s : String)
  /-- The word for no error. -/
  | nil
  /-- The error for a value that holds another variant: the value, its tag, and the wanted variant.
  `errors` is the package of the error, `union` the type of the value and `args` its type arguments. -/
  | mismatch (errors union args : String) (value tag : Place) (want : String)
deriving Repr, DecidableEq

/-- Statements. -/
inductive Statement
  | assign (target : Place) (value : Term)
  | ret (results : List Term)
  /-- Goes on with the first statement if the text at the place is the given one, otherwise with the
  second. -/
  | choose (on : Place) (text : String) (same other : Statement)
deriving Repr, DecidableEq

/-- A function. -/
structure Function where
  /-- The lines of the comment before it. -/
  doc : List String
  name : String
  /-- The type parameters with their brackets; empty if there are none. -/
  params : String
  /-- The type of the argument. -/
  input : String
  /-- The results by name and type. -/
  outputs : List (String × String)
  body : List Statement
deriving Repr

/-- The name of the argument. -/
def inputName : String := "in"

/-- The name of the first result. -/
def outputName : String := "out"

/-- The name of the result that holds an error. -/
def errorName : String := "err"

/-! ## Text -/

def Place.text (p : Place) : String :=
  ".".intercalate (p.root :: p.fields)

def Term.write : Term → String
  | place p => p.text
  | text s => Text.quote s
  | nil => "nil"
  | mismatch errors union args value tag want =>
    "&" ++ errors ++ ".Mismatch[" ++ union ++ args ++ "]\x7bValue: " ++ value.text ++ ", Tag: string(" ++
      tag.text ++ "), Want: " ++ Text.quote want ++ "\x7d"

def Statement.write : Statement → String
  | assign target value => target.text ++ " = " ++ value.write ++ "\n"
  | ret results => "return " ++ ", ".intercalate (results.map Term.write) ++ "\n"
  | choose on text same other =>
    "switch " ++ on.text ++ " \x7b\ncase " ++ Text.quote text ++ ":\n" ++ same.write ++
      "default:\n" ++ other.write ++ "\x7d\n"

namespace Term

theorem write_text (s : String) : (text s).write = Text.quote s := rfl

theorem write_mismatch (errors union args : String) (value tag : Place) (want : String) :
    (mismatch errors union args value tag want).write =
      "&" ++ errors ++ ".Mismatch[" ++ union ++ args ++ "]\x7bValue: " ++ value.text ++ ", Tag: string(" ++
        tag.text ++ "), Want: " ++ Text.quote want ++ "\x7d" := rfl

end Term

namespace Statement

theorem write_assign (target : Place) (value : Term) :
    (assign target value).write = target.text ++ " = " ++ value.write ++ "\n" := rfl

theorem write_ret (results : List Term) :
    (ret results).write = "return " ++ ", ".intercalate (results.map Term.write) ++ "\n" := rfl

theorem write_choose (on : Place) (text : String) (same other : Statement) :
    (choose on text same other).write =
      "switch " ++ on.text ++ " \x7b\ncase " ++ Text.quote text ++ ":\n" ++ same.write ++
        "default:\n" ++ other.write ++ "\x7d\n" := rfl

end Statement

def Function.write (f : Function) : String :=
  String.join (f.doc.map fun line => "// " ++ line ++ "\n") ++
    "func " ++ f.name ++ f.params ++ "(" ++ inputName ++ " " ++ f.input ++ ") (" ++
    ", ".intercalate (f.outputs.map fun (name, type) => name ++ " " ++ type) ++ ") \x7b\n" ++
    String.join (f.body.map Statement.write) ++ "\x7d\n"

end TaggedUnion.Code
