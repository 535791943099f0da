import TaggedUnion.Types.Predeclared
import TaggedUnion.Text.Quoted

/-!
# Type texts

Types are written as in source, on one line. A *qualifier* says how the package of a declared type is
written in front of its name; an empty answer leaves it out.
-/

namespace TaggedUnion.Types

/-- How packages, given by import path, are written in front of names. -/
abbrev Qualifier := String → String

/-- Writes packages by their full import path. -/
def fullPath : Qualifier := id

/-- A name with the qualifier of its package. -/
def qualified (q : Qualifier) (home name : String) : String :=
  if home == "" || q home == "" then name else q home ++ "." ++ name

/-- The words in front of the element type of a channel. -/
def Direction.text : Direction → String
  | both => "chan "
  | send => "chan<- "
  | receive => "<-chan "

/-- Texts in brackets, separated by commas; nothing if there are none. -/
def bracketed (texts : List String) : String :=
  if texts.isEmpty then "" else "[" ++ ", ".intercalate texts ++ "]"

/-- Parameters, given by name and text of the type, in brackets. -/
def paramsText (params : List (String × String)) : String :=
  let one := fun ((name, type) : String × String) => if name == "" then type else name ++ " " ++ type
  "(" ++ ", ".intercalate (params.map one) ++ ")"

/-- Results with a leading blank; a single unnamed result needs no brackets. -/
def resultsText (results : List (String × String)) : String :=
  match results with
  | [] => ""
  | [("", type)] => " " ++ type
  | results => " " ++ paramsText results

namespace Ty

/-- The text of a type parameter; one that has the name of something predeclared is marked. -/
def paramText (name : String) : String :=
  if predeclaredNames.contains name then name ++ "/* type parameter */" else name

/-- Whether a type is a channel that can only be received from. -/
def isReceiveChan : Ty → Bool
  | chan .receive _ => true
  | _ => false

/-- The text of a type. -/
def text (q : Qualifier) : Ty → String
  | basic name => if name == "Pointer" then qualified q "unsafe" name else name
  | pointer elem => "*" ++ elem.text q
  | slice elem => "[]" ++ elem.text q
  | array length elem => "[" ++ toString length ++ "]" ++ elem.text q
  | map key elem => "map[" ++ key.text q ++ "]" ++ elem.text q
  | chan direction elem =>
    let inner := elem.text q
    direction.text ++
      (if direction == .both && elem.isReceiveChan then "(" ++ inner ++ ")" else inner)
  | func generics params results variadic =>
    "func" ++ bracketed (groupTexts generics) ++ paramsText (paramTexts variadic params) ++
      resultsText (paramTexts false results)
  | struct fields => "struct\x7b" ++ "; ".intercalate (fieldTexts fields) ++ "\x7d"
  | interface methods embedded implicit =>
    match implicit, methods, texts embedded with
    | true, [], [only] => only
    | _, _, es => "interface\x7b" ++ "; ".intercalate (methodTexts methods ++ es) ++ "\x7d"
  | union terms => " | ".intercalate (termTexts terms)
  | named name generics args =>
    qualified q name.home name.name ++
      bracketed (if args.isEmpty then groupTexts generics else texts args)
  | synonym name generics args _ =>
    qualified q name.home name.name ++
      bracketed (if args.isEmpty then groupTexts generics else texts args)
  | param name _ => paramText name
where
  texts : List Ty → List String
    | [] => []
    | t :: rest => t.text q :: texts rest
  /-- Type parameters with their bounds. -/
  groupTexts : List (List ParamDecl × Ty) → List String
    | [] => []
    | (params, bound) :: rest =>
      (", ".intercalate (params.map fun p => paramText p.name) ++ " " ++ bound.text q) ::
        groupTexts rest
  /-- Parameters by name and text of the type; the last one of a variadic function is a slice that
  is written with dots. -/
  paramTexts (variadic : Bool) : List (String × Ty) → List (String × String)
    | [] => []
    | [(name, slice elem)] => [(name, (if variadic then "..." else "[]") ++ elem.text q)]
    | (name, t) :: rest => (name, t.text q) :: paramTexts variadic rest
  fieldTexts : List (FieldHead × Ty) → List String
    | [] => []
    | (head, t) :: rest =>
      ((if head.embedded then "" else head.name ++ " ") ++ t.text q ++
        (if head.tag.isEmpty then "" else " " ++ Text.quoteBytes head.tag)) :: fieldTexts rest
  /-- Methods; their signatures leave out the word `func`. -/
  methodTexts : List (MethodHead × Ty) → List String
    | [] => []
    | (head, func _ params results variadic) :: rest =>
      (head.name ++ paramsText (paramTexts variadic params) ++
        resultsText (paramTexts false results)) :: methodTexts rest
    | (head, t) :: rest => (head.name ++ t.text q) :: methodTexts rest
  termTexts : List (Bool × Ty) → List String
    | [] => []
    | (tilde, t) :: rest => ((if tilde then "~" else "") ++ t.text q) :: termTexts rest

end Ty

end TaggedUnion.Types
