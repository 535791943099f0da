import TaggedUnion.Diagnostic
import TaggedUnion.Layout.Expr
import TaggedUnion.Union.Variant

/-!
# Faults

What can be wrong with the unions of a package. A fault holds what its message mentions; the message is
written with the names that packages have at the time and with places as they are shown to the user.
-/

namespace TaggedUnion

open Source TaggedUnion.Types Syntax

/-- Something that keeps conversions from being derived. -/
inductive Fault
  /-- A directive belongs to no type declaration. -/
  | misplaced
  /-- The declaration is an alias. -/
  | aliased (union : String)
  /-- Nothing is known about the declaration. -/
  | unknownType (union : String)
  /-- The type is not written as a struct. -/
  | notStruct (union : String) (type : Expr)
  /-- There is another tag field. -/
  | tagRedeclared (union field : String) (previous : Pos)
  /-- The tag field holds no string. -/
  | tagNotString (union field : String) (type : Ty)
  /-- There is no tag field. -/
  | noTag (union : String)
  /-- There is nothing but the tag field. -/
  | noVariants (union : String)
  /-- The variant has an unknown option. -/
  | unknownOption (union variant : String) (option : Text.Bytes)
  /-- The variant carries nothing. -/
  | unitVariant (union variant : String)
  /-- The variant carries several values. -/
  | multiField (union variant : String) (count : Nat)
  /-- An earlier variant carries the same type. -/
  | samePayload (union earlier variant : String) (payload : Ty) (previous : Pos)
  /-- The name of a conversion is declared already. -/
  | nameTaken (union variant name : String) (previous : Pos)

/-- What the messages of faults depend on apart from the faults. -/
structure Wording where
  workingDir : String
  files : FileSet
  qualifier : Qualifier

namespace Fault

/-- What sort of fault it is. -/
def kind : Fault → Kind
  | misplaced => .misplacedDirective
  | aliased _ | unknownType _ | notStruct _ _ | tagRedeclared _ _ _ | tagNotString _ _ _ | noTag _
  | noVariants _ => .notUnion
  | unknownOption _ _ _ => .unknownOption
  | unitVariant _ _ => .unitVariant
  | multiField _ _ _ => .multiField
  | samePayload _ _ _ _ _ | nameTaken _ _ _ _ => .conflict

/-- The second line of messages about something that is declared twice. -/
def previously (w : Wording) (previous : Pos) : String :=
  "\n\tprevious declaration at " ++ (w.files.position previous).text w.workingDir

/-- The start of messages about declarations that are no tagged unions. -/
def notUnion (union reason : String) : String :=
  union ++ " is not a tagged union: " ++ reason

/-- The message of a fault. -/
def message (w : Wording) : Fault → String
  | misplaced =>
    "misplaced " ++ directiveText ++ "; it must be in the doc comment of a type declaration"
  | aliased union => notUnion union "cannot derive conversions for an alias"
  | unknownType union => notUnion union "no type information"
  | notStruct union type =>
    notUnion union ("want struct type, have " ++ Layout.exprText w.files type)
  | tagRedeclared union field previous =>
    notUnion union ("tag field " ++ field ++ " redeclared" ++ previously w previous)
  | tagNotString union field type =>
    notUnion union ("tag field " ++ field ++ " must be a string, have " ++ type.text w.qualifier)
  | noTag union =>
    notUnion union ("no field is tagged " ++ optionKey ++ ":" ++ Text.quote tagOption)
  | noVariants union => notUnion union "no variants"
  | unknownOption union variant option =>
    "unknown " ++ optionKey ++ " option " ++ Text.quoteBytes option ++ " on " ++ union ++ "." ++ variant ++
      "; only " ++ Text.quote ignoreOption ++ " is supported"
  | unitVariant union variant =>
    "unit variant " ++ union ++ "." ++ variant ++
      " has no data to convert to or from; try tagging it with " ++ optionKey ++ ":" ++
      Text.quote ignoreOption
  | multiField union variant count =>
    "only variants with one field are supported; " ++ union ++ "." ++ variant ++ " has " ++
      toString count ++ " fields"
  | samePayload union earlier variant payload previous =>
    union ++ "." ++ earlier ++ " and " ++ union ++ "." ++ variant ++ " both carry " ++
      payload.text w.qualifier ++ "; conversions would conflict" ++ previously w previous
  | nameTaken union variant name previous =>
    "conversion " ++ name ++ " for " ++ union ++ "." ++ variant ++ " is already declared" ++
      previously w previous

end Fault

/-- A fault with the place it is found at. -/
structure Finding where
  fault : Fault
  pos : Pos
  /-- Where the faulty text ends, or 0 if only its start is known. -/
  stop : Pos := 0

/-- The diagnostic that reports a finding. -/
def Finding.diagnostic (w : Wording) (f : Finding) : Diagnostic :=
  { message := f.fault.message w
    kind := some f.fault.kind
    pos := f.pos
    stop := f.stop
    files := some w.files }

namespace Subject

/-- How messages about a package are worded, given the current names of packages. -/
def wording (s : Subject) (workingDir : String) (nameOf : String → String) : Wording :=
  { workingDir, files := s.files, qualifier := s.qualifier nameOf }

/-- The findings about misplaced directives. -/
def misplacedFindings (s : Subject) : List Finding :=
  s.misplaced.map fun c => ⟨.misplaced, c.pos, c.stop⟩

end Subject

end TaggedUnion
