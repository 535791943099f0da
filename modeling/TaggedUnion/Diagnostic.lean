import TaggedUnion.Source.Position

/-!
# Diagnostics

A diagnostic says what is wrong at which place of the source. Its *kind* classifies it without being
part of its text.

Errors form trees: plain errors, diagnostics, errors wrapped in a message, and errors joined into
one. A tree's leaves are the errors that are not joined.
-/

namespace TaggedUnion

open Source

/-- What sort of problem a diagnostic reports. -/
inductive Kind
  /-- A type that asks for conversions is not a tagged union. -/
  | notUnion
  /-- A variant without fields is not skipped. -/
  | unitVariant
  /-- A variant with two or more fields is not skipped. -/
  | multiField
  /-- A variant has an unknown option. -/
  | unknownOption
  /-- A conversion would be declared twice. -/
  | conflict
  /-- The derive directive stands where it has no effect. -/
  | misplacedDirective
  /-- A kind given by its text. -/
  | other (text : String)
deriving Repr, DecidableEq

/-- The text of a kind. -/
def Kind.text : Kind → String
  | notUnion => "not a tagged union"
  | unitVariant => "unit variant"
  | multiField => "multi-field variant"
  | unknownOption => "unknown option"
  | conflict => "conflicting conversion"
  | misplacedDirective => "misplaced directive"
  | other text => text

/-- What is wrong, and where. -/
structure Diagnostic where
  message : String := ""
  kind : Option Kind := none
  /-- The place, or 0 if there is none. -/
  pos : Pos := 0
  /-- Where the faulty text ends, or 0 if only its start is known. -/
  stop : Pos := 0
  /-- The file set that resolves the places, if there is one. -/
  files : Option FileSet := none
deriving Repr, DecidableEq

namespace Diagnostic

/-- The resolved place; invalid without a place or a file set. -/
def position (d : Diagnostic) : Position :=
  match d.files with
  | none => {}
  | some files => files.position d.pos

/-- The message, after the place if there is one. -/
def text (workingDir : String) (d : Diagnostic) : String :=
  if d.pos = 0 || d.files.isNone then d.message
  else d.position.text workingDir ++ ": " ++ d.message

end Diagnostic

/-- An error, as a tree of wrapped and joined errors. -/
inductive ErrorTree
  /-- An error with nothing but a text. -/
  | plain (text : String)
  /-- A diagnostic. -/
  | located (d : Diagnostic)
  /-- An error with a message in front of it. -/
  | wrapped (context : String) (inner : ErrorTree)
  /-- Several errors reported as one. -/
  | joined (members : List ErrorTree)

namespace ErrorTree

/-- The text of an error; joined errors stand on lines of their own. -/
def text (workingDir : String) : ErrorTree → String
  | plain text => text
  | located d => d.text workingDir
  | wrapped context inner => context ++ ": " ++ inner.text workingDir
  | joined members => "\n".intercalate (texts members)
where
  /-- The texts of several errors. -/
  texts : List ErrorTree → List String
    | [] => []
    | e :: rest => e.text workingDir :: texts rest

/-- The first diagnostic of a tree, in pre-order. -/
def diagnostic? : ErrorTree → Option Diagnostic
  | plain _ => none
  | located d => some d
  | wrapped _ inner => inner.diagnostic?
  | joined members => first? members
where
  /-- The first diagnostic of several trees. -/
  first? : List ErrorTree → Option Diagnostic
    | [] => none
    | e :: rest => e.diagnostic?.or (first? rest)

/-- Whether the tree has a diagnostic of the given kind. -/
def isKind (kind : Kind) : ErrorTree → Bool
  | plain _ => false
  | located d => d.kind == some kind
  | wrapped _ inner => inner.isKind kind
  | joined members => anyKind members
where
  /-- Whether one of several trees has a diagnostic of the given kind. -/
  anyKind : List ErrorTree → Bool
    | [] => false
    | e :: rest => e.isKind kind || anyKind rest

/-- Joins the errors that are there; no error at all joins to none. -/
def join? (members : List (Option ErrorTree)) : Option ErrorTree :=
  match members.filterMap id with
  | [] => none
  | es => some (joined es)

/-- Puts a message in front of an error; a missing error shows as a hole. -/
def wrap (context : String) : Option ErrorTree → ErrorTree
  | some e => wrapped context e
  | none => plain (context ++ ": %!w(<nil>)")

/-- The errors that are not joined, from left to right. -/
def leaves : ErrorTree → List ErrorTree
  | plain text => [plain text]
  | located d => [located d]
  | wrapped context inner => [wrapped context inner]
  | joined members => allLeaves members
where
  /-- The leaves of several trees. -/
  allLeaves : List ErrorTree → List ErrorTree
    | [] => []
    | e :: rest => e.leaves ++ allLeaves rest

end ErrorTree

end TaggedUnion
