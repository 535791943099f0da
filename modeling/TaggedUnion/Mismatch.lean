/-!
# Mismatches

An unwrap function that is handed a union holding another variant fails with a *mismatch*, which
carries the union unchanged, so that the caller can try another conversion. Errors form trees:
a mismatch may be wrapped by further messages and joined with other errors on its way up, and
`carried?` finds the union again.

The type of a union is identified by its name. A search walks the tree in pre-order.
-/

namespace TaggedUnion

/-- An unwrap function met a union that holds another variant than the wanted one. -/
structure Mismatch (V : Type) where
  /-- The name of the union's type. -/
  type : String
  /-- The union given to the conversion. -/
  value : V
  /-- The variant held by the union, empty if it holds none. -/
  tag : String
  /-- The variant the conversion wanted. -/
  want : String

/-- The text of a mismatch. -/
def Mismatch.message {V : Type} (m : Mismatch V) : String :=
  m.type ++ " holds " ++ (if m.tag == "" then "no variant" else m.tag) ++ ", want " ++ m.want

/-- An error, as a tree of wrapped and joined errors. -/
inductive Failure (V : Type)
  /-- An error with nothing but a text. -/
  | plain (text : String)
  /-- The error that stands for mismatches in general. -/
  | anyMismatch
  /-- A failed conversion. -/
  | mismatch (m : Mismatch V)
  /-- An error with a message in front of it. -/
  | wrapped (context : String) (inner : Failure V)
  /-- Several errors reported as one. -/
  | joined (members : List (Failure V))

namespace Failure

variable {V : Type}

/-- The text of an error; joined errors stand on lines of their own. -/
def message : Failure V → String
  | plain text => text
  | anyMismatch => "variant mismatch"
  | mismatch m => m.message
  | wrapped context inner => context ++ ": " ++ inner.message
  | joined members => "\n".intercalate (messages members)
where
  /-- The texts of several errors. -/
  messages : List (Failure V) → List String
    | [] => []
    | e :: rest => e.message :: messages rest

/-- The mismatches of a tree, in pre-order. -/
def mismatches : Failure V → List (Mismatch V)
  | plain _ => []
  | anyMismatch => []
  | mismatch m => [m]
  | wrapped _ inner => inner.mismatches
  | joined members => all members
where
  /-- The mismatches of several trees. -/
  all : List (Failure V) → List (Mismatch V)
    | [] => []
    | e :: rest => e.mismatches ++ all rest

/-- The union carried by the first mismatch of the given union type. -/
def carried? (type : String) : Failure V → Option V
  | plain _ => none
  | anyMismatch => none
  | mismatch m => if m.type == type then some m.value else none
  | wrapped _ inner => inner.carried? type
  | joined members => first members
where
  /-- The union found in the first tree that has one. -/
  first : List (Failure V) → Option V
    | [] => none
    | e :: rest => (e.carried? type).or (first rest)

/-- Whether the tree has a mismatch of any union type, or stands for mismatches in general. -/
def isMismatch : Failure V → Bool
  | plain _ => false
  | anyMismatch => true
  | mismatch _ => true
  | wrapped _ inner => inner.isMismatch
  | joined members => anyOf members
where
  /-- Whether one of several trees has a mismatch. -/
  anyOf : List (Failure V) → Bool
    | [] => false
    | e :: rest => e.isMismatch || anyOf rest

/-- What stands in a message in place of an error that is not there. -/
def missingText : String := "%!w(<nil>)"

/-- Puts a message in front of an error; that there is none shows in the text. -/
def wrap (context : String) (inner : Option (Failure V)) : Failure V :=
  wrapped context (inner.getD (plain missingText))

/-- Wraps an error, or the lack of one, a number of times. -/
def wrapTimes (context : String) : Nat → Option (Failure V) → Option (Failure V)
  | 0, e => e
  | n + 1, e => some (wrap context (wrapTimes context n e))

end Failure

/-! ## Applying conversions -/

/-- Converts a payload into its union with a wrap function. -/
def widen {U P : Type} (payload : P) (wrap : P → U) : U :=
  wrap payload

/-- Extracts a payload from its union with an unwrap function. -/
def narrow {V U P : Type} (union : U) (unwrap : U → Except (Failure V) P) : Except (Failure V) P :=
  unwrap union

end TaggedUnion
