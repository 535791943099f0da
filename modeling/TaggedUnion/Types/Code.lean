import TaggedUnion.Types.Type

/-!
# Types as numbers

A type is written as a list of numbers, its *code*, from which it can be read back. The order of codes is a total order
of types, which does not depend on how types are shown: types that are shown alike may be different.
-/

namespace TaggedUnion.Types

open Source

/-- The code of a text: its length and its characters. -/
def textCode (s : String) : List Nat :=
  s.length :: s.toList.map Char.toNat

/-- The code of the bytes of a struct tag. -/
def bytesCode (bytes : Text.Bytes) : List Nat :=
  bytes.length :: bytes.map UInt8.toNat

def TypeName.code (name : TypeName) : List Nat :=
  textCode name.home ++ textCode name.name ++ [name.pos]

def FieldHead.code (head : FieldHead) : List Nat :=
  textCode head.name ++ textCode head.home ++ [head.embedded.toNat] ++ bytesCode head.tag ++ [head.pos]

def MethodHead.code (head : MethodHead) : List Nat :=
  textCode head.name ++ textCode head.home

def Direction.code : Direction → Nat
  | both => 0
  | send => 1
  | receive => 2

/-- The code of the parameters of a group: a mark before each, and one at the end. -/
def paramsCode : List ParamDecl → List Nat
  | [] => [0]
  | p :: rest => 1 :: textCode p.name ++ p.pos :: paramsCode rest

/-- The code of a type. It starts with a number for the sort of the type; in a list there is a mark before each part,
and one at the end. -/
def Ty.code : Ty → List Nat
  | basic name => 0 :: textCode name
  | pointer elem => 1 :: elem.code
  | slice elem => 2 :: elem.code
  | array length elem => 3 :: length :: elem.code
  | map key elem => 4 :: key.code ++ elem.code
  | chan direction elem => 5 :: direction.code :: elem.code
  | func generics params results variadic =>
    6 :: variadic.toNat :: codeGroups generics ++ codeParams params ++ codeParams results
  | struct fields => 7 :: codeFields fields
  | interface methods embedded implicit => 8 :: implicit.toNat :: codeMethods methods ++ codeAll embedded
  | union terms => 9 :: codeTerms terms
  | named name generics args => 10 :: name.code ++ codeGroups generics ++ codeAll args
  | synonym name generics args target => 11 :: name.code ++ codeGroups generics ++ codeAll args ++ target.code
  | param name pos => 12 :: pos :: textCode name
where
  codeAll : List Ty → List Nat
    | [] => [0]
    | t :: rest => 1 :: t.code ++ codeAll rest
  codeGroups : List (List ParamDecl × Ty) → List Nat
    | [] => [0]
    | (params, t) :: rest => 1 :: paramsCode params ++ t.code ++ codeGroups rest
  codeParams : List (String × Ty) → List Nat
    | [] => [0]
    | (name, t) :: rest => 1 :: textCode name ++ t.code ++ codeParams rest
  codeFields : List (FieldHead × Ty) → List Nat
    | [] => [0]
    | (head, t) :: rest => 1 :: head.code ++ t.code ++ codeFields rest
  codeMethods : List (MethodHead × Ty) → List Nat
    | [] => [0]
    | (head, t) :: rest => 1 :: head.code ++ t.code ++ codeMethods rest
  codeTerms : List (Bool × Ty) → List Nat
    | [] => [0]
    | (tilde, t) :: rest => 1 :: tilde.toNat :: t.code ++ codeTerms rest

/-- The order of codes: the first number that is different decides. -/
def codeLe : List Nat → List Nat → Bool
  | [], _ => true
  | _ :: _, [] => false
  | a :: as, b :: bs => a < b || (a == b && codeLe as bs)

end TaggedUnion.Types
