import TaggedUnion.Types.Type

/-!
# Basic types

What sort of values the basic types have, given by name. The types of untyped constants are basic types
as well; numbers among them are ordered by generality.
-/

namespace TaggedUnion.Types

/-- Integer types that have a sign, with their numbers of bits. -/
def signedBits : List (String × Nat) :=
  [("int", 64), ("int8", 8), ("int16", 16), ("int32", 32), ("int64", 64), ("rune", 32)]

/-- Integer types without a sign, with their numbers of bits. -/
def unsignedBits : List (String × Nat) :=
  [("uint", 64), ("uint8", 8), ("uint16", 16), ("uint32", 32), ("uint64", 64), ("uintptr", 64),
   ("byte", 8)]

/-- Types of untyped numbers, from special to general. -/
def untypedNumbers : List String :=
  ["untyped int", "untyped rune", "untyped float", "untyped complex"]

def isUnsignedName (name : String) : Bool :=
  (unsignedBits.lookup name).isSome

def isIntegerName (name : String) : Bool :=
  (signedBits.lookup name).isSome || isUnsignedName name ||
    name == "untyped int" || name == "untyped rune"

def isFloatName (name : String) : Bool :=
  ["float32", "float64", "untyped float"].contains name

def isComplexName (name : String) : Bool :=
  ["complex64", "complex128", "untyped complex"].contains name

def isNumericName (name : String) : Bool :=
  isIntegerName name || isFloatName name || isComplexName name

def isStringName (name : String) : Bool :=
  name == "string" || name == "untyped string"

def isBooleanName (name : String) : Bool :=
  name == "bool" || name == "untyped bool"

def isUntypedName (name : String) : Bool :=
  name.startsWith "untyped "

namespace Ty

/-- The type of the untyped zero value of pointers. -/
def untypedNil : Ty := basic "untyped nil"

/-- The type of untyped truth values. -/
def untypedBool : Ty := basic "untyped bool"

/-- Whether a type is that of untyped constants. -/
def isUntyped : Ty → Bool
  | basic name => isUntypedName name
  | _ => false

/-- The type that a variable takes from an untyped value. -/
def default : Ty → Ty
  | basic "untyped int" => basic "int"
  | basic "untyped float" => basic "float64"
  | basic "untyped complex" => basic "complex128"
  | basic "untyped rune" => basic "rune"
  | basic "untyped string" => basic "string"
  | basic "untyped bool" => basic "bool"
  | t => t

/-- The more general of two types of untyped numbers. -/
def moreGeneral (a b : String) : String :=
  if untypedNumbers.idxOf a < untypedNumbers.idxOf b then b else a

end Ty

end TaggedUnion.Types
