import TaggedUnion.Types.Type

/-!
# Predeclared names

The names that every file knows without declaring or importing them, and the types among them.
-/

namespace TaggedUnion.Types

/-- The predeclared basic types. -/
def basicTypes : List String :=
  ["bool", "string", "int", "int8", "int16", "int32", "int64", "uint", "uint8", "uint16", "uint32",
   "uint64", "uintptr", "byte", "rune", "float32", "float64", "complex64", "complex128"]

/-- The predeclared functions. -/
def builtinNames : List String :=
  ["append", "cap", "clear", "close", "complex", "copy", "delete", "imag", "len", "make", "max", "min",
   "new", "panic", "print", "println", "real", "recover"]

/-- The predeclared constants and the zero value of pointers. -/
def constantNames : List String := ["true", "false", "iota", "nil"]

/-- All predeclared names. -/
def predeclaredNames : List String :=
  basicTypes ++ ["any", "comparable", "error"] ++ constantNames ++ builtinNames

/-- The name of the predeclared error type. -/
def errorTypeName : TypeName := ⟨"", "error", 0⟩

/-- The name of the predeclared constraint of comparable types. -/
def comparableName : TypeName := ⟨"", "comparable", 0⟩

/-- The predeclared constraint of comparable types. -/
def comparableType : Ty := .named comparableName [] []

/-- The predeclared alias of the empty interface. -/
def anyType : Ty := .synonym ⟨"", "any", 0⟩ [] [] .emptyInterface

/-- What the predeclared defined types stand for. -/
def predeclaredTable : TypeTable :=
  [{ name := errorTypeName
     rhs := .interface [(⟨"Error", ""⟩, .func [] [] [("", .basic "string")] false)] [] false },
   { name := comparableName, rhs := .interface [] [comparableType] false }]

/-- The predeclared types by name. -/
def predeclaredType? (name : String) : Option Ty :=
  if basicTypes.contains name then some (.basic name)
  else if name == "error" then some (.named errorTypeName [] [])
  else if name == "comparable" then some comparableType
  else if name == "any" then some anyType
  else none

end TaggedUnion.Types
