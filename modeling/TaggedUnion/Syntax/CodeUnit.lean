import TaggedUnion.Syntax.Parser

/-!
# Units of code

A *unit* is a whole file that declares nothing but functions, together with the statements these consist
of.
-/

namespace TaggedUnion.Syntax

open Source

/-- A function declaration with its body. -/
structure Definition where
  pos : Pos
  /-- Whether there is a doc comment. -/
  documented : Bool
  name : Ident
  /-- The type parameters and their brackets, if there are any. -/
  params : Option (List (GroupHead × Expr) × Pos × Pos)
  /-- The parameters and results, as a function type without the keyword. -/
  type : Expr
  lbrace : Pos
  body : List Statement
  rbrace : Pos

/-- The imports of a unit, with the places of their start and end. -/
structure ImportGroup where
  pos : Pos
  lparen : Pos
  specs : List ImportSpec
  rparen : Pos

/-- A file that declares nothing but functions. -/
structure CodeUnit where
  clause : Pos
  package : Ident
  imports : Option ImportGroup
  definitions : List Definition
  comments : List (List Comment)

namespace Parser

/-- Reads a function declaration with its body. -/
def definition (n : Nat) : Parser Definition := do
  let doc ← lead
  let pos ← expect "func"
  let name ← ident
  let params ← if ← at? "[" then some <$> typeParamList n else pure none
  let type ← signature n 0
  let lbrace ← expect "\x7b"
  let body ← statements n
  let rbrace ← expect "\x7d"
  semicolon
  return { pos, documented := doc.isSome, name, params, type, lbrace, body, rbrace }

/-- Reads function declarations, up to the end of the file. -/
def definitions : Nat → Parser (List Definition)
  | 0 => failure
  | n + 1 => do
    if (← peek).kind == .eof then return []
    let d ← definition n
    return d :: (← definitions n)

/-- Reads imports in brackets, up to the closing one. -/
def groupedImports : Nat → Parser (List ImportSpec)
  | 0 => failure
  | n + 1 => do
    if ← at? ")" then return []
    let spec ← importSpec
    return spec :: (← groupedImports n)

/-- Reads the imports of a unit, if there are any. -/
def importGroup (n : Nat) : Parser (Option ImportGroup) := do
  if ← at? "import" then
    let pos ← expect "import"
    let lparen ← expect "("
    let specs ← groupedImports n
    let rparen ← expect ")"
    semicolon
    return some { pos, lparen, specs, rparen }
  return none

/-- Reads a unit. -/
def codeUnit (n : Nat) (comments : List (List Comment)) : Parser CodeUnit := do
  let clause ← expect "package"
  let package ← ident
  semicolon
  let imports ← importGroup n
  let definitions ← definitions n
  return { clause, package, imports, definitions, comments }

end Parser

/-- Reads a file that declares nothing but functions. -/
def parseUnit? (text : String) : Option (FileSet × CodeUnit) := do
  let (info, tokens) ← scan? {} "" text
  let (led, comments) := groupComments info tokens
  let (unit, _) ← (Parser.codeUnit (parserDepth tokens) comments).run led
  return (FileSet.add {} info, unit)

end TaggedUnion.Syntax
