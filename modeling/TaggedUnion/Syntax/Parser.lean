import TaggedUnion.Syntax.Grammar

/-!
# Parsing

Reads the declarations of a file from its tokens. The bodies of declared functions are skipped by
matching braces. The depth of the parsers is bounded by the number of tokens.
-/

namespace TaggedUnion.Syntax

open Source TaggedUnion.Types

namespace Parser

/-- Reads type parameters with their brackets, and returns where these are. -/
def typeParamList (n : Nat) : Parser (List (GroupHead × Expr) × Pos × Pos) := do
  let lbrack ← expect "["
  let groups ← groupParams.go [] (← typeParamEntries n)
  guard (!groups.isEmpty)
  return (groups, lbrack, ← expect "]")

/-- Reads type parameters. -/
def typeParams (n : Nat) : Parser (List (GroupHead × Expr)) :=
  (·.1) <$> typeParamList n

/-- Reads a type declaration without the keyword. -/
def typeSpec (n : Nat) (doc : Option (List Comment)) : Parser TypeSpec := do
  let name ← ident
  let (params, assign, type) ← typeRest n
  semicolon
  return { name, doc, params, assign, type }

/-- Reads declared variables or constants without the keyword. -/
def valueSpec (n index : Nat) : Parser ValueSpec := do
  let names ← identList n
  let t ← peek
  let type ← if t.is "=" || t.isSemicolon || t.is ")" then pure none else some <$> typeExpr n
  let values ← if ← accept "=" then exprs n true else pure []
  semicolon
  return { names, type, values, index }

/-- Reads a function or method without the keyword. -/
def funcSpec (n : Nat) (pos : Pos) : Parser FuncSpec := do
  let receiver ← if ← at? "(" then do
      let (groups, _, _) ← paramList n
      match groups with
      | [g] => pure (some g)
      | _ => failure
    else pure none
  let name ← ident
  let params ← if ← at? "[" then typeParams n else pure []
  let type ← signature n pos
  let hasBody ← accept "\x7b"
  if hasBody then
    let _ ← closingBrace
  semicolon
  return { name, receiver, params, type, hasBody }

/-- Characters that import paths must not have, besides blanks and what cannot be shown. -/
def illegalInPaths : List Char :=
  "!\"#$%&'()*,:;<=>?[\\]^\x7b|\x7d`\ufffd".toList

/-- Whether a text can be an import path. -/
def isImportPath (path : String) : Bool :=
  path != "" && path.toList.all fun c =>
    Text.isPrintable c && c != ' ' && !illegalInPaths.contains c

/-- Reads an import without the keyword. -/
def importSpec : Parser ImportSpec := do
  let t ← peek
  let name ← if t.kind == .ident then some <$> ident
    else if t.is "." then do
      let _ ← next
      pure (some { pos := t.pos, name := "." })
    else pure none
  let literal ← next
  guard (literal.kind == .string)
  let path ← Text.unquote? literal.text
  guard (isImportPath path.text)
  semicolon
  return { pos := t.pos, name, literal := literal.text, path := path.text }

/-- Reads the specifications of a declaration: one, or a group in brackets. The parser of a
specification is given the comments that lead to it and its number in the group. -/
def specs {α : Type} (n : Nat) (spec : Option (List Comment) → Nat → Parser α) :
    Parser (List α) := do
  if ← accept "(" then
    let found ← many n 0
    let _ ← expect ")"
    semicolon
    return found
  return [← spec none 0]
where
  many : Nat → Nat → Parser (List α)
    | 0, _ => failure
    | fuel + 1, i => do
      match ← get with
      | [] => failure
      | t :: _ =>
        if t.token.is ")" then return []
        let x ← spec t.lead i
        return x :: (← many fuel (i + 1))

/-- Reads the imports of a file. -/
def imports : Nat → Parser (List ImportSpec)
  | 0 => failure
  | n + 1 => do
    if ← accept "import" then
      let group ← specs n fun _ _ => importSpec
      return group ++ (← imports n)
    return []

/-- Reads the declarations of a file, up to its end. -/
def decls : Nat → Parser (List Decl)
  | 0 => failure
  | n + 1 => do
    match ← get with
    | [] => failure
    | t :: rest =>
      if t.token.kind == .eof then return []
      set rest
      let decl ← match t.token.text with
        | "type" => Decl.types t.lead <$> specs n fun doc _ => typeSpec n doc
        | "var" => Decl.vars <$> specs n fun _ i => valueSpec n i
        | "const" => Decl.consts <$> specs n fun _ i => valueSpec n i
        | "func" => Decl.func <$> funcSpec n t.token.pos
        | _ => failure
      guard (t.token.kind == .keyword)
      return decl :: (← decls n)

/-- Reads a file. -/
def file (n : Nat) (name : String) (comments : List (List Comment)) : Parser File := do
  let clause ← expect "package"
  let package ← ident
  guard (package.name != "_")
  semicolon
  let imports ← imports n
  let decls ← decls n
  return { name, clause, package := package.name, imports, decls, comments }

end Parser

/-- The names among tokens. -/
def wordsOf (tokens : List Token) : List String :=
  tokens.filterMap fun t => if t.kind == .ident then some t.text else none

/-- The names among tokens that something is selected from. -/
def qualifiersOf : List Token → List String
  | t :: dot :: rest =>
    if t.kind == .ident && dot.is "." then t.text :: qualifiersOf (dot :: rest)
    else qualifiersOf (dot :: rest)
  | _ => []

/-- More than the depth to which parsers call each other on tokens. -/
def parserDepth (tokens : List Token) : Nat :=
  8 * tokens.length + 32

/-- Reads a source file into a file set. -/
def parseFile? (files : FileSet) (name text : String) : Option (FileSet × File) := do
  let (info, tokens) ← scan? files name text
  let (led, comments) := groupComments info tokens
  let (file, _) ← (Parser.file (parserDepth tokens) name comments).run led
  let code := led.map (·.token)
  return (files.add info, { file with words := wordsOf code, qualifiers := qualifiersOf code })

end TaggedUnion.Syntax
