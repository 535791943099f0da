import TaggedUnion.Syntax.File

/-!
# Cursors

A parser consumes tokens from the front of a list or fails. Here are the parsers of single tokens, and
what can be told from tokens and expressions that have been read.
-/

namespace TaggedUnion.Syntax

open Source TaggedUnion.Types

/-- Reads something from the front of a list of tokens. -/
abbrev Parser := StateT (List LedToken) Option

namespace Parser

/-- The next token, which stays. -/
def peek : Parser Token := do
  match ← get with
  | [] => failure
  | t :: _ => return t.token

/-- The next token. -/
def next : Parser Token := do
  match ← get with
  | [] => failure
  | t :: rest => set rest; return t.token

/-- Whether the next token is the given symbol or keyword. -/
def at? (text : String) : Parser Bool :=
  return (← peek).is text

/-- Reads the given symbol or keyword. -/
def expect (text : String) : Parser Pos := do
  let t ← next
  guard (t.is text)
  return t.pos

/-- Reads the given symbol or keyword if it comes next. -/
def accept (text : String) : Parser Bool := do
  if ← at? text then
    let _ ← next
    return true
  else return false

/-- Reads an identifier. -/
def ident : Parser Ident := do
  let t ← next
  guard (t.kind == .ident)
  return { pos := t.pos, name := t.text }

/-- The comments that end the line before the next token. -/
def trail : Parser (Option (List Comment)) := do
  match ← get with
  | [] => failure
  | t :: _ => return t.trail

/-- The comments that lead to the next token. -/
def lead : Parser (Option (List Comment)) := do
  match ← get with
  | [] => failure
  | t :: _ => return t.lead

/-- Reads the end of a declaration: a semicolon, or nothing before a closing bracket. Returns the
comments at the end of the line, which stand before a line end and after a written semicolon. -/
def ending : Parser (Option (List Comment)) := do
  let t ← peek
  if t.is ")" || t.is "\x7d" then return none
  guard t.isSemicolon
  if t.kind == .lineEnd then
    let comment ← trail
    let _ ← next
    return comment
  let _ ← next
  trail

/-- Reads the end of a declaration. -/
def semicolon : Parser Unit := do
  let _ ← ending

/-- The binding strength of a binary operator. -/
def precedence (op : String) : Nat :=
  if op == "||" then 1
  else if op == "&&" then 2
  else if ["==", "!=", "<", "<=", ">", ">="].contains op then 3
  else if ["+", "-", "|", "^"].contains op then 4
  else if ["*", "/", "%", "<<", ">>", "&", "&^"].contains op then 5
  else 0

/-- The symbols between the two sides of an assignment. -/
def assignments : List String :=
  ["=", ":=", "+=", "-=", "*=", "/=", "%=", "&=", "|=", "^=", "<<=", ">>=", "&^="]

/-- Puts the names of a parameter list together with the types that follow them. An entry with a
type but no name counts as unnamed; if any entry has both, all names without a type take the type of
the next entry that has one. -/
def groupParams (entries : List (Option Ident × Option Expr)) :
    Option (List (GroupHead × Expr)) :=
  if entries.any fun (name, type) => name.isSome && type.isSome then go [] entries
  else entries.mapM fun (name, type) =>
    match type, name with
    | some t, _ => some ({}, t)
    | none, some id => some ({}, .ident id)
    | none, none => none
where
  go (names : List Ident) : List (Option Ident × Option Expr) → Option (List (GroupHead × Expr))
    | [] => if names.isEmpty then some [] else none
    | (some id, none) :: rest => go (names ++ [id]) rest
    | (some id, some t) :: rest =>
      (go [] rest).map (({ names := names ++ [id] }, t) :: ·)
    | (none, _) :: _ => none

/-- Splits tokens after the brace that closes as many braces as are open, and returns where it is. -/
def skipBraces : Nat → List LedToken → Option (Pos × List LedToken)
  | _, [] => none
  | depth, t :: rest =>
    if t.token.is "\x7b" then skipBraces (depth + 1) rest
    else if t.token.is "\x7d" then
      if depth ≤ 1 then some (t.token.pos, rest) else skipBraces (depth - 1) rest
    else if t.token.kind == .eof then none
    else skipBraces depth rest

/-- Skips everything up to the brace that closes an open one. -/
def closingBrace : Parser Pos := do
  let (pos, rest) ← skipBraces 1 (← get)
  set rest
  return pos

/-- Whether a brace after an expression opens elements of the type it denotes. After a mere name it
does so only if `braces` holds. -/
def hasElements (braces : Bool) : Expr → Bool
  | .ident _ | .selector _ _ | .index _ _ _ _ => braces
  | .slice _ _ | .array _ _ _ | .map _ _ _ | .struct _ _ _ _ => true
  | _ => false

/-- Whether an expression can only be a type, or alternatives of types. -/
def isTypeElem : Expr → Bool
  | .slice _ _ | .array _ _ _ | .struct _ _ _ _ | .func _ _ _ _ _ _ _ | .interface _ _ _ _
  | .map _ _ _ | .chan _ _ _ _ => true
  | .binary x _ _ y => isTypeElem x || isTypeElem y
  | .unary _ op _ => op == "~"
  | .paren _ x _ => isTypeElem x
  | _ => false

/-- Splits an expression into a name and the type after it, if it can be read like that: `P *T` looks
like a product and `P (T)` like a call. If it may as well be a value, it is split only if `force`
holds. A mere name has no type after it. -/
def splitParam? (force : Bool) : Expr → Option (Ident × Option Expr)
  | .ident id => some (id, none)
  | .binary (.ident id) opPos "*" y =>
    if force || isTypeElem y then some (id, some (.star opPos y)) else none
  | .binary x opPos "|" y =>
    match splitParam? (force || isTypeElem y) x with
    | some (id, some type) => some (id, some (.binary type opPos "|" y))
    | _ => none
  | .call (.ident id) lparen [x] 0 rparen =>
    if force || isTypeElem x then some (id, some (.paren lparen x rparen)) else none
  | _ => none

end Parser

end TaggedUnion.Syntax
