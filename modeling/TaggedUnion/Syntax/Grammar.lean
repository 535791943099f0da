import TaggedUnion.Syntax.Cursor

/-!
# Grammar

Reads types, values and statements from tokens. Types and values share one grammar, because only name
resolution can tell a type from a value that is written in the same way; where the grammar asks for a
type, no operators are read.

The parsers call each other, and each call is bounded by a depth.
-/

namespace TaggedUnion.Syntax

open Source TaggedUnion.Types

namespace Parser

mutual

/-- Reads a type. -/
def typeExpr : Nat → Parser Expr
  | 0 => failure
  | n + 1 => do
    let t ← peek
    if t.kind == .ident then
      let x ← typeName
      if ← at? "[" then typeArgs n x else return x
    else
      guard (t.kind == .symbol || t.kind == .keyword)
      let _ ← next
      match t.text with
      | "[" => arrayType n t.pos
      | "*" => return .star t.pos (← typeExpr n)
      | "(" =>
        let x ← typeExpr n
        return .paren t.pos x (← expect ")")
      | "map" =>
        let _ ← expect "["
        let key ← typeExpr n
        let _ ← expect "]"
        return .map t.pos key (← typeExpr n)
      | "chan" =>
        if ← at? "<-" then
          let arrow ← expect "<-"
          return .chan t.pos arrow .send (← typeExpr n)
        return .chan t.pos 0 .both (← typeExpr n)
      | "<-" =>
        let _ ← expect "chan"
        return .chan t.pos t.pos .receive (← typeExpr n)
      | "func" => signature n t.pos
      | "struct" =>
        let lbrace ← expect "\x7b"
        let fields ← structFields n
        return .struct t.pos lbrace fields (← expect "\x7d")
      | "interface" =>
        let lbrace ← expect "\x7b"
        let elems ← interfaceElems n
        return .interface t.pos lbrace elems (← expect "\x7d")
      | _ => failure
termination_by structural n => n

/-- Reads the rest of an array or slice type after its opening bracket. -/
def arrayType : Nat → Pos → Parser Expr
  | 0, _ => failure
  | n + 1, pos => do
    if ← accept "]" then return .slice pos (← typeExpr n)
    let length ← if ← at? "..." then do
        let dots ← expect "..."
        pure (.ellipsis dots (.missing (dots + 3)))
      else binary n true 1
    let _ ← expect "]"
    return .array pos length (← typeExpr n)
termination_by structural n => n

/-- Reads a type name, which may be qualified. -/
def typeName : Parser Expr := do
  let id ← ident
  if ← accept "." then return .selector (.ident id) (← ident)
  return .ident id

/-- Reads the type arguments of a type. -/
def typeArgs : Nat → Expr → Parser Expr
  | 0, _ => failure
  | n + 1, x => do
    let lbrack ← expect "["
    let args ← typeList n
    return .index x lbrack args (← expect "]")
termination_by structural n => n

/-- Reads types separated by commas, up to a closing bracket. -/
def typeList : Nat → Parser (List Expr)
  | 0 => failure
  | n + 1 => do
    let t ← typeExpr n
    if ← accept "," then
      if ← at? "]" then return [t]
      return t :: (← typeList n)
    return [t]
termination_by structural n => n

/-- Reads parameters and results. -/
def signature : Nat → Pos → Parser Expr
  | 0, _ => failure
  | n + 1, pos => do
    let (params, lparen, rparen) ← paramList n
    let t ← peek
    if t.is "(" then
      let (results, lresult, rresult) ← paramList n
      return .func pos params lparen rparen results lresult rresult
    let starts := t.kind == .ident ||
      ["[", "*", "map", "chan", "<-", "func", "struct", "interface"].any t.is
    if starts then return .func pos params lparen rparen [({}, ← typeExpr n)] 0 0
    return .func pos params lparen rparen [] 0 0
termination_by structural n => n

/-- Reads a parameter list with its brackets. -/
def paramList : Nat → Parser (List (GroupHead × Expr) × Pos × Pos)
  | 0 => failure
  | n + 1 => do
    let lparen ← expect "("
    let entries ← params n
    let groups ← groupParams entries
    return (groups, lparen, ← expect ")")
termination_by structural n => n

/-- Reads the entries of a parameter list, up to the closing bracket. -/
def params : Nat → Parser (List (Option Ident × Option Expr))
  | 0 => failure
  | n + 1 => do
    if ← at? ")" then return []
    let entry ← param n
    if ← accept "," then return entry :: (← params n)
    return [entry]
termination_by structural n => n

/-- Reads one entry of a parameter list: a name, a type, or both. -/
def param : Nat → Parser (Option Ident × Option Expr)
  | 0 => failure
  | n + 1 =>
    let ended : Parser Unit := do
      let t ← peek
      guard (t.is "," || t.is ")")
    let named : Parser (Option Ident × Option Expr) := do
      let id ← ident
      if (← at? ",") || (← at? ")") then return (some id, none)
      let type ← paramType n
      ended
      return (some id, some type)
    named <|> do
      let type ← paramType n
      ended
      return (none, some type)
termination_by structural n => n

/-- Reads the type of a parameter, which may be variadic. -/
def paramType : Nat → Parser Expr
  | 0 => failure
  | n + 1 => do
    if ← at? "..." then
      let pos ← expect "..."
      return .ellipsis pos (← typeExpr n)
    typeExpr n
termination_by structural n => n

/-- Reads the fields of a struct, up to the closing brace. -/
def structFields : Nat → Parser (List (GroupHead × Expr))
  | 0 => failure
  | n + 1 => do
    if ← at? "\x7d" then return []
    let doc ← lead
    let (names, type) ← structField n
    let t ← peek
    let tag ← if t.kind == .string then do
        let _ ← next
        pure (some (t.pos, t.text))
      else pure none
    let comment ← ending
    return ({ names, tag, doc, comment }, type) :: (← structFields n)
termination_by structural n => n

/-- Reads the names and the type of a struct field, or an embedded type. -/
def structField : Nat → Parser (List Ident × Expr)
  | 0 => failure
  | n + 1 => do
    if ← at? "*" then
      let star ← expect "*"
      let x ← typeName
      let x ← if ← at? "[" then typeArgs n x else pure x
      return ([], .star star x)
    let named : Parser (List Ident × Expr) := do
      let names ← identList n
      let type ← typeExpr n
      let t ← peek
      guard (t.isSemicolon || t.kind == .string || t.is "\x7d")
      return (names, type)
    named <|> do
      let x ← typeName
      let x ← if ← at? "[" then typeArgs n x else pure x
      return ([], x)
termination_by structural n => n

/-- Reads identifiers separated by commas. -/
def identList : Nat → Parser (List Ident)
  | 0 => failure
  | n + 1 => do
    let id ← ident
    if ← accept "," then return id :: (← identList n)
    return [id]
termination_by structural n => n

/-- Reads the elements of an interface, up to the closing brace. Only those that start with a name
have a doc comment. -/
def interfaceElems : Nat → Parser (List (GroupHead × Expr))
  | 0 => failure
  | n + 1 => do
    if ← at? "\x7d" then return []
    let doc ← if (← peek).kind == .ident then lead else pure none
    let method : Parser (List Ident × Expr) := do
      let name ← ident
      guard (← at? "(")
      return ([name], ← signature n 0)
    let embedded : Parser (List Ident × Expr) := return ([], ← typeElem n)
    let (names, type) ← method <|> embedded
    let comment ← ending
    return ({ names, doc, comment }, type) :: (← interfaceElems n)
termination_by structural n => n

/-- Reads alternatives of types, each of which may be marked with a tilde. -/
def typeElem : Nat → Parser Expr
  | 0 => failure
  | n + 1 => do
    let first ← typeTerm n
    moreTerms n first
termination_by structural n => n

/-- Reads the alternatives that follow one. -/
def moreTerms : Nat → Expr → Parser Expr
  | 0, _ => failure
  | n + 1, x => do
    if ← at? "|" then
      let opPos ← expect "|"
      let y ← typeTerm n
      moreTerms n (.binary x opPos "|" y)
    else return x
termination_by structural n => n

/-- Reads a type, which may be marked with a tilde. -/
def typeTerm : Nat → Parser Expr
  | 0 => failure
  | n + 1 => do
    if ← at? "~" then
      let pos ← expect "~"
      return .unary pos "~" (← typeExpr n)
    typeExpr n
termination_by structural n => n

/-- Reads a binary expression whose operators bind at least as strongly as `least`. If `braces` holds,
a brace after a type name opens its elements; otherwise it belongs to what comes after the
expression. -/
def binary : Nat → Bool → Nat → Parser Expr
  | 0, _, _ => failure
  | n + 1, braces, least => do
    let x ← unary n braces
    operators n braces least x
termination_by structural n => n

/-- Reads the operators and operands that follow an operand. -/
def operators : Nat → Bool → Nat → Expr → Parser Expr
  | 0, _, _, _ => failure
  | n + 1, braces, least, x => do
    let t ← peek
    let p := if t.kind == .symbol then precedence t.text else 0
    if p == 0 || p < least then return x
    let _ ← next
    let y ← binary n braces (p + 1)
    operators n braces least (.binary x t.pos t.text y)
termination_by structural n => n

/-- Reads an operand with the operators in front of it. An arrow in front of a channel type is part of
that type. -/
def unary : Nat → Bool → Parser Expr
  | 0, _ => failure
  | n + 1, braces => do
    let t ← peek
    if t.kind == .symbol && ["+", "-", "!", "^", "&", "~"].contains t.text then
      let _ ← next
      return .unary t.pos t.text (← unary n braces)
    if t.is "<-" then
      let channel : Parser Expr := do
        let x ← typeExpr n
        primary n braces x
      let receive : Parser Expr := do
        let _ ← next
        return .unary t.pos "<-" (← unary n braces)
      channel <|> receive
    else if t.is "*" then
      let _ ← next
      return .star t.pos (← unary n braces)
    else
      let x ← operand n
      primary n braces x
termination_by structural n => n

/-- Reads an operand. -/
def operand : Nat → Parser Expr
  | 0 => failure
  | n + 1 => do
    let t ← peek
    match t.kind with
    | .ident => return .ident (← ident)
    | .int | .float | .imaginary | .rune | .string =>
      let _ ← next
      return .literal t.pos t.kind t.text
    | _ =>
      if t.is "(" then
        let lparen ← expect "("
        let x ← binary n true 1
        return .paren lparen x (← expect ")")
      let type ← typeExpr n
      if t.is "func" && (← at? "\x7b") then
        let lbrace ← expect "\x7b"
        let body ← statements n
        return .closure type lbrace body (← expect "\x7d")
      return type
termination_by structural n => n

/-- Reads selectors, arguments, indices and elements that follow an operand. -/
def primary : Nat → Bool → Expr → Parser Expr
  | 0, _, _ => failure
  | n + 1, braces, x => do
    let t ← peek
    if t.is "." then
      let _ ← next
      if ← at? "(" then
        let lparen ← expect "("
        let t ← peek
        let type ← if ← accept "type" then pure (.missing t.pos) else typeExpr n
        primary n braces (.assertion x lparen type (← expect ")"))
      else primary n braces (.selector x (← ident))
    else if t.is "(" then
      let _ ← next
      let (args, dots) ← arguments n
      primary n braces (.call x t.pos args dots (← expect ")"))
    else if t.is "[" then
      let _ ← next
      let y ← indices n x t.pos
      primary n braces y
    else if t.is "\x7b" && hasElements braces x then
      let y ← elements n x
      primary n braces y
    else return x
termination_by structural n => n

/-- Reads what follows the opening bracket of an index, of type arguments or of a slice. -/
def indices : Nat → Expr → Pos → Parser Expr
  | 0, _, _ => failure
  | n + 1, x, lbrack => do
    let bound : Parser Expr := do
      let t ← peek
      if t.is ":" || t.is "]" then return .missing t.pos
      binary n true 1
    let first ← bound
    if ← accept ":" then
      let second ← bound
      let bounds ← if ← accept ":" then pure [first, second, ← bound] else pure [first, second]
      return .slicing x lbrack bounds (← expect "]")
    let rest ← if ← accept "," then do
        if ← at? "]" then pure [] else typeList n
      else pure []
    match first with
    | .missing _ => failure
    | first => return .index x lbrack (first :: rest) (← expect "]")
termination_by structural n => n

/-- Reads the arguments of a call, up to the closing bracket, and the dots after the last one. -/
def arguments : Nat → Parser (List Expr × Pos)
  | 0 => failure
  | n + 1 => do
    if ← at? ")" then return ([], 0)
    let x ← binary n true 1
    let t ← peek
    if t.is "..." then
      let _ ← next
      let _ ← accept ","
      return ([x], t.pos)
    if ← accept "," then
      let (args, dots) ← arguments n
      return (x :: args, dots)
    return ([x], 0)
termination_by structural n => n

/-- Reads elements in braces. -/
def elements : Nat → Expr → Parser Expr
  | 0, _ => failure
  | n + 1, type => do
    let lbrace ← expect "\x7b"
    let elems ← elementList n
    return .composite type lbrace elems (← expect "\x7d")
termination_by structural n => n

/-- Reads elements separated by commas, with keys or without, up to the closing brace. -/
def elementList : Nat → Parser (List Expr)
  | 0 => failure
  | n + 1 => do
    if ← at? "\x7d" then return []
    let x ← element n
    let x ← if ← at? ":" then do
        let colon ← expect ":"
        pure (.keyed x colon (← element n))
      else pure x
    if ← accept "," then return x :: (← elementList n)
    return [x]
termination_by structural n => n

/-- Reads an element: an expression, or further elements whose type is left out. -/
def element : Nat → Parser Expr
  | 0 => failure
  | n + 1 => do
    let t ← peek
    if t.is "\x7b" then elements n (.missing t.pos) else binary n true 1
termination_by structural n => n

/-- Reads the rest of a type parameter after its name: a bound, unless it shares that of the next
one. -/
def typeParamBound : Nat → Parser (Option Expr)
  | 0 => failure
  | n + 1 => do
    if (← at? ",") || (← at? "]") then return none
    some <$> typeElem n
termination_by structural n => n

/-- Reads type parameters, up to the closing bracket. -/
def typeParamEntries : Nat → Parser (List (Option Ident × Option Expr))
  | 0 => failure
  | n + 1 => do
    if ← at? "]" then return []
    let name ← ident
    let bound ← typeParamBound n
    if ← accept "," then return (some name, bound) :: (← typeParamEntries n)
    return [(some name, bound)]
termination_by structural n => n

/-- Reads the type of a declaration, and the equals sign in front of it if there is one. -/
def rightHandSide : Nat → Parser (Pos × Expr)
  | 0 => failure
  | n + 1 => do
    if ← at? "=" then
      let assign ← expect "="
      return (assign, ← typeExpr n)
    return (0, ← typeExpr n)
termination_by structural n => n

/-- Reads the rest of a generic declaration: the type parameters after the first name, of which the
bound may have been read already, and the type. -/
def genericRest : Nat → Ident → Option Expr → Parser (List (GroupHead × Expr) × Pos × Expr)
  | 0, _, _ => failure
  | n + 1, name, bound => do
    let bound ← match bound with
      | some x => some <$> moreTerms n x
      | none => typeParamBound n
    let rest ← if ← accept "," then typeParamEntries n else pure []
    let groups ← groupParams.go [] ((some name, bound) :: rest)
    let _ ← expect "]"
    return (groups, ← rightHandSide n)
termination_by structural n => n

/-- Reads what follows the name of a declared type. After an opening bracket and a name there may be
the length of an array or a list of type parameters. -/
def typeRest : Nat → Parser (List (GroupHead × Expr) × Pos × Expr)
  | 0 => failure
  | n + 1 => do
    if !(← at? "[") then return ([], ← rightHandSide n)
    let lbrack ← expect "["
    if (← peek).kind != .ident then return ([], 0, ← arrayType n lbrack)
    let id ← ident
    let x ← if ← at? "[" then pure (.ident id) else do
      let x ← primary n true (.ident id)
      operators n true 1 x
    let closed ← at? "]"
    let array : Parser (List (GroupHead × Expr) × Pos × Expr) := do
      let _ ← expect "]"
      return ([], 0, .array lbrack x (← typeExpr n))
    match splitParam? (← at? ",") x with
    | some (name, bound) => if bound.isSome || !closed then genericRest n name bound else array
    | none => array
termination_by structural n => n

/-- Reads statements, up to a closing brace or the next clause. -/
def statements : Nat → Parser (List Statement)
  | 0 => failure
  | n + 1 => do
    let t ← peek
    if t.is "\x7d" || t.is "case" || t.is "default" then return []
    let s ← statement n
    return s :: (← statements n)
termination_by structural n => n

/-- Reads a statement and what ends it. -/
def statement : Nat → Parser Statement
  | 0 => failure
  | n + 1 => do
    let t ← peek
    if t.isSemicolon then
      let _ ← next
      return .empty t.pos
    if t.is "\x7d" then return .empty t.pos
    if ["const", "type", "var"].any t.is then return ← declaration n
    let labelled : Parser Statement := do
      let label ← ident
      let colon ← expect ":"
      return .labelled label colon (← statement n)
    let ended : Parser Statement := do
      let s ← unended n
      semicolon
      return s
    labelled <|> ended
termination_by structural n => n

/-- Reads a statement that is no declaration. -/
def unended : Nat → Parser Statement
  | 0 => failure
  | n + 1 => do
    let t ← peek
    if t.is "\x7b" then return ← block n
    if t.kind != .keyword then return ← simple n true
    match t.text with
    | "go" | "defer" =>
      let _ ← next
      return .start t.pos t.text (← binary n true 1)
    | "return" =>
      let _ ← next
      let end? ← peek
      if end?.isSemicolon || end?.is "\x7d" then return .ret t.pos []
      return .ret t.pos (← exprs n true)
    | "break" | "continue" | "goto" | "fallthrough" =>
      let _ ← next
      let label ← if (← peek).kind == .ident then some <$> ident else pure none
      return .jump t.pos t.text label
    | "if" => condition n
    | "for" => loop n
    | "switch" => choice n
    | "select" =>
      let _ ← next
      let lbrace ← expect "\x7b"
      let body ← clauses n true
      return .choose t.pos "select" (.empty 0) (.empty 0) lbrace body (← expect "\x7d")
    | _ => simple n true
termination_by structural n => n

/-- Reads statements in braces. -/
def block : Nat → Parser Statement
  | 0 => failure
  | n + 1 => do
    let lbrace ← expect "\x7b"
    let body ← statements n
    return .block lbrace body (← expect "\x7d")
termination_by structural n => n

/-- Reads expressions separated by commas. -/
def exprs : Nat → Bool → Parser (List Expr)
  | 0, _ => failure
  | n + 1, braces => do
    let x ← binary n braces 1
    if ← accept "," then return x :: (← exprs n braces)
    return [x]
termination_by structural n => n

/-- Reads a statement that has no keyword. -/
def simple : Nat → Bool → Parser Statement
  | 0, _ => failure
  | n + 1, braces => do
    let xs ← exprs n braces
    let t ← peek
    if t.kind == .symbol && assignments.contains t.text then
      let _ ← next
      return .assign xs t.pos t.text (← exprs n braces)
    match xs with
    | [x] =>
      if t.is "<-" then
        let _ ← next
        return .send x t.pos (← binary n braces 1)
      if t.is "++" || t.is "--" then
        let _ ← next
        return .step x t.pos t.text
      return .expr x
    | _ => failure
termination_by structural n => n

/-- Reads a part of the head of a statement, which may be left out. -/
def headPart : Nat → Parser Statement
  | 0 => failure
  | n + 1 => do
    let t ← peek
    if t.isSemicolon || t.is "\x7b" then return .empty 0
    simple n false
termination_by structural n => n

/-- Reads the head of a choice or a condition: one part, or another one in front of it. -/
def head : Nat → Parser (Statement × Statement)
  | 0 => failure
  | n + 1 => do
    let first ← headPart n
    if (← peek).isSemicolon then
      let _ ← next
      return (first, ← headPart n)
    return (.empty 0, first)
termination_by structural n => n

/-- Reads a condition with what depends on it. -/
def condition : Nat → Parser Statement
  | 0 => failure
  | n + 1 => do
    let pos ← expect "if"
    let (first, test) ← head n
    let body ← block n
    if ← accept "else" then
      let otherwise ← if ← at? "if" then condition n else block n
      return .cond pos first test body otherwise
    return .cond pos first test body (.empty 0)
termination_by structural n => n

/-- Reads a loop. -/
def loop : Nat → Parser Statement
  | 0 => failure
  | n + 1 => do
    let pos ← expect "for"
    let ranging : Parser Statement := do
      let (targets, opPos, op) ← if ← at? "range" then pure ([], 0, "") else do
        let targets ← exprs n false
        let t ← next
        guard (t.is ":=" || t.is "=")
        pure (targets, t.pos, t.text)
      let _ ← expect "range"
      let x ← binary n false 1
      return .range pos targets opPos op x (← block n)
    let counted : Parser Statement := do
      let first ← headPart n
      if (← peek).isSemicolon then
        let _ ← next
        let test ← headPart n
        guard (← next).isSemicolon
        let after ← headPart n
        return .loop pos first test after (← block n)
      return .loop pos (.empty 0) first (.empty 0) (← block n)
    ranging <|> counted
termination_by structural n => n

/-- Reads a choice by values or types. -/
def choice : Nat → Parser Statement
  | 0 => failure
  | n + 1 => do
    let pos ← expect "switch"
    let (first, on) ← head n
    let lbrace ← expect "\x7b"
    let body ← clauses n false
    return .choose pos "switch" first on lbrace body (← expect "\x7d")
termination_by structural n => n

/-- Reads the clauses of a choice, which is one of exchanges over channels if `exchanges` holds. -/
def clauses : Nat → Bool → Parser (List Statement)
  | 0, _ => failure
  | n + 1, exchanges => do
    let t ← peek
    if t.is "\x7d" then return []
    let (values, exchange) ← if ← accept "default" then pure ([], .empty 0) else do
      let _ ← expect "case"
      if exchanges then pure ([], ← simple n true) else pure (← exprs n true, .empty 0)
    let colon ← expect ":"
    let body ← statements n
    return .clause t.pos values exchange colon body :: (← clauses n exchanges)
termination_by structural n => n

/-- Reads a declaration in the body of a function. -/
def declaration : Nat → Parser Statement
  | 0 => failure
  | n + 1 => do
    let doc ← lead
    let t ← next
    if ← at? "(" then
      let lparen ← expect "("
      let specs ← innerSpecs n t.text 0
      let rparen ← expect ")"
      semicolon
      return .declare t.pos t.text doc lparen specs rparen
    return .declare t.pos t.text doc 0 [← innerSpec n t.text 0 none] 0
termination_by structural n => n

/-- Reads specifications from the one with number `i` on, up to the closing bracket. -/
def innerSpecs : Nat → String → Nat → Parser (List Statement)
  | 0, _, _ => failure
  | n + 1, keyword, i => do
    if ← at? ")" then return []
    let s ← innerSpec n keyword i (← lead)
    return s :: (← innerSpecs n keyword (i + 1))
termination_by structural n => n

/-- Reads a specification after the comments that lead to it. -/
def innerSpec : Nat → String → Nat → Option (List Comment) → Parser Statement
  | 0, _, _, _ => failure
  | n + 1, keyword, index, doc => do
    if keyword == "type" then
      let name ← ident
      let (params, assign, type) ← typeRest n
      return .spec { keyword, index, names := [name], assign, doc, comment := ← ending } params type []
    let names ← identList n
    let t ← peek
    let bare := t.is "=" || t.isSemicolon || t.is ")" || t.is "\x7d"
    let type ← if bare then pure (.missing t.pos) else typeExpr n
    let values ← if ← accept "=" then exprs n true else pure []
    return .spec { keyword, index, names, doc, comment := ← ending } [] type values
termination_by structural n => n

end

end Parser

end TaggedUnion.Syntax
