import TaggedUnion.Program.Bind

/-!
# Annotated expressions

Gives the identifiers of a type expression their meanings. The names that an expression declares itself
(fields, methods, parameters, variables in bodies of functions) mean what they declare; an embedded type
name means the field it declares rather than the type. Statements hand on the place with what they declare
to those after them in the same block.
-/

namespace TaggedUnion.Program

open Source TaggedUnion.Types Syntax

/-- Gives the name of an embedded type the meaning of the field it declares. -/
def annotateEmbedded (home : String) (t : Ty) : Expr → Expr
  | .ident id => .ident (annotateDef home t id)
  | .selector x sel => .selector x (annotateDef home t sel)
  | .star pos x => .star pos (annotateEmbedded home t x)
  | .index x lbrack args rbrack => .index (annotateEmbedded home t x) lbrack args rbrack
  | .paren lparen x rparen => .paren lparen (annotateEmbedded home t x) rparen
  | x => x

variable (s : Site) (ask : Ask)

/-- The type of what a name of the package at hand declares. -/
def ownType (d : OwnDecl) : Check Ty := do
  match d.body with
  | .type spec =>
    let name := ownTypeName s spec
    if spec.isAlias then
      match ← ask (.name name.name) with
      | .type _ target => return .synonym name [] [] target
      | _ => return .invalid
    else return .named name [] []
  | _ =>
    match ← ask (.name d.name.name) with
    | .value t _ => return t
    | _ => return .invalid

/-- The meaning of a name that is used. -/
def usedMeaning (name : String) : Check (Option Meaning) := do
  match s.lookup name with
  | none => return none
  | some (.inner d) => return some (.inner s.env.self d.type)
  | some (.param p) => return some (.inner s.env.self (.param p.name p.pos))
  | some (.package path) => return some (.package path)
  | some (.foreign o) => return some (.topLevel o.home o.type)
  | some (.predeclared n) => return some (.predeclared ((predeclaredType? n).getD .invalid))
  | some (.own d) => return some (.topLevel s.env.self (← orInvalid (ownType s ask d)))

/-- An identifier with the meaning of its use. -/
def annotateUse (id : Ident) : Check Ident :=
  return { id with meaning := ← usedMeaning s ask id.name }

/-- The meaning of a field or method of a type. -/
def memberMeaning (t : Ty) (name : String) : Check (Option Meaning) := do
  match ← member? s ask t name with
  | some (.field head t) => return some (.inner head.home t)
  | some (.method home _ t) => return some (.inner home t)
  | none => return none

/-- The meaning of a selected name. -/
def selectedMeaning (x : Expr) (name : String) : Check (Option Meaning) := do
  let member : Check (Option Meaning) := do
    try memberMeaning s ask (← operand s ask x none).type name catch _ => return none
  match x with
  | .ident q =>
    match s.lookup q.name with
    | some (.package _) => return (s.lookupIn q.name name).map fun o => .topLevel o.home o.type
    | _ => member
  | _ => member

mutual

/-- Gives the identifiers of an expression their meanings. -/
def annotate (s : Site) (ask : Ask) : Expr → Check Expr
  | .missing pos => return .missing pos
  | .ident id => return .ident (← annotateUse s ask id)
  | .literal pos kind text => return .literal pos kind text
  | .selector x sel => do
    let meaning ← selectedMeaning s ask x sel.name
    return .selector (← annotate s ask x) { sel with meaning }
  | .index x lbrack args rbrack =>
    return .index (← annotate s ask x) lbrack (← annotateAll s ask args) rbrack
  | .slicing x lbrack bounds rbrack =>
    return .slicing (← annotate s ask x) lbrack (← annotateAll s ask bounds) rbrack
  | .assertion x lparen type rparen =>
    return .assertion (← annotate s ask x) lparen (← annotate s ask type) rparen
  | .call f lparen args dots rparen =>
    return .call (← annotate s ask f) lparen (← annotateAll s ask args) dots rparen
  | .composite type lbrace elems rbrace => do
    let t ← orInvalid (typeOf s ask type)
    return .composite (← annotate s ask type) lbrace (← annotateElems s ask t elems) rbrace
  | .keyed key colon value => return .keyed (← annotate s ask key) colon (← annotate s ask value)
  | .closure type lbrace body rbrace => do
    let type' ← annotate s ask type
    let inside := { s.inBlock (← signatureDecls s ask type) with chosen := none }
    let (body, _) ← annotateBody inside ask body
    return .closure type' lbrace body rbrace
  | .star pos x => return .star pos (← annotate s ask x)
  | .paren lparen x rparen => return .paren lparen (← annotate s ask x) rparen
  | .unary pos op x => return .unary pos op (← annotate s ask x)
  | .binary x opPos op y => return .binary (← annotate s ask x) opPos op (← annotate s ask y)
  | .ellipsis pos elem => return .ellipsis pos (← annotate s ask elem)
  | .slice pos elem => return .slice pos (← annotate s ask elem)
  | .array pos length elem => return .array pos (← annotate s ask length) (← annotate s ask elem)
  | .map pos key elem => return .map pos (← annotate s ask key) (← annotate s ask elem)
  | .chan pos arrow direction elem => return .chan pos arrow direction (← annotate s ask elem)
  | .func pos params lparen rparen results lresult rresult =>
    return .func pos (← annotateGroups s ask params) lparen rparen (← annotateGroups s ask results)
      lresult rresult
  | .struct pos lbrace fields rbrace => return .struct pos lbrace (← annotateFields s ask fields) rbrace
  | .interface pos lbrace elems rbrace =>
    return .interface pos lbrace (← annotateGroups s ask elems) rbrace

/-- Gives the identifiers of a statement their meanings. Returns the place after it. -/
def annotateStatement (s : Site) (ask : Ask) : Statement → Check (Statement × Site)
  | .empty pos => return (.empty pos, s)
  | .expr x => return (.expr (← annotate s ask x), s)
  | .send channel arrow value =>
    return (.send (← annotate s ask channel) arrow (← annotate s ask value), s)
  | .step x opPos op => return (.step (← annotate s ask x) opPos op, s)
  | .assign targets opPos op values => do
    let values' ← annotateAll s ask values
    if op == ":=" then
      let (targets, decls) := bindTargets s targets (← assignedTypes s ask targets.length values)
      return (.assign targets opPos op values', s.after decls)
    else return (.assign (← annotateAll s ask targets) opPos op values', s)
  | .start pos keyword call => return (.start pos keyword (← annotate s ask call), s)
  | .ret pos results => return (.ret pos (← annotateAll s ask results), s)
  | .jump pos keyword label => return (.jump pos keyword label, s)
  | .block lbrace body rbrace => do
    let (body, _) ← annotateBody (s.inBlock []) ask body
    return (.block lbrace body rbrace, s)
  | .labelled label colon target => do
    let (target, s) ← annotateStatement s ask target
    return (.labelled label colon target, s)
  | .cond pos first test body otherwise => do
    let (first, inside) ← annotateStatement (s.inBlock []) ask first
    let (test, _) ← annotateStatement inside ask test
    let (body, _) ← annotateStatement inside ask body
    let (otherwise, _) ← annotateStatement inside ask otherwise
    return (.cond pos first test body otherwise, s)
  | .loop pos first test after body => do
    let (first, inside) ← annotateStatement (s.inBlock []) ask first
    let (test, _) ← annotateStatement inside ask test
    let (after, _) ← annotateStatement inside ask after
    let (body, _) ← annotateStatement inside ask body
    return (.loop pos first test after body, s)
  | .range pos targets opPos op x body => do
    let x' ← annotate s ask x
    let inside := s.inBlock []
    let (targets, decls) ← if op == ":=" then do
        pure (bindTargets inside targets (← partTypes s ask x))
      else do pure (← annotateAll s ask targets, [])
    let (body, _) ← annotateStatement (inside.after decls) ask body
    return (.range pos targets opPos op x' body, s)
  | .choose pos keyword first on lbrace clauses rbrace => do
    let (first, inside) ← annotateStatement (s.inBlock []) ask first
    let chosen ← chosenValue inside ask on
    let (on, _) ← annotateStatement inside ask on
    let (clauses, _) ← annotateBody { inside with chosen } ask clauses
    return (.choose pos keyword first on lbrace clauses rbrace, s)
  | .clause pos values exchange colon body => do
    let values' ← annotateAll s ask values
    let (exchange, inside) ← annotateStatement (← inClause s ask values) ask exchange
    let (body, _) ← annotateBody inside ask body
    return (.clause pos values' exchange colon body, s)
  | .declare pos keyword doc lparen specs rparen => do
    let (specs, s) ← annotateBody s ask specs
    return (.declare pos keyword doc lparen specs rparen, s)
  | .spec head params type values => do
    if head.keyword == "type" then
      let decls := typeDeclIn s head (← orInvalid (typeOf s ask type))
      let s := s.after decls
      let names := head.names.zipWith (fun id d => annotateDef s.env.self d.type id) decls
      return (.spec { head with names } params (← annotate s ask type) [], s)
    else
      let t ← match type with
        | .missing _ => pure none
        | type => some <$> orInvalid (typeOf s ask type)
      let decls ← valueDecls s ask head t values
      let names := head.names.zipWith (fun id d => annotateDef s.env.self d.type id) decls
      return (.spec { head with names } params (← annotate s ask type) (← annotateAll s ask values),
        s.after (decls.filter (·.name != "_")))

/-- Gives the identifiers of expressions their meanings. -/
def annotateAll (s : Site) (ask : Ask) : List Expr → Check (List Expr)
  | [] => return []
  | x :: rest => return (← annotate s ask x) :: (← annotateAll s ask rest)

/-- Gives the identifiers of the elements of a value of the given type their meanings: the keys of a struct
are its fields. -/
def annotateElems (s : Site) (ask : Ask) (t : Ty) : List Expr → Check (List Expr)
  | [] => return []
  | .keyed (.ident id) colon value :: rest => do
    let key ← match ← underlying s ask t with
      | .struct _ => pure { id with meaning := ← memberMeaning s ask t id.name }
      | _ => annotateUse s ask id
    return .keyed (.ident key) colon (← annotate s ask value) :: (← annotateElems s ask t rest)
  | x :: rest => return (← annotate s ask x) :: (← annotateElems s ask t rest)

/-- Gives the identifiers of parameters and interface elements their meanings: names declare, types are
used. -/
def annotateGroups (s : Site) (ask : Ask) :
    List (GroupHead × Expr) → Check (List (GroupHead × Expr))
  | [] => return []
  | (head, x) :: rest => do
    let t ← orInvalid (typeOf s ask x)
    return ({ head with names := head.names.map (annotateDef s.env.self t) }, ← annotate s ask x) ::
      (← annotateGroups s ask rest)

/-- Gives the identifiers of struct fields their meanings: an embedded type declares a field. -/
def annotateFields (s : Site) (ask : Ask) :
    List (GroupHead × Expr) → Check (List (GroupHead × Expr))
  | [] => return []
  | (head, x) :: rest => do
    let t ← orInvalid (typeOf s ask x)
    let x' ← annotate s ask x
    return ({ head with names := head.names.map (annotateDef s.env.self t) },
      if head.names.isEmpty then annotateEmbedded s.env.self t x' else x') ::
      (← annotateFields s ask rest)

/-- Gives the identifiers of statements their meanings. Returns the place after them. -/
def annotateBody (s : Site) (ask : Ask) : List Statement → Check (List Statement × Site)
  | [] => return ([], s)
  | t :: rest => do
    let (t, s) ← annotateStatement s ask t
    let (rest, s) ← annotateBody s ask rest
    return (t :: rest, s)

end

end TaggedUnion.Program
