import TaggedUnion.Code.Draft

/-!
# Requalified expressions

An expression that is copied from the source into generated code must name packages as the code does,
not as the file it comes from does. Qualified names get the name under which the code imports the
package; names that the file has from a dot import become qualified. All other names stay.

The new identifiers have no meaning of their own: they are what is written, and nothing more is known
about them. So a second pass leaves them as they are.
-/

namespace TaggedUnion

open Source TaggedUnion.Types Syntax

/-- The name under which the code imports a package, which is imported if needed. -/
def importedName (s : Subject) (path : String) : StateM Draft String := fun d =>
  (d.importPath s path (d.names.current path)).getD ("", d)

/-- A qualified name without meaning. -/
def plainSelector (pos selPos : Pos) (qualifier name : String) : Expr :=
  .selector (.ident { pos, name := qualifier }) { pos := selPos, name }

/-- The package whose top level declares what an identifier refers to, if it is not the one the code is
for. -/
def foreignHome? (s : Subject) (id : Ident) : Option String :=
  match id.meaning with
  | some (.topLevel home _) => if home == s.path then none else some home
  | _ => none

/-- The package that a qualifier names. -/
def qualifierPath? : Expr → Option (Ident × String)
  | .ident id =>
    match id.meaning with
    | some (.package path) => some (id, path)
    | _ => none
  | _ => none

mutual

/-- An expression with the package names of the code. -/
def requalify (s : Subject) : Expr → StateM Draft Expr
  | .ident id => do
    match foreignHome? s id with
    | none => return .ident id
    | some home =>
      let name ← importedName s home
      return plainSelector id.pos (id.pos + name.utf8ByteSize + 1) name id.name
  | .missing pos => return .missing pos
  | .literal pos kind text => return .literal pos kind text
  | .selector x sel => do
    match qualifierPath? x with
    | some (id, path) =>
      let name ← importedName s path
      return plainSelector id.pos (id.pos + id.name.utf8ByteSize + 1) name sel.name
    | none => return .selector (← requalify s x) sel
  | .index x lbrack args rbrack => do
    let x ← requalify s x
    return .index x lbrack (← requalifyAll s args) rbrack
  | .slicing x lbrack bounds rbrack => do
    let x ← requalify s x
    return .slicing x lbrack (← requalifyAll s bounds) rbrack
  | .assertion x lparen type rparen => do
    let x ← requalify s x
    return .assertion x lparen (← requalify s type) rparen
  | .call f lparen args dots rparen => do
    let f ← requalify s f
    return .call f lparen (← requalifyAll s args) dots rparen
  | .composite type lbrace elems rbrace => do
    let type ← requalify s type
    return .composite type lbrace (← requalifyAll s elems) rbrace
  | .keyed key colon value => do
    let key ← requalify s key
    return .keyed key colon (← requalify s value)
  | .closure type lbrace body rbrace => do
    let type ← requalify s type
    return .closure type lbrace (← requalifyBody s body) rbrace
  | .star pos x => return .star pos (← requalify s x)
  | .paren lparen x rparen => return .paren lparen (← requalify s x) rparen
  | .unary pos op x => return .unary pos op (← requalify s x)
  | .binary x opPos op y => do
    let x ← requalify s x
    return .binary x opPos op (← requalify s y)
  | .ellipsis pos elem => return .ellipsis pos (← requalify s elem)
  | .slice pos elem => return .slice pos (← requalify s elem)
  | .array pos length elem => do
    let length ← requalify s length
    return .array pos length (← requalify s elem)
  | .map pos key elem => do
    let key ← requalify s key
    return .map pos key (← requalify s elem)
  | .chan pos arrow direction elem => return .chan pos arrow direction (← requalify s elem)
  | .func pos params lparen rparen results lresult rresult => do
    let params ← requalifyGroups s params
    return .func pos params lparen rparen (← requalifyGroups s results) lresult rresult
  | .struct pos lbrace fields rbrace =>
    return .struct pos lbrace (← requalifyGroups s fields) rbrace
  | .interface pos lbrace elems rbrace =>
    return .interface pos lbrace (← requalifyGroups s elems) rbrace

/-- A statement with the package names of the code. -/
def requalifyStatement (s : Subject) : Statement → StateM Draft Statement
  | .empty pos => return .empty pos
  | .expr x => return .expr (← requalify s x)
  | .send channel arrow value => do
    let channel ← requalify s channel
    return .send channel arrow (← requalify s value)
  | .step x opPos op => return .step (← requalify s x) opPos op
  | .assign targets opPos op values => do
    let targets ← requalifyAll s targets
    return .assign targets opPos op (← requalifyAll s values)
  | .start pos keyword call => return .start pos keyword (← requalify s call)
  | .ret pos results => return .ret pos (← requalifyAll s results)
  | .jump pos keyword label => return .jump pos keyword label
  | .block lbrace body rbrace => return .block lbrace (← requalifyBody s body) rbrace
  | .labelled label colon target => return .labelled label colon (← requalifyStatement s target)
  | .cond pos first test body otherwise => do
    let first ← requalifyStatement s first
    let test ← requalifyStatement s test
    let body ← requalifyStatement s body
    return .cond pos first test body (← requalifyStatement s otherwise)
  | .loop pos first test after body => do
    let first ← requalifyStatement s first
    let test ← requalifyStatement s test
    let after ← requalifyStatement s after
    return .loop pos first test after (← requalifyStatement s body)
  | .range pos targets opPos op x body => do
    let targets ← requalifyAll s targets
    let x ← requalify s x
    return .range pos targets opPos op x (← requalifyStatement s body)
  | .choose pos keyword first on lbrace clauses rbrace => do
    let first ← requalifyStatement s first
    let on ← requalifyStatement s on
    return .choose pos keyword first on lbrace (← requalifyBody s clauses) rbrace
  | .clause pos values exchange colon body => do
    let values ← requalifyAll s values
    let exchange ← requalifyStatement s exchange
    return .clause pos values exchange colon (← requalifyBody s body)
  | .declare pos keyword doc lparen specs rparen =>
    return .declare pos keyword doc lparen (← requalifyBody s specs) rparen
  | .spec head params type values => do
    let params ← requalifyGroups s params
    let type ← requalify s type
    return .spec head params type (← requalifyAll s values)

/-- Expressions with the package names of the code. -/
def requalifyAll (s : Subject) : List Expr → StateM Draft (List Expr)
  | [] => return []
  | x :: rest => do
    let x ← requalify s x
    return x :: (← requalifyAll s rest)

/-- Groups with the package names of the code. -/
def requalifyGroups (s : Subject) : List (GroupHead × Expr) → StateM Draft (List (GroupHead × Expr))
  | [] => return []
  | (head, x) :: rest => do
    let x ← requalify s x
    return (head, x) :: (← requalifyGroups s rest)

/-- Statements with the package names of the code. -/
def requalifyBody (s : Subject) : List Statement → StateM Draft (List Statement)
  | [] => return []
  | t :: rest => do
    let t ← requalifyStatement s t
    return t :: (← requalifyBody s rest)

end

namespace Draft

/-- An expression of the source as it is by now. -/
def currentExpr (d : Draft) (x : Expr) : Expr :=
  (d.adapted.lookup x).getD x

/-- Whether an expression is a name, which is replaced as a whole. -/
def isName : Expr → Bool
  | .ident _ | .selector _ _ => true
  | _ => false

/-- Adapts an expression of the source to the package names of the code. An expression that is only
a name stays as it is in the source, others are remembered in their new form. -/
def adapt (s : Subject) (d : Draft) (x : Expr) : Expr × Draft :=
  let current := d.currentExpr x
  let (y, d) := (requalify s current).run d
  if isName current then (y, d) else (y, { d with adapted := (x, y) :: d.adapted })

end Draft

end TaggedUnion
