import TaggedUnion.Layout.Pen
import TaggedUnion.Syntax.Parser
import TaggedUnion.Types.Text

/-!
# Parts of expressions

How the parts of expressions are written with a pen. Where lists are broken into lines in the source
they are broken again; a struct or interface whose braces stand on one line stays on one line if it has no
more than one short element, without a tag or a comment. Fields of a struct line up in columns. Operators
are set off by blanks so that blanks show which ones bind less strongly.

Whether something fits on a line is found out by writing it apart. So that this is done only once, an
expression is first turned into something that can be written and knows its size.
-/

namespace TaggedUnion.Layout

open Source Syntax TaggedUnion.Types

/-! ## Numbers -/

/-- A text with its last `upper` replaced. -/
def replaceLast (upper lower : Char) (cs : List Char) : List Char :=
  let tail := (cs.reverse.takeWhile (· != upper)).reverse
  if tail.length == cs.length then cs else cs.take (cs.length - tail.length - 1) ++ lower :: tail

/-- A number without a letter at its start: the exponent is marked with a small letter, and whole
imaginary numbers have no zeros in front. -/
def decimalText (cs : List Char) : List Char :=
  if cs.contains 'E' then replaceLast 'E' 'e' cs
  else if cs.getLast? == some 'i' && !cs.any (fun c => c == '.' || c == 'e') then
    match cs.dropWhile fun c => c == '0' || c == '_' with
    | ['i'] => ['0', 'i']
    | cs => cs
  else cs

/-- Number literals are written with small letters, except for hexadecimal digits. -/
def numberText (text : String) : String :=
  match text.toList with
  | [c] => String.singleton c
  | '0' :: 'X' :: rest | '0' :: 'x' :: rest =>
    String.ofList ('0' :: 'x' :: replaceLast 'P' 'p' rest)
  | '0' :: 'B' :: rest => "0b" ++ String.ofList rest
  | '0' :: 'O' :: rest => "0o" ++ String.ofList rest
  | '0' :: 'b' :: rest => "0b" ++ String.ofList rest
  | '0' :: 'o' :: rest => "0o" ++ String.ofList rest
  | cs => String.ofList (decimalText cs)

/-- Writes a literal. -/
def putLiteral (kind : TokenKind) (text : String) : Put Unit := do
  let isNumber := kind == .int || kind == .float || kind == .imaginary
  literal (kind == .int) (if isNumber && (← get).normal then numberText text else text)

/-! ## Operators -/

/-- Which of the two strongest kinds of operators an expression has, and the strongest operator that
would run together with a unary one. -/
structure Operators where
  additive : Bool := false
  multiplicative : Bool := false
  clash : Nat := 0

/-- The operators of both. -/
def Operators.join (a b : Operators) : Operators :=
  ⟨a.additive || b.additive, a.multiplicative || b.multiplicative, max a.clash b.clash⟩

/-- The operators of an expression outside of brackets. -/
def operators : Expr → Operators
  | .binary x _ op y =>
    let p := Parser.precedence op
    let own : Operators := { additive := p == 4, multiplicative := p == 5 }
    let left : Operators := match x with
      | .binary _ _ op' _ => if Parser.precedence op' < p then {} else operators x
      | _ => {}
    let right : Operators := match y with
      | .binary _ _ op' _ => if Parser.precedence op' ≤ p then {} else operators y
      | .star _ _ => if op == "/" then { clash := 5 } else {}
      | .unary _ op' _ =>
        if ["/*", "&&", "&^"].contains (op ++ op') then { clash := 5 }
        else if ["++", "--"].contains (op ++ op') then { clash := 4 }
        else {}
      | _ => {}
    own.join (left.join right)
  | _ => {}

/-- Operators that bind less strongly than this are set off by blanks. -/
def cutoff (x : Expr) (depth : Nat) : Nat :=
  let o := operators x
  if 0 < o.clash then o.clash + 1
  else if o.additive && o.multiplicative then if depth == 1 then 5 else 4
  else if depth == 1 then 6 else 4

/-- Operands of operators of another strength are one level deeper. -/
def deeper (x : Expr) (precedence : Nat) : Nat :=
  match x with
  | .binary _ _ op _ => if Parser.precedence op == precedence then 0 else 1
  | _ => 1

/-- The strength of operators with one operand. -/
def unaryStrength : Nat := 6

/-- The strength of selectors, indices and calls. -/
def highestStrength : Nat := 7

/-- Brackets undo one level of depth. -/
def reduced (depth : Nat) : Nat :=
  max (depth - 1) 1

/-! ## Expressions to be written -/

/-- A keyed element to be written. -/
structure Pair where
  key : Put Unit
  /-- The size of the key on one line, if it fits. -/
  keySize : Thunk (Option Nat)
  colon : Pos
  value : Put Unit

/-- An expression to be written. -/
structure Laid where
  pos : Pos
  stop : Pos
  /-- Writes it, where the surroundings bind as strongly as `strength`, at a depth within operators
  and arguments. -/
  put : (strength depth : Nat) → Put Unit
  /-- Writes it without brackets around it. -/
  bare : Put Unit
  /-- Writes it in front of a block, without brackets that are not needed there. -/
  head : Put Unit
  /-- Writes it as the function of a call, and returns whether the line is broken in it, with the
  indentation still to be changed back. -/
  callee : (depth : Nat) → Put Bool
  /-- Writes a function type without the keyword. -/
  signature : Put Unit
  /-- Its size on one line, if it fits. -/
  size : Thunk (Option Nat)
  pair? : Option Pair := none

/-- The size that something has on one line, if it fits. -/
def measure (files : FileSet) (m : Put Unit) : Option Nat :=
  flatSize? (finish files { normal := false } m)

/-- Something to be written without further ado. -/
def Laid.of (files : FileSet) (pos stop : Pos) (put : (strength depth : Nat) → Put Unit) : Laid :=
  { pos, stop
    put
    bare := put 0 1
    head := put 0 1
    callee := fun depth => do put highestStrength depth; return false
    signature := put 0 1
    size := Thunk.mk fun _ => measure files (put 0 1) }

/-- A name to be written. -/
def Laid.ident (files : FileSet) (id : Ident) : Laid :=
  .of files id.pos id.stop fun _ _ => do goTo id.pos; name id.name

/-- A group of fields, parameters or methods to be written. -/
structure LaidGroup where
  head : GroupHead
  pos : Pos
  stop : Pos
  type : Laid

/-! ## Lists -/

/-- How far the elements of a list are written. -/
structure Progress where
  /-- What goes in front of the next line break. -/
  ws : Space
  /-- How many elements there are up to the last line break. -/
  broken : Nat := 0
  /-- The size of the last element or of its key; 0 if it does not fit on a line. -/
  size : Nat := 0
  /-- The number of sizes that are compared, and the sum of their logarithms. -/
  count : Nat := 0
  sum : Rat := 0
  /-- The source line of the last element. -/
  line : Nat

/-- Sizes up to this are always lined up. -/
def smallSize : Nat := 40

/-- The binary logarithm of a positive number at powers of two, and straight lines in between. -/
def roughLog (n : Nat) : Rat :=
  let whole := Nat.log2 n
  whole + (n - Nat.pow 2 whole : Nat) / (Nat.pow 2 whole : Nat)

/-- The number with the given logarithm, in the same sense. -/
def roughPower (x : Rat) : Rat :=
  let whole := x.floor.toNat
  (Nat.pow 2 whole : Nat) * (1 + (x - whole))

/-- Whether a size differs from the mean of the sizes before it, which is that of their logarithms, by a
factor of 5/2 or more. -/
def Progress.isFar (σ : Progress) (size : Nat) : Bool :=
  let mean := roughPower (σ.sum / σ.count)
  5 * (size : Rat) ≤ 2 * mean || 5 * mean ≤ 2 * (size : Rat)

/-- Whether an element of the given size is not lined up with the one before it. -/
def Progress.startsSection (σ : Progress) (size : Nat) : Bool :=
  if σ.size == 0 || size == 0 then true
  else if σ.count == 0 || (σ.size ≤ smallSize && size ≤ smallSize) then false
  else σ.isFar size

/-- The size that counts for lining up an element: that of its key if it has one; 0 if it does not
fit on a line. -/
def Laid.listSize (x : Laid) : Nat :=
  match x.size.get with
  | none => 0
  | some n =>
    match x.pair? with
    | some pair => (pair.keySize.get).getD 0
    | none => n

/-- Writes the elements of a list from number `i` on. `bounded` says whether it is known where the
list starts and ends, `many` whether it has several elements. -/
def putItems (bounded many : Bool) (depth : Nat) (σ : Progress) (i : Nat) :
    List Laid → Put Progress
  | [] => return σ
  | x :: rest => do
    let line ← lineOf x.pos
    let size := if bounded then x.listSize else 0
    let breaks := 0 < σ.line && σ.line < line
    let mut τ := σ
    if 0 < i then
      if !breaks then goTo x.pos
      symbol ","
      let mut set := true
      if breaks then
        let n ← lineBreak line 0 σ.ws (σ.startsSection size || σ.broken < i)
        if 0 < n then
          τ := { τ with ws := .ignore, broken := i + 1 }
          set := false
        if 1 < n then τ := { τ with count := 0, sum := 0 }
      if set then space .blank
    match x.pair? with
    | some pair =>
      if many && 0 < size && breaks then do
        pair.key
        goTo pair.colon
        symbol ":"
        space .cell
        pair.value
      else x.put 0 depth
    | none => x.put 0 depth
    if 0 < size then τ := { τ with count := τ.count + 1, sum := τ.sum + roughLog size }
    putItems bounded many depth { τ with size, line } (i + 1) rest

/-- Writes elements on one line. -/
def putFlat (depth : Nat) : List Laid → Put Unit
  | [] => return ()
  | [x] => x.put 0 depth
  | x :: y :: rest => do
    x.put 0 depth
    goTo y.pos
    symbol ","
    space .blank
    putFlat depth (y :: rest)

/-- Writes a list that spans lines, between the given places. -/
def putBroken (opening closing : Spot) (first : Nat) (depth : Nat) (commaTerm noIndent : Bool)
    (list : List Laid) : Put Unit := do
  let start : Progress := { ws := if noIndent then .ignore else .indent, line := opening.line }
  let breaks := 0 < opening.line && opening.line < first
  let n ← if breaks then lineBreak first 0 start.ws true else pure 0
  let σ := if 0 < n then { start with ws := .ignore, broken := 1 } else start
  let bounded := 0 < opening.line && 0 < closing.line
  let σ ← putItems bounded (1 < list.length) depth σ 0 list
  let back : Put Unit := if σ.ws == .ignore && !noIndent then space .unindent else return ()
  if commaTerm && (← get).spot.line < closing.line then
    symbol ","
    back
    space .sectionBreak
  else back

/-- Writes expressions separated by commas between places of the source, which may be missing. The last
one is followed by a comma if `commaTerm` holds and the closing place is on another line. -/
def putList (opening : Pos) (list : List Laid) (depth : Nat) (commaTerm noIndent : Bool)
    (closing : Pos) : Put Unit := do
  match list.head?, list.getLast? with
  | some first, some last =>
    let from' ← spotAt opening
    let line ← lineOf first.pos
    if 0 < from'.line && from'.line == line && line == (← lineOf last.stop) then putFlat depth list
    else putBroken from' (← spotAt closing) line depth commaTerm noIndent list
  | _, _ => return ()

/-- Writes names separated by commas. -/
def putNames (files : FileSet) (names : List Ident) (noIndent : Bool) : Put Unit :=
  putList 0 (names.map (Laid.ident files)) 1 false noIndent 0

/-! ## Parameters -/

/-- Writes parameters from number `i` on. `previous` is the source line of the end of the one before.
Returns what would go in front of the next line break, and that line. -/
def putParams (files : FileSet) (ws : Space) (previous i : Nat) : List LaidGroup → Put (Space × Nat)
  | [] => return (ws, previous)
  | g :: rest => do
    let first ← lineOf g.pos
    let breaks := 0 < previous && previous < first
    if 0 < i then
      if !breaks then goTo g.pos
      symbol ","
    let n ← if breaks then lineBreak first 0 ws true else pure 0
    let ws := if 0 < n then .ignore else ws
    if n == 0 && 0 < i then space .blank
    if !g.head.names.isEmpty then
      putNames files g.head.names (ws != .indent)
      space .blank
    g.type.bare
    putParams files ws (← lineOf g.stop) (i + 1) rest

/-- Writes a parameter list with its brackets. -/
def putParamList (files : FileSet) (opening closing : String) (left right : Pos)
    (groups : List LaidGroup) : Put Unit := do
  goTo left
  symbol opening
  if !groups.isEmpty then
    let (ws, previous) ← putParams files .indent (← lineOf left) 0 groups
    let line ← lineOf right
    if 0 < previous && previous < line then
      symbol ","
      let _ ← lineBreak line 0 .ignore true
    if ws == .ignore then space .unindent
  goTo right
  symbol closing

/-- Writes parameters and results. -/
def putSignature (files : FileSet) (params : List LaidGroup) (lparen rparen : Pos)
    (results : List LaidGroup) (lresult rresult : Pos) : Put Unit := do
  putParamList files "(" ")" lparen rparen params
  match results with
  | [] => return ()
  | results =>
    space .blank
    match results with
    | [only] =>
      if only.head.names.isEmpty then only.type.bare
      else putParamList files "(" ")" lresult rresult [only]
    | results => putParamList files "(" ")" lresult rresult results

/-! ## Structs and interfaces -/

/-- Types longer than this are not written on one line with the braces around them. -/
def shortLimit : Nat := 30

/-- Whether fields fit on one line with their braces. -/
def isOneLine (fields : List LaidGroup) : Bool :=
  match fields with
  | [f] =>
    f.head.tag.isNone && f.head.comment.isNone &&
      match f.type.size.get with
      | some n => n + (if f.head.names.isEmpty then 0 else 1) ≤ shortLimit
      | none => false
  | _ => false

/-- Writes the only field of a struct or interface on one line. -/
def putOnly (isStruct : Bool) (f : LaidGroup) : Put Unit := do
  match isStruct, f.head.names with
  | _, [] => f.type.put 0 1
  | false, id :: _ =>
    goTo id.pos
    name id.name
    f.type.signature
  | true, id :: rest =>
    goTo id.pos
    name id.name
    for id in rest do
      symbol ","
      space .blank
      goTo id.pos
      name id.name
    space .blank
    f.type.put 0 1

/-- Writes a struct field; `sep` stands between its columns. -/
def putField (files : FileSet) (sep : Space) (f : LaidGroup) : Put Unit := do
  let named := !f.head.names.isEmpty
  if named then
    putNames files f.head.names true
    space sep
  f.type.put 0 1
  match f.head.tag with
  | some (pos, text) =>
    if named && sep == .cell then space sep
    space sep
    goTo pos
    literal false text
  | none =>
    if f.head.comment.isSome then
      space sep
      if !named then space sep
  attach f.head.comment

/-- Writes an element of an interface. -/
def putElem (f : LaidGroup) : Put Unit := do
  match f.head.names with
  | [] => f.type.put 0 1
  | id :: _ =>
    goTo id.pos
    name id.name
    f.type.signature
  attach f.head.comment

/-- Writes fields or elements on lines of their own. One that spans lines ends the section. -/
def putFields (put : LaidGroup → Put Unit) (previous : Option Bool) : List LaidGroup → Put Unit
  | [] => return ()
  | f :: rest => do
    match previous with
    | none => pure ()
    | some long =>
      let _ ← lineBreak (← lineOf f.pos) 1 .ignore long
    attach f.head.doc
    let long ← spansLines (put f)
    putFields put (some long) rest

/-- Writes fields with the braces around them. -/
def putFieldList (files : FileSet) (isStruct : Bool) (lbrace rbrace : Pos) (fields : List LaidGroup) :
    Put Unit := do
  let commented ← commentsBefore rbrace
  let onLine := !commented && (← lineOf lbrace) == (← lineOf rbrace)
  match onLine, fields, isOneLine fields with
  | true, [], _ =>
    goTo lbrace
    symbol "\x7b"
    goTo rbrace
    symbol "\x7d"
  | true, f :: _, true =>
    goTo lbrace
    symbol "\x7b"
    space .blank
    putOnly isStruct f
    space .blank
    goTo rbrace
    symbol "\x7d"
  | _, _, _ =>
    space .blank
    goTo lbrace
    symbol "\x7b"
    space .indent
    if commented || !fields.isEmpty then space .sectionBreak
    let sep := if fields.length == 1 then Space.blank else .cell
    putFields (if isStruct then putField files sep else putElem) none fields
    space .unindent
    space .sectionBreak
    goTo rbrace
    symbol "\x7d"

/-! ## Expressions -/

/-- Writes something in brackets if it binds less strongly than its surroundings. -/
def guarded (weak : Bool) (m : Put Unit) : Put Unit := do
  if weak then
    symbol "("
    m
    symbol ")"
  else m

/-- Writes a selected name after what it is selected from. Returns whether the line is broken; then the
indentation is still to be changed back. -/
def putSelected (sel : Ident) : Put Bool := do
  symbol "."
  let spot := (← get).spot
  let breaks := 0 < spot.line && spot.line < (← lineOf sel.pos)
  if breaks then
    space .indent
    space .newline
  goTo sel.pos
  name sel.name
  return breaks

/-- Whether the type of a conversion needs brackets. -/
def needsBrackets : Expr → Bool
  | .func _ _ _ _ _ _ _ => true
  | .chan _ _ direction _ => direction == .receive
  | _ => false

/-- Whether an expression is left out. -/
def isMissing : Expr → Bool
  | .missing _ => true
  | _ => false

/-- Whether an expression is an operation with two operands. -/
def isOperation : Expr → Bool
  | .binary _ _ _ _ => true
  | _ => false

/-- Whether the colons between the bounds of a slice are set off by blanks. -/
def setsOffColons (bounds : List Expr) (depth : Nat) : Bool :=
  depth ≤ 1 && 1 < (bounds.filter fun b => !isMissing b).length && bounds.any isOperation

/-- Writes the bounds of a slice; `blanks` says whether colons are set off. -/
def putBounds (blanks : Bool) (depth : Nat) (previous : Option Bool) : List (Bool × Laid) → Put Unit
  | [] => return ()
  | (absent, b) :: rest => do
    match previous with
    | none => pure ()
    | some before =>
      if blanks && !before then space .blank
      symbol ":"
      if blanks && !absent then space .blank
    if !absent then b.put 0 (depth + 1)
    putBounds blanks depth (some absent) rest

/-- Writes the arguments of a call with their brackets. -/
def putArguments (args : List Laid) (depth : Nat) (lparen dots rparen : Pos) : Put Unit := do
  goTo lparen
  symbol "("
  if dots != 0 then
    putList lparen args depth false false dots
    goTo dots
    symbol "..."
    if (← lineOf dots) < (← lineOf rparen) then
      symbol ","
      space .sectionBreak
  else putList lparen args depth true false rparen
  goTo rparen
  symbol ")"

/-- Writes elements with their braces. Comments before the closing brace stay on its line. -/
def putElements (elems : List Laid) (lbrace rbrace : Pos) : Put Unit := do
  modify fun p => { p with level := p.level + 1 }
  goTo lbrace
  symbol "\x7b"
  putList lbrace elems 1 true false rbrace
  space .indent
  space .unindent
  let before ← get
  set { before.noteOpening with
    noExtraBreak := !before.noExtraBreak
    noExtraBlank := if elems.isEmpty then before.noExtraBlank else !before.noExtraBlank }
  goTo rbrace
  symbol "\x7d"
  modify fun p => { p.noteOpening with
    noExtraBreak := before.noExtraBreak
    noExtraBlank := before.noExtraBlank
    level := p.level - 1 }

/-- Writes an operator and its operands. -/
def putOperation (x y : Laid) (opPos : Pos) (op : String) (blanks : Bool) (depth left : Nat) :
    Put Unit := do
  let strength := Parser.precedence op
  x.put strength left
  if blanks then space .blank
  let before := (← get).spot.line
  let after ← lineOf y.pos
  goTo opPos
  symbol op
  let n ← if before != after && 0 < before && 0 < after then lineBreak after 1 .indent true else pure 0
  if blanks && n == 0 then space .blank
  y.put (strength + 1) (depth + 1)
  if 0 < n then space .unindent

end TaggedUnion.Layout
