import TaggedUnion.Layout.Laid

/-!
# Parts of statements

How the parts of statements are written with a pen: blocks, heads and declarations. Statements stand on
lines of their own, indented by tabs. The body of a function stays on the line of its head if its braces
are on one line in the source and there is little in it.
-/

namespace TaggedUnion.Layout

open Source Syntax

/-- A specification to be written. -/
structure LaidSpec where
  head : SpecHead
  params : List LaidGroup
  type : Option Laid
  values : List Laid

/-- A statement to be written. -/
structure LaidStatement where
  pos : Pos
  /-- Writes it; `last` says whether a closing brace comes next. -/
  put : (last : Bool) → Put Unit
  /-- Writes it as the last part of a head. -/
  head : Put Unit
  isEmpty : Bool := false
  /-- How many labels are in front of it. -/
  labels : Nat := 0
  /-- Its size on one line, if it fits. -/
  size : Thunk (Option Nat)
  spec? : Option LaidSpec := none

/-- A statement to be written without further ado. -/
def LaidStatement.of (files : FileSet) (pos : Pos) (put : (last : Bool) → Put Unit) :
    LaidStatement :=
  { pos
    put := fun last => do goTo pos; put last
    head := do goTo pos; put false
    size := Thunk.mk fun _ => measure files do goTo pos; put false }

/-! ## Blocks -/

/-- Writes statements on lines of their own, from the one with number `i` of `count` on. The first one and
those after one that spans lines start a section, or all of them if `apart` holds. `last` says whether a
closing brace follows. -/
def putLines (apart last : Bool) (count i : Nat) (long : Bool) : List LaidStatement → Put Unit
  | [] => return ()
  | s :: rest =>
    if s.isEmpty then putLines apart last count i long rest
    else do
      let _ ← lineBreak (← lineOf s.pos) 1 .ignore (apart || long)
      let breaks ← breaksIn (s.put (last && i + 1 == count))
      putLines apart last count (i + 1) (s.labels < breaks) rest

/-- Writes statements that are not indented; each of them is a section. -/
def putApart (statements : List LaidStatement) : Put Unit :=
  putLines true true statements.length 0 true statements

/-- Writes indented statements. -/
def putIndented (last : Bool) (statements : List LaidStatement) : Put Unit := do
  space .indent
  putLines false last statements.length 0 true statements
  space .unindent

/-- Writes a block with its braces. -/
def putBlock (lbrace rbrace : Pos) (body : Put Unit) : Put Unit := do
  goTo lbrace
  symbol "\x7b"
  body
  let _ ← lineBreak (← lineOf rbrace) 1 .ignore true
  goTo rbrace
  symbol "\x7d"

/-- Functions longer than this are not written on one line. -/
def bodyLimit : Nat := 100

/-- Bodies of more statements than this are not written on one line. -/
def flatStatements : Nat := 5

/-- The size of a body on one line, if it may stand on one. -/
def bodySize? (lbrace rbrace : Pos) (body : List LaidStatement) : Put (Option Nat) := do
  let comments ← commentSizeBefore rbrace
  if (← lineOf lbrace) != (← lineOf rbrace) || flatStatements < body.length then return none
  let sizes := body.mapM (·.size.get)
  return sizes.map fun ns => ns.foldl (· + ·) comments + 2 * (body.length - 1)

/-- Writes statements on one line. -/
def putJoined : List LaidStatement → Put Unit
  | [] => return ()
  | [s] => s.put true
  | s :: rest => do
    s.put false
    symbol ";"
    space .blank
    putJoined rest

/-- Writes the body of a function, whose head has the given size if it is on one line. -/
def putBody (header : Option Nat) (lbrace rbrace : Pos) (body : List LaidStatement) : Put Unit := do
  let level := (← get).level
  modify fun p => { p with level := 0 }
  let size ← bodySize? lbrace rbrace body
  let fits := (header.bind fun h => size.map (h + ·)).any (· ≤ bodyLimit)
  space .blank
  if fits then
    goTo lbrace
    symbol "\x7b"
    if !body.isEmpty then
      space .blank
      putJoined body
      space .blank
    let before := (← get).noExtraBreak
    modify fun p => { p.noteOpening with noExtraBreak := !before }
    goTo rbrace
    symbol "\x7d"
    modify fun p => { p.noteOpening with noExtraBreak := before }
  else putBlock lbrace rbrace (putIndented true body)
  modify fun p => { p with level }

/-! ## Heads -/

/-- Writes the head of a statement after its keyword. A loop has all semicolons or none. -/
def putHead (isLoop : Bool) (first test after : LaidStatement) : Put Unit := do
  space .blank
  if first.isEmpty && after.isEmpty then
    if !test.isEmpty then
      test.head
      space .blank
  else
    if !first.isEmpty then first.put false
    symbol ";"
    space .blank
    if !test.isEmpty then test.head
    if isLoop then
      symbol ";"
      space .blank
      if !after.isEmpty then
        after.put false
        space .blank
    else if !test.isEmpty then space .blank

/-- Whether results are indented where they are broken into lines: one does not start on the line on
which the one before ends, or several span lines. -/
def indentsResults (results : List Laid) : Put Bool := do
  match results with
  | [] | [_] => return false
  | first :: _ =>
    let lines ← results.mapM fun x => do return (← lineOf x.pos, ← lineOf x.stop)
    let start ← lineOf first.pos
    let stop := (lines.getLast?.map (·.2)).getD 0
    if start == 0 || stop ≤ start then return false
    let ends := start :: lines.map (·.2)
    return (ends.zip lines).any (fun (before, l) => before < l.1) ||
      1 < (lines.filter fun l => l.1 < l.2).length

/-- Writes results after the keyword. -/
def putResults (results : List Laid) : Put Unit := do
  if results.isEmpty then return ()
  space .blank
  if ← indentsResults results then
    space .indent
    putList 0 results 1 false true 0
    space .unindent
  else putList 0 results 1 false false 0

/-- Writes the targets of a loop over a value and what stands between them and it. -/
def putTargets (opPos : Pos) (op : String) : List Laid → Put Unit
  | [] => return ()
  | key :: rest => do
    key.put 0 1
    for value in rest do
      goTo value.pos
      symbol ","
      space .blank
      value.put 0 1
    space .blank
    goTo opPos
    symbol op
    space .blank

/-! ## Declarations -/

variable (files : FileSet)

/-- Whether values that come one after the other keep a column for types: one of them has one. -/
def keptColumns (specs : List LaidSpec) : List Bool :=
  (specs.splitBy fun a b => a.values.isEmpty == b.values.isEmpty).flatMap fun run =>
    run.map fun s => !s.values.isEmpty && run.any (·.type.isSome)

/-- Writes a specification whose parts do not line up with others. -/
def putSpec (several isAlone isType : Bool) (s : LaidSpec) : Put Unit := do
  attach s.head.doc
  if isType then
    for id in s.head.names do
      goTo id.pos
      name id.name
    if !s.params.isEmpty then putParamList files "[" "]" 0 0 s.params
    space (if several then .cell else .blank)
    if s.head.assign != 0 then
      symbol "="
      space .blank
    match s.type with
    | some t => t.put 0 1
    | none => pure ()
  else
    putNames files s.head.names (!isAlone)
    match s.type with
    | some t =>
      space .blank
      t.put 0 1
    | none => pure ()
    if !s.values.isEmpty then
      space .blank
      symbol "="
      space .blank
      putList 0 s.values 1 false false 0
  attach s.head.comment

/-- Writes a specification of values whose parts line up with others. -/
def putColumns (keepType : Bool) (s : LaidSpec) : Put Unit := do
  attach s.head.doc
  putNames files s.head.names true
  let typed := s.type.isSome || keepType
  if typed then space .cell
  match s.type with
  | some t => t.put 0 1
  | none => pure ()
  if !s.values.isEmpty then
    space .cell
    symbol "="
    space .blank
    putList 0 s.values 1 false false 0
  if s.head.comment.isSome then
    let cells := 3 - (if typed then 1 else 0) - (if s.values.isEmpty then 0 else 1)
    for _ in List.range cells do
      space .cell
    attach s.head.comment

/-- Writes specifications on lines of their own. One that spans lines ends the section. -/
def putSpecLines (previous : Option Bool) : List (Pos × Put Unit) → Put Unit
  | [] => return ()
  | (pos, put) :: rest => do
    match previous with
    | none => pure ()
    | some long =>
      let _ ← lineBreak (← lineOf pos) 1 .ignore long
    let long ← spansLines put
    putSpecLines (some long) rest

/-- Writes a declaration after its keyword. -/
def putDeclaration (isType : Bool) (lparen rparen : Pos) (specs : List (Pos × LaidSpec)) :
    Put Unit := do
  match lparen, specs with
  | 0, [(_, s)] => putSpec files false true isType s
  | _, _ =>
    goTo lparen
    symbol "("
    if !specs.isEmpty then
      space .indent
      space .sectionBreak
      let several := 1 < specs.length
      let lines := if several && !isType then
          (specs.zip (keptColumns (specs.map (·.2)))).map fun ((pos, s), keep) =>
            (pos, putColumns files keep s)
        else specs.map fun (pos, s) => (pos, putSpec files several false isType s)
      putSpecLines none lines
      space .unindent
      space .sectionBreak
    goTo rparen
    symbol ")"

end TaggedUnion.Layout
