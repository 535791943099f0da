import TaggedUnion.Layout.Statement

/-!
# Layout of expressions and statements

Turns expressions and statements into what can be written with a pen, part by part: `lay` for
expressions, `layStatement` for statements. A part is laid out in the same way whatever it is a part of.
-/

namespace TaggedUnion.Layout

open Source Syntax

/-! ## Exposed values -/

/-- Whether an expression is a name, which may be qualified. -/
def isTypeName : Expr → Bool
  | .ident _ => true
  | .selector x _ => isTypeName x
  | _ => false

mutual

/-- Whether an expression has, outside of brackets, a value in braces after a type name. In front of a
block it would look like the block. -/
def exposes : Expr → Bool
  | .missing _ | .ident _ | .literal _ _ _ | .paren _ _ _ => false
  | .composite type _ _ _ => isTypeName type
  | .selector x _ => exposes x
  | .index x _ args _ => exposes x || anyExposes args
  | .slicing x _ bounds _ => exposes x || anyExposes bounds
  | .assertion x _ type _ => exposes x || exposes type
  | .call f _ args _ _ => exposes f || anyExposes args
  | .keyed key _ value => exposes key || exposes value
  | .closure type _ body _ => exposes type || bodyExposes body
  | .star _ x | .unary _ _ x => exposes x
  | .binary x _ _ y => exposes x || exposes y
  | .ellipsis _ elem | .slice _ elem | .chan _ _ _ elem => exposes elem
  | .array _ length elem => exposes length || exposes elem
  | .map _ key elem => exposes key || exposes elem
  | .func _ params _ _ results _ _ => groupExposes params || groupExposes results
  | .struct _ _ fields _ => groupExposes fields
  | .interface _ _ elems _ => groupExposes elems

/-- Whether a statement has such a value. -/
def statementExposes : Statement → Bool
  | .empty _ | .jump _ _ _ => false
  | .expr x | .step x _ _ | .start _ _ x => exposes x
  | .send channel _ value => exposes channel || exposes value
  | .assign targets _ _ values => anyExposes targets || anyExposes values
  | .ret _ results => anyExposes results
  | .block _ body _ => bodyExposes body
  | .labelled _ _ target => statementExposes target
  | .cond _ first test body otherwise =>
    statementExposes first || statementExposes test || statementExposes body ||
      statementExposes otherwise
  | .loop _ first test after body =>
    statementExposes first || statementExposes test || statementExposes after ||
      statementExposes body
  | .range _ targets _ _ x body => anyExposes targets || exposes x || statementExposes body
  | .choose _ _ first on _ clauses _ =>
    statementExposes first || statementExposes on || bodyExposes clauses
  | .clause _ values exchange _ body =>
    anyExposes values || statementExposes exchange || bodyExposes body
  | .declare _ _ _ _ specs _ => bodyExposes specs
  | .spec _ params type values => groupExposes params || exposes type || anyExposes values

/-- Whether one of several expressions has such a value. -/
def anyExposes : List Expr → Bool
  | [] => false
  | x :: rest => exposes x || anyExposes rest

/-- Whether one of several groups has such a value. -/
def groupExposes : List (GroupHead × Expr) → Bool
  | [] => false
  | (_, x) :: rest => exposes x || groupExposes rest

/-- Whether one of several statements has such a value. -/
def bodyExposes : List Statement → Bool
  | [] => false
  | s :: rest => statementExposes s || bodyExposes rest

end

/-! ## Layout -/

mutual

/-- An expression to be written. -/
def lay (files : FileSet) : Expr → Laid
  | .missing pos => .of files pos pos fun _ _ => return ()
  | .ident id => .ident files id
  | .literal pos kind text =>
    .of files pos (pos + text.utf8ByteSize) fun _ _ => do goTo pos; putLiteral kind text
  | .selector x sel =>
    let a := lay files x
    let put := fun depth => do
      goTo x.pos
      a.put highestStrength depth
      putSelected sel
    { Laid.of files x.pos sel.stop fun _ depth => do
        if ← put depth then space .unindent with
      callee := put }
  | .index x lbrack args rbrack =>
    let a := lay files x
    let as := layAll files args
    .of files x.pos (rbrack + 1) fun _ depth => do
      goTo x.pos
      a.put highestStrength 1
      goTo lbrack
      symbol "["
      match as with
      | [only] => only.put 0 (depth + 1)
      | as => putList lbrack as (depth + 1) true false rbrack
      goTo rbrack
      symbol "]"
  | .slicing x lbrack bounds rbrack =>
    let a := lay files x
    let bs := (bounds.map isMissing).zip (layAll files bounds)
    .of files x.pos (rbrack + 1) fun _ depth => do
      goTo x.pos
      a.put highestStrength 1
      goTo lbrack
      symbol "["
      putBounds (setsOffColons bounds depth) depth none bs
      goTo rbrack
      symbol "]"
  | .assertion x lparen type rparen =>
    let a := lay files x
    let t := lay files type
    .of files x.pos (rparen + 1) fun _ depth => do
      goTo x.pos
      a.put highestStrength depth
      symbol "."
      goTo lparen
      symbol "("
      if isMissing type then symbol "type" else t.put 0 1
      goTo rparen
      symbol ")"
  | .call f lparen args dots rparen =>
    let g := lay files f
    let as := layAll files args
    .of files f.pos (rparen + 1) fun _ depth => do
      let depth := if 1 < as.length then depth + 1 else depth
      goTo f.pos
      let brackets := needsBrackets f
      if brackets then symbol "("
      let indented ← g.callee depth
      if brackets then symbol ")"
      putArguments as depth lparen dots rparen
      if indented then space .unindent
  | .composite type lbrace elems rbrace =>
    let t := lay files type
    let es := layAll files elems
    let pos := if isMissing type then lbrace else type.pos
    .of files pos (rbrace + 1) fun _ depth => do
      goTo pos
      if !isMissing type then t.put highestStrength depth
      putElements es lbrace rbrace
  | .keyed key colon value =>
    let k := lay files key
    let v := lay files value
    let put : Put Unit := do
      goTo key.pos
      k.put 0 1
      goTo colon
      symbol ":"
      space .blank
      v.put 0 1
    { Laid.of files key.pos value.stop fun _ _ => put with
      pair? := some { key := k.put 0 1, keySize := k.size, colon, value := v.put 0 1 } }
  | .closure type lbrace body rbrace =>
    let t := lay files type
    let ss := layBody files body
    .of files type.pos (rbrace + 1) fun _ _ => do
      goTo type.pos
      symbol "func"
      let start := (← get).column - 4
      t.signature
      let pen ← get
      let onLine := pen.spot.line == (← lineOf type.pos)
      putBody (if onLine then some (pen.column - start) else none) lbrace rbrace ss
  | .star pos x =>
    let a := lay files x
    .of files pos x.stop fun strength _ => do
      goTo pos
      guarded (unaryStrength < strength) do
        symbol "*"
        a.put 0 1
  | .paren lparen x rparen =>
    let a := lay files x
    let nested := match x with
      | .paren _ _ _ => true
      | _ => false
    { Laid.of files lparen (rparen + 1) fun _ depth => do
        goTo lparen
        if nested then a.put 0 depth
        else
          symbol "("
          a.put 0 (reduced depth)
          goTo rparen
          symbol ")" with
      bare := a.bare
      head := if exposes x then do
          goTo lparen
          symbol "("
          a.put 0 1
          goTo rparen
          symbol ")"
        else a.head }
  | .unary pos op x =>
    let a := lay files x
    .of files pos x.stop fun strength depth => do
      goTo pos
      if unaryStrength < strength then
        symbol "("
        goTo pos
        symbol op
        a.put unaryStrength 1
        symbol ")"
      else
        symbol op
        a.put unaryStrength depth
  | .binary x opPos op y =>
    let a := lay files x
    let b := lay files y
    let p := Parser.precedence op
    .of files x.pos y.stop fun strength depth => do
      goTo x.pos
      let weak := p < strength
      let depth := if weak then reduced depth else depth
      let blanks := p < cutoff (.binary x opPos op y) depth
      guarded weak (putOperation a b opPos op blanks depth (depth + deeper x p))
  | .ellipsis pos elem =>
    let e := lay files elem
    let stop := if isMissing elem then pos + 3 else elem.stop
    .of files pos stop fun _ _ => do
      goTo pos
      symbol "..."
      if !isMissing elem then e.put 0 1
  | .slice pos elem =>
    let e := lay files elem
    .of files pos elem.stop fun _ _ => do
      goTo pos
      symbol "["
      symbol "]"
      e.put 0 1
  | .array pos length elem =>
    let n := lay files length
    let e := lay files elem
    .of files pos elem.stop fun _ _ => do
      goTo pos
      symbol "["
      n.put 0 1
      symbol "]"
      e.put 0 1
  | .map pos key elem =>
    let k := lay files key
    let e := lay files elem
    .of files pos elem.stop fun _ _ => do
      goTo pos
      symbol "map"
      symbol "["
      k.put 0 1
      symbol "]"
      e.put 0 1
  | .chan pos arrow direction elem =>
    let e := lay files elem
    .of files pos elem.stop fun _ _ => do
      goTo pos
      match direction with
      | .both => symbol "chan"
      | .receive =>
        symbol "<-"
        symbol "chan"
      | .send =>
        symbol "chan"
        goTo arrow
        symbol "<-"
      space .blank
      e.put 0 1
  | .func pos params lparen rparen results lresult rresult =>
    let ps := layGroups files params
    let rs := layGroups files results
    let signature := putSignature files ps lparen rparen rs lresult rresult
    let x := Expr.func pos params lparen rparen results lresult rresult
    { Laid.of files x.pos x.stop fun _ _ => do
        goTo x.pos
        symbol "func"
        signature with
      signature }
  | .struct pos lbrace fields rbrace =>
    let fs := layGroups files fields
    .of files pos (rbrace + 1) fun _ _ => do
      goTo pos
      symbol "struct"
      putFieldList files true lbrace rbrace fs
  | .interface pos lbrace elems rbrace =>
    let es := layGroups files elems
    .of files pos (rbrace + 1) fun _ _ => do
      goTo pos
      symbol "interface"
      putFieldList files false lbrace rbrace es

/-- A statement to be written. -/
def layStatement (files : FileSet) : Statement → LaidStatement
  | .empty pos => { LaidStatement.of files pos fun _ => return () with isEmpty := true }
  | .expr x =>
    let a := lay files x
    { LaidStatement.of files x.pos fun _ => a.put 0 1 with head := a.head }
  | .send channel arrow value =>
    let a := lay files channel
    let b := lay files value
    .of files channel.pos fun _ => do
      a.put 0 1
      space .blank
      goTo arrow
      symbol "<-"
      space .blank
      b.put 0 1
  | .step x opPos op =>
    let a := lay files x
    .of files x.pos fun _ => do
      a.put 0 2
      goTo opPos
      symbol op
  | .assign targets opPos op values =>
    let as := layAll files targets
    let bs := layAll files values
    let pos := (as.head?.map (·.pos)).getD opPos
    let depth := if 1 < as.length && 1 < bs.length then 2 else 1
    .of files pos fun _ => do
      putList pos as depth false false opPos
      space .blank
      goTo opPos
      symbol op
      space .blank
      putList opPos bs depth false false 0
  | .start pos keyword call =>
    let a := lay files call
    .of files pos fun _ => do
      symbol keyword
      space .blank
      a.put 0 1
  | .ret pos results =>
    let as := layAll files results
    .of files pos fun _ => do
      symbol "return"
      putResults as
  | .jump pos keyword label =>
    .of files pos fun _ => do
      symbol keyword
      match label with
      | some id =>
        space .blank
        goTo id.pos
        name id.name
      | none => pure ()
  | .block lbrace body rbrace =>
    let ss := layBody files body
    .of files lbrace fun _ => putBlock lbrace rbrace (putIndented true ss)
  | .labelled label colon target =>
    let t := layStatement files target
    { LaidStatement.of files label.pos fun last => do
        space .unindent
        goTo label.pos
        name label.name
        goTo colon
        symbol ":"
        space .indent
        if !t.isEmpty then
          let _ ← lineBreak (← lineOf t.pos) 1 .ignore true
          t.put last
        else if !last then
          space .newline
          goTo t.pos
          symbol ";" with
      labels := t.labels + 1 }
  | .cond pos first test body otherwise =>
    let first := layStatement files first
    let test := layStatement files test
    let body := layStatement files body
    let otherwise := layStatement files otherwise
    .of files pos fun last => do
      symbol "if"
      putHead false first test { first with isEmpty := true }
      body.put true
      if !otherwise.isEmpty then
        space .blank
        symbol "else"
        space .blank
        otherwise.put last
  | .loop pos first test after body =>
    let first := layStatement files first
    let test := layStatement files test
    let after := layStatement files after
    let body := layStatement files body
    .of files pos fun _ => do
      symbol "for"
      putHead true first test after
      body.put true
  | .range pos targets opPos op x body =>
    let ts := layAll files targets
    let a := lay files x
    let body := layStatement files body
    .of files pos fun _ => do
      symbol "for"
      space .blank
      putTargets opPos op ts
      symbol "range"
      space .blank
      a.head
      space .blank
      body.put true
  | .choose pos keyword first on lbrace clauses rbrace =>
    let first := layStatement files first
    let on := layStatement files on
    let cs := layBody files clauses
    .of files pos fun _ => do
      symbol keyword
      if keyword == "select" then
        space .blank
        if cs.isEmpty && !(← commentsBefore rbrace) then
          goTo lbrace
          symbol "\x7b"
          goTo rbrace
          symbol "\x7d"
        else putBlock lbrace rbrace (putApart cs)
      else
        putHead false first on { first with isEmpty := true }
        putBlock lbrace rbrace (putApart cs)
  | .clause pos values exchange colon body =>
    let vs := layAll files values
    let e := layStatement files exchange
    let ss := layBody files body
    .of files pos fun last => do
      if vs.isEmpty && e.isEmpty then symbol "default"
      else
        symbol "case"
        space .blank
        if e.isEmpty then putList pos vs 1 false false colon else e.put false
      goTo colon
      symbol ":"
      putIndented last ss
  | .declare pos keyword doc lparen specs rparen =>
    let ss := layBody files specs
    .of files pos fun _ => do
      attach doc
      goTo pos
      symbol keyword
      space .blank
      putDeclaration files (keyword == "type") lparen rparen
        (ss.filterMap fun s => s.spec?.map fun spec => (s.pos, spec))
  | .spec head params type values =>
    let ps := layGroups files params
    let t := if isMissing type then none else some (lay files type)
    let vs := layAll files values
    let pos := (head.names.head?.map Ident.pos).getD type.pos
    { LaidStatement.of files pos fun _ => return () with
      spec? := some { head, params := ps, type := t, values := vs } }

/-- Expressions to be written. -/
def layAll (files : FileSet) : List Expr → List Laid
  | [] => []
  | x :: rest => lay files x :: layAll files rest

/-- Groups to be written. -/
def layGroups (files : FileSet) : List (GroupHead × Expr) → List LaidGroup
  | [] => []
  | (head, x) :: rest =>
    { head, pos := groupPos (head, x), stop := groupStop (head, x), type := lay files x } ::
      layGroups files rest

/-- Statements to be written. -/
def layBody (files : FileSet) : List Statement → List LaidStatement
  | [] => []
  | s :: rest => layStatement files s :: layBody files rest

end

/-- The text of an expression that stands in the given files. -/
def exprText (files : FileSet) (x : Expr) : String :=
  render (finish files {} ((lay files x).put 0 1))

end TaggedUnion.Layout
