import TaggedUnion.Layout.Columns
import TaggedUnion.Text.Letter
import TaggedUnion.Text.Space

/-!
# Build lines

A *build line* is a comment that says under which tags a file is built. There is a newer form with an
expression, `//go:build a && !b`, and an older one, `// +build a,!b`, where the words of a line are
alternatives and several lines must all hold.

In a laid-out file all build lines stand together, in front of the package clause and the comment
right before it. If there is one line of the newer form, it is rewritten and decides what the older
ones say; without one it is made from them. Lines that cannot be read stay as they are.
-/

namespace TaggedUnion.Layout

/-- What the tags of a build must satisfy. -/
inductive BuildExpr
  | tag (name : String)
  | not (x : BuildExpr)
  | and (x y : BuildExpr)
  | or (x y : BuildExpr)
deriving Repr, DecidableEq

namespace BuildExpr

/-- A text in brackets. -/
def bracketed (weak : Bool) (text : String) : String :=
  if weak then "(" ++ text ++ ")" else text

/-- Whether the expression is of the first form. -/
def isAnd : BuildExpr → Bool
  | and _ _ => true
  | _ => false

/-- Whether alternatives are given. -/
def isOr : BuildExpr → Bool
  | or _ _ => true
  | _ => false

/-- The text of an expression. Brackets stand wherever the two operators meet. -/
def text : BuildExpr → String
  | tag name => name
  | not x => "!" ++ bracketed (x.isAnd || x.isOr) x.text
  | and x y => bracketed x.isOr x.text ++ " && " ++ bracketed y.isOr y.text
  | or x y => bracketed x.isAnd x.text ++ " || " ++ bracketed y.isAnd y.text

/-- An equivalent expression that negates nothing but tags. -/
def pushNot (negated : Bool) : BuildExpr → BuildExpr
  | tag name => if negated then not (tag name) else tag name
  | not x => x.pushNot !negated
  | and x y =>
    if negated then or (x.pushNot true) (y.pushNot true) else and (x.pushNot false) (y.pushNot false)
  | or x y =>
    if negated then and (x.pushNot true) (y.pushNot true) else or (x.pushNot false) (y.pushNot false)

/-- What must hold together. -/
def conjuncts : BuildExpr → List BuildExpr
  | and x y => x.conjuncts ++ y.conjuncts
  | x => [x]

/-- What of which one must hold. -/
def disjuncts : BuildExpr → List BuildExpr
  | or x y => x.disjuncts ++ y.disjuncts
  | x => [x]

/-- Whether the expression is a tag or a negated tag. -/
def isLiteral : BuildExpr → Bool
  | tag _ | not _ => true
  | _ => false

/-- The lines of the older form: each a list of alternatives, which are lists of literals. There are
none if alternatives are nested deeper. -/
def clauses? (x : BuildExpr) : Option (List (List (List BuildExpr))) :=
  let split := (x.pushNot false).conjuncts.map fun line => line.disjuncts.map conjuncts
  if split.all fun line => line.all fun clause => clause.all isLiteral then
    if split.all fun line => line.length ≤ 1 then some [[split.flatten.flatten]] else some split
  else none

/-- The build lines of the older form for an expression. -/
def olderLines (x : BuildExpr) : List String :=
  match x.clauses? with
  | none => ["// +build error: expression too complex for // +build lines"]
  | some lines => lines.map fun line =>
    "// +build" ++ String.join (line.map fun clause => " " ++ ",".intercalate (clause.map text))

end BuildExpr

/-! ## The newer form -/

/-- A token of an expression. -/
inductive BuildToken
  | symbol (text : String)
  | tag (name : String)
  /-- Something that is no token; nothing after it is read. -/
  | invalid
deriving Repr, DecidableEq

/-- Whether a character can be part of a tag. -/
def isTagChar (c : Char) : Bool :=
  Text.isLetter c || Text.isDigit c || c == '_' || c == '.'

/-- The tokens of a text. -/
def buildTokens : Nat → List Char → List BuildToken
  | 0, _ => []
  | _, [] => []
  | n + 1, c :: rest =>
    if c == ' ' || c == '\t' then buildTokens n rest
    else if c == '(' || c == ')' || c == '!' then .symbol (String.singleton c) :: buildTokens n rest
    else if c == '&' || c == '|' then
      if rest.head? == some c then .symbol (String.ofList [c, c]) :: buildTokens n (rest.drop 1)
      else [.invalid]
    else if isTagChar c then
      .tag (String.ofList ((c :: rest).takeWhile isTagChar)) ::
        buildTokens n ((c :: rest).dropWhile isTagChar)
    else [.invalid]

/-- The tokens after the first one; the next of them must not be invalid. -/
def afterFirst (ts : List BuildToken) : Option (List BuildToken) :=
  match ts.drop 1 with
  | .invalid :: _ => none
  | rest => some rest

mutual

/-- Reads alternatives. -/
def readOr : Nat → List BuildToken → Option (BuildExpr × List BuildToken)
  | 0, _ => none
  | n + 1, ts => do
    let (x, rest) ← readAnd n ts
    moreOr n x rest

/-- Reads the alternatives after one. -/
def moreOr : Nat → BuildExpr → List BuildToken → Option (BuildExpr × List BuildToken)
  | 0, _, _ => none
  | n + 1, x, ts =>
    if ts.head? == some (.symbol "||") then do
      let (y, rest) ← readAnd n (← afterFirst ts)
      moreOr n (.or x y) rest
    else some (x, ts)

/-- Reads what must hold together. -/
def readAnd : Nat → List BuildToken → Option (BuildExpr × List BuildToken)
  | 0, _ => none
  | n + 1, ts => do
    let (x, rest) ← readNot n ts
    moreAnd n x rest

/-- Reads what else must hold. -/
def moreAnd : Nat → BuildExpr → List BuildToken → Option (BuildExpr × List BuildToken)
  | 0, _, _ => none
  | n + 1, x, ts =>
    if ts.head? == some (.symbol "&&") then do
      let (y, rest) ← readNot n (← afterFirst ts)
      moreAnd n (.and x y) rest
    else some (x, ts)

/-- Reads a tag or an expression in brackets, which may be negated once. -/
def readNot : Nat → List BuildToken → Option (BuildExpr × List BuildToken)
  | 0, _ => none
  | n + 1, ts =>
    if ts.head? == some (.symbol "!") then do
      let (x, rest) ← readAtom n (← afterFirst ts)
      return (.not x, rest)
    else readAtom n ts

/-- Reads a tag or an expression in brackets. -/
def readAtom : Nat → List BuildToken → Option (BuildExpr × List BuildToken)
  | 0, _ => none
  | n + 1, ts =>
    match ts with
    | .tag name :: _ => do return (.tag name, ← afterFirst ts)
    | .symbol "(" :: _ => do
      let (x, rest) ← readOr n (← afterFirst ts)
      if rest.head? == some (.symbol ")") then return (x, ← afterFirst rest) else none
    | _ => none

end

/-- The most tags and opening brackets that an expression may have. -/
def newerLimit : Nat := 1000

/-- Whether a token starts an operand. -/
def BuildToken.isOperand : BuildToken → Bool
  | tag _ => true
  | symbol s => s == "("
  | invalid => false

/-- The expression at the start of a text. -/
def readBuild? (cs : List Char) : Option BuildExpr := do
  let ts := buildTokens (cs.length + 1) cs
  let (x, rest) ← readOr (6 * ts.length + 8) ts
  guard ((ts.take (ts.length - rest.length)).countP BuildToken.isOperand ≤ newerLimit)
  return x

/-! ## The older form -/

/-- A literal of the older form; one that is no tag stands for a tag that is never set. -/
def olderLiteral (cs : List Char) : BuildExpr :=
  let valid := fun name : List Char =>
    if !name.isEmpty && name.all isTagChar then BuildExpr.tag (String.ofList name) else .tag "ignore"
  match cs with
  | '!' :: '!' :: _ => .tag "ignore"
  | ['!'] => .tag "ignore"
  | '!' :: name => .not (valid name)
  | name => valid name

/-- Puts expressions together. -/
def joined (join : BuildExpr → BuildExpr → BuildExpr) : List BuildExpr → BuildExpr
  | [] => .tag "ignore"
  | x :: rest => rest.foldl join x

/-- The most operators that a line of the older form may have. -/
def olderLimit : Nat := 100

/-- The expression of a line of the older form. -/
def readOlder? (cs : List Char) : Option BuildExpr :=
  let clauses := (Text.fields cs).map fun clause => (Text.splitAt ',' clause).map olderLiteral
  if olderLimit < clauses.flatten.length - 1 then none
  else some (joined .or (clauses.map (joined .and)))

/-! ## Lines -/

/-- What follows a word at the start of a text, if white space or nothing comes right after it. -/
def afterWord? (word : String) (cs : List Char) : Option (List Char) :=
  if word.toList.isPrefixOf cs then
    let rest := cs.drop word.length
    if rest.isEmpty || (rest.head?.map Text.isSpace).getD false then some (Text.trim rest) else none
  else none

/-- The expression of a comment that is a build line of the newer form. -/
def newerText? (comment : List Char) : Option (List Char) :=
  if "//go:build".toList.isPrefixOf comment then afterWord? "//go:build" (Text.trim comment) else none

/-- The text of a comment that is a build line of the older form. -/
def olderText? (comment : List Char) : Option (List Char) :=
  if "//".toList.isPrefixOf comment then afterWord? "+build" (Text.trim (comment.drop 2)) else none

/-- What a build line of either form says. -/
def readComment? (comment : List Char) : Option BuildExpr :=
  match newerText? comment with
  | some cs => readBuild? cs
  | none => (olderText? comment).bind readOlder?

/-- The number of marks from a place on the tape up to the end of the line. -/
def lineSize (marks : List Mark) : Nat :=
  (marks.takeWhile (!·.isBreak)).length + ((marks.dropWhile (!·.isBreak)).take 1).length

/-- The comment at the start of a tape, up to the end of its line. -/
def commentAt (marks : List Mark) : List Char :=
  let marks := if marks.head? == some .fence then marks.drop 1 else marks
  (marks.takeWhile fun m => m != .fence && !m.isBreak).filterMap fun
    | .char c => some c
    | .fence => none

/-- Whether a tape goes on with a comment that ends with its line. -/
def startsComment : List Mark → Bool
  | .fence :: .char '/' :: .char '/' :: _ :: _ => true
  | _ => false

/-- The number of marks up to the last empty line among the comments at the start; `read` marks have
been read, and the last empty line found so far ends at `found`. -/
def headEnd (read found : Nat) : Nat → List Mark → Nat
  | 0, _ => found
  | n + 1, marks =>
    let bare := marks.dropWhile fun m => m == .char ' ' || m == .char '\t'
    let isComment := startsComment bare
    let rest := if isComment then bare.dropWhile (!·.isBreak) else bare
    match rest with
    | m :: after =>
      if m.isBreak then
        let read := read + (marks.length - after.length)
        headEnd read (if isComment then found else read) n after
      else found
    | [] => found

/-- Appends lines without doubling empty ones. -/
def appendLines (xs ys : List Mark) : List Mark :=
  let endsEmpty := match xs.reverse with
    | [] => true
    | [_] => false
    | a :: b :: _ => a.isBreak && b.isBreak
  match ys with
  | y :: rest => if y.isBreak && endsEmpty then xs ++ rest else xs ++ ys
  | [] => xs

/-- Appends what is on the tape from a place on, without the lines that start at the given places, which
are sorted. -/
def withoutLines (tape done : List Mark) (start : Nat) : List Nat → List Mark
  | [] => appendLines done (tape.drop start)
  | place :: rest =>
    if place < start then withoutLines tape done start rest
    else
      withoutLines tape (appendLines done ((tape.take place).drop start))
        (place + lineSize (tape.drop place)) rest

/-- The places of the build lines on a tape. -/
structure BuildPlaces where
  /-- Those of the newer form. -/
  newer : List Nat := []
  older : List Nat := []
deriving Repr

/-- The expression that build lines agree on. -/
def agreed? (tape : List Mark) (places : BuildPlaces) : Option BuildExpr :=
  let read := fun place => readComment? (commentAt (tape.drop place))
  match places.newer with
  | [] => (places.older.mapM read).map (joined .and)
  | [place] => read place
  | _ => none

/-- A comment on a line of its own. -/
def commentLine (text : String) : List Mark :=
  fenced text ++ [.char lineEnd]

/-- The lines that the build lines are replaced by. -/
def buildBlock (tape : List Mark) (places : BuildPlaces) : List Mark :=
  let line := fun place =>
    let rest := tape.drop place
    rest.take (lineSize rest)
  match agreed? tape places with
  | none => (places.newer ++ places.older).flatMap line ++ [.char lineEnd]
  | some x =>
    commentLine ("//go:build " ++ x.text) ++
      (if places.older.isEmpty then [] else x.olderLines.flatMap commentLine) ++ [.char lineEnd]

/-- Brings all build lines together, given their places, in order. -/
def gatherBuildLines (places : BuildPlaces) (tape : List Mark) : List Mark :=
  let all := (places.newer ++ places.older).mergeSort
  if all.isEmpty then tape
  else
    let head := headEnd 0 0 (tape.length + 1) tape
    let before := fun place : Nat => if place < head then some place else none
    let start := ((places.newer.head?.bind before).or (places.older.head?.bind before)).getD head
    let after := withoutLines tape [] start all
    let after := match after.reverse with
      | a :: b :: rest => if a.isBreak && b.isBreak then (b :: rest).reverse else after
      | _ => after
    tape.take start ++ buildBlock tape places ++ after

end TaggedUnion.Layout
