import TaggedUnion.Layout.BuildLine
import TaggedUnion.Layout.Prose
import TaggedUnion.Layout.Remark

/-!
# The pen

A *pen* writes words in one fixed style. It knows where the words and comments stand in the source, and
follows the source in two respects: comments go between the words they stand between, and where words stand
on different lines, the line may be broken again, with at most one empty line in between.

White space is put off until the next word, because comments in front of that word may take its
place. A comment that ends a line is set off by a tab, one between words of a line by a blank, and a
comment on lines of its own keeps its distance from the line before.
-/

namespace TaggedUnion.Layout

open Source

/-- A place in the source, by byte, line and column; line 0 is no place. -/
structure Spot where
  offset : Nat := 0
  line : Nat := 0
  column : Nat := 0
deriving Repr, DecidableEq

/-- Where a place is, line marks apart. -/
def spotOf (files : FileSet) (p : Pos) : Spot :=
  match files.file? p with
  | none => {}
  | some f =>
    let raw := f.rawPosition (p - f.base)
    ⟨raw.offset, raw.line.toNat, raw.column.toNat⟩

/-- More than any offset or line. -/
def farAway : Nat := 1073741824

/-- The place after everything. -/
def Spot.ending : Spot := { offset := farAway, line := farAway }

/-- White space that is put off. -/
inductive Space
  /-- None; stands for white space that was dropped. -/
  | ignore
  | blank
  /-- The end of a cell. -/
  | cell
  | newline
  | sectionBreak
  | indent
  | unindent
deriving Repr, DecidableEq

/-- Whether it is a line break. -/
def Space.isBreak : Space → Bool
  | newline | sectionBreak => true
  | _ => false

/-- What sort of word was written last. -/
inductive LastWord
  /-- None, or white space came after it. -/
  | none
  | symbol (text : String)
  | integer
  | other
deriving Repr, DecidableEq

/-- The state of a pen. -/
structure Pen where
  /-- What is written, last mark first. -/
  marks : List Mark := []
  /-- Where build lines are on the tape. -/
  builds : BuildPlaces := {}
  indent : Nat := 0
  /-- White space that is put off. -/
  pending : List Space := []
  /-- The place in the source. -/
  spot : Spot := ⟨0, 1, 1⟩
  /-- The place after the last word or comment. -/
  last : Spot := {}
  /-- The line that is written, and the next column in it. -/
  line : Nat := 1
  column : Nat := 1
  /-- Whether nothing is lined up up to the end of the line. -/
  unaligned : Bool := false
  /-- Whether a line break would end the statement. -/
  endsStatement : Bool := false
  lastWord : LastWord := .none
  /-- The opening bracket right before the last word. -/
  opening : LastWord := .none
  /-- How deep the words are within values in braces. -/
  level : Nat := 0
  /-- Whether no blank or line break is added after comments. -/
  noExtraBlank : Bool := false
  noExtraBreak : Bool := false
  /-- The comments that are still to be written. -/
  comments : List (List Comment) := []
  /-- Whether comments come with the parts they belong to, instead of all at once. -/
  attached : Bool := true
  /-- Whether the line of the next word is asked for, and the lines that were. -/
  noting : Bool := false
  noted : List Nat := []
  /-- Whether numbers are written in the fixed style. -/
  normal : Bool := true
deriving Repr

namespace Pen

/-! ## Marks -/

/-- Moves on by a number of bytes on the same line. -/
def advance (p : Pen) (n : Nat) : Pen :=
  { p with
    spot := { p.spot with offset := p.spot.offset + n, column := p.spot.column + n }
    column := p.column + n }

/-- Writes the indentation of a line that has not begun. -/
def begin (p : Pen) : Pen :=
  if p.column == 1 then
    { p with marks := fill hardEnd p.indent ++ p.marks }.advance p.indent
  else p

/-- Writes line breaks. -/
def breakLines (p : Pen) (c : Char) (n : Nat) : Pen :=
  let p := p.begin
  { p with
    marks := fill c n ++ p.marks
    spot := { offset := p.spot.offset + n, line := p.spot.line + n, column := 1 }
    line := p.line + n
    column := 1 }

/-- Writes white space. If nothing is lined up, cells end with blanks and the line ends its section. -/
def writeSpace (p : Pen) (c : Char) (n : Nat) : Pen :=
  if c == lineEnd || c == sectionEnd then
    if p.unaligned then breakLines { p with unaligned := false } sectionEnd n else p.breakLines c n
  else
    let c := if p.unaligned then ' ' else c
    let p := p.begin
    { p with marks := fill c n ++ p.marks }.advance n

/-- Writes text that stands at the given place in the source; a `fixed` one is to stay as it is. -/
def writeText (p : Pen) (spot : Spot) (fixed : Bool) (text : List Char) : Pen :=
  let p := p.begin
  let p := if spot.line == 0 then p else { p with spot }
  let fences : List Mark := if fixed then [.fence] else []
  let bytes := fun cs : List Char => cs.foldl (fun n c => n + c.utf8Size) 0
  let isBreak := fun c : Char => c == lineEnd || c == sectionEnd
  let lines := text.countP isBreak
  let p := { p with marks := fences ++ (text.map Mark.char).reverse ++ fences ++ p.marks }
  let p :=
    if lines == 0 then p.advance (bytes text)
    else
      let tail := bytes (text.reverse.takeWhile (!isBreak ·)) + 1
      { p with
        spot := ⟨p.spot.offset + bytes text, p.spot.line + lines, tail⟩
        line := p.line + lines
        column := tail
        unaligned := true }
  { p with last := p.spot }

/-- Writes white space that was put off. A line break directly before a change back of the indentation
comes after it, and ends the section. -/
def writePending (p : Pen) : List Space → Pen
  | [] => p
  | .ignore :: rest => p.writePending rest
  | .blank :: rest => (p.writeSpace ' ' 1).writePending rest
  | .cell :: rest => (p.writeSpace softEnd 1).writePending rest
  | .indent :: rest => { p with indent := p.indent + 1 }.writePending rest
  | .unindent :: rest => { p with indent := p.indent - 1 }.writePending rest
  | .newline :: .unindent :: rest =>
    { p with indent := p.indent - 1 }.writePending (.sectionBreak :: rest)
  | .sectionBreak :: .unindent :: rest =>
    { p with indent := p.indent - 1 }.writePending (.sectionBreak :: rest)
  | .newline :: rest => (p.writeSpace lineEnd 1).writePending rest
  | .sectionBreak :: rest => (p.writeSpace sectionEnd 1).writePending rest
termination_by spaces => spaces.length

/-- Writes the first entries of the white space that was put off. -/
def settle (p : Pen) (n : Nat) : Pen :=
  { p with pending := p.pending.drop n }.writePending (p.pending.take n)

/-! ## Comments -/

/-- Whether comments have a line break among them or at their end. -/
def spanLines (files : FileSet) (group : List Comment) : Bool :=
  match group with
  | [] => false
  | first :: _ =>
    let line := (spotOf files first.pos).line
    group.any fun c =>
      (spotOf files c.pos).line != line || c.text.startsWith "//" || c.text.contains '\n'

/-- Whether a group of comments comes before a place, and does not end a statement. -/
def comesBefore (p : Pen) (files : FileSet) (group : List Comment) (next : Spot) : Bool :=
  match group with
  | [] => false
  | first :: _ =>
    (spotOf files first.pos).offset < next.offset && (!p.endsStatement || !spanLines files group)

/-- Whether comments are to be written before a place. -/
def hasCommentBefore (p : Pen) (files : FileSet) (next : Spot) : Bool :=
  match p.comments with
  | [] => false
  | group :: _ => p.comesBefore files group next

/-- White space before a comment on the same line: blanks are dropped, and the number of entries to be
written is that of those up to a line break. Also returns whether cells end. -/
def spaceOnLine (i : Nat) : List Space → List Space × Nat × Bool
  | [] => ([], 0, false)
  | .blank :: rest =>
    let (ws, n, ends) := spaceOnLine (i + 1) rest
    (.ignore :: ws, n, ends)
  | .cell :: rest =>
    let (ws, n, _) := spaceOnLine (i + 1) rest
    (.cell :: ws, n, true)
  | .indent :: rest =>
    let (ws, n, ends) := spaceOnLine (i + 1) rest
    (.indent :: ws, n, ends)
  | ws => (ws, i, false)

/-- White space before a comment on a line of its own: blanks and the first line break are dropped. A
change back of the indentation is kept for what comes after the comment, unless there is another one
or `outside` holds. Returns the entries, how many are to be written, and whether a line break was
dropped. -/
def spaceBetween (outside : Bool) (i : Nat) : List Space → List Space × Nat × Bool
  | [] => ([], 0, false)
  | .blank :: rest | .cell :: rest =>
    let (ws, n, dropped) := spaceBetween outside (i + 1) rest
    (.ignore :: ws, n, dropped)
  | .indent :: rest =>
    let (ws, n, dropped) := spaceBetween outside (i + 1) rest
    (.indent :: ws, n, dropped)
  | .unindent :: rest =>
    if rest.head? == some .unindent || outside then
      let (ws, n, dropped) := spaceBetween outside (i + 1) rest
      (.unindent :: ws, n, dropped)
    else (.unindent :: rest, i, false)
  | .newline :: rest => (.ignore :: rest, i, true)
  | .sectionBreak :: rest => (.ignore :: rest, i, true)
  | ws => (ws, i, false)

/-- At most one empty line is kept. -/
def limited (n : Nat) : Nat := min n 2

/-- Whether a comment runs to the end of its line. -/
def runsOn (c : Comment) : Bool :=
  c.text.startsWith "//"

/-- Writes what goes in front of a comment at `spot`, given the comment before it and the place and
the word that come next. -/
def beforeComment (p : Pen) (spot next : Spot) (previous : Option Comment) (word : LastWord) : Pen :=
  if p.marks.isEmpty then p
  else
    let afterLine := (previous.map runsOn).getD false
    if spot.line == p.last.line && !afterLine then
      let (p, ends) := match previous with
        | some _ => (p, false)
        | none =>
          let (ws, n, ends) := spaceOnLine 0 p.pending
          ({ p with pending := ws }.settle n, ends)
      if ends then p
      else p.writeSpace (if spot.line == next.line then ' ' else hardEnd) 1
    else
      let outside := word != .symbol "\x7d" && spot.column == next.column
      let (ws, n, dropped) := spaceBetween outside 0 p.pending
      let p := { p with pending := ws }.settle n
      let lines := if spot.line == 0 || p.last.line == 0 then 0 else spot.line - p.last.line
      let lines := if p.indent == 0 && dropped && previous.isNone then lines + 1 else lines
      let lines := if lines == 0 && afterLine then 1 else lines
      if lines == 0 then p else p.writeSpace sectionEnd (limited lines)

/-- Writes a line of a comment without white space at its end. One that has nothing else is still
indented. -/
def writeLine (p : Pen) (spot : Spot) (line : List Char) : Pen :=
  if line.isEmpty then p else p.writeText spot true (Text.trimRight line)

/-- Writes lines, with section breaks between them. -/
def writeLines (p : Pen) (spot : Spot) : List (List Char) → Pen
  | [] => p
  | [line] => p.writeLine spot line
  | line :: rest =>
    let p := (p.writeLine spot line).writeSpace sectionEnd 1
    p.writeLines p.spot rest

/-- Notes that a build line comes next, if the comment is one. -/
def noteBuild (p : Pen) (comment : List Char) : Pen :=
  let place := p.marks.length
  if (newerText? comment).isSome then
    { p with builds := { p.builds with newer := p.builds.newer ++ [place] } }
  else if (olderText? comment).isSome then
    { p with builds := { p.builds with older := p.builds.older ++ [place] } }
  else p

/-- Writes a comment. One that marks lines is not indented if it starts its line. -/
def writeComment (p : Pen) (files : FileSet) (c : Comment) : Pen :=
  let spot := spotOf files c.pos
  let indent := p.indent
  let p := if c.text.startsWith "//line " && spot.column ≤ 1 then { p with indent := 0 } else p
  let p :=
    if runsOn c then
      (p.noteBuild c.text.toList).writeText spot true (Text.trimRight c.text.toList)
    else
      let lines := Text.splitAt '\n' c.text.toList
      let lines := if spot.column == 1 && 0 < p.indent then
          lines.take 1 ++ (lines.drop 1).map ([' ', ' ', ' '] ++ ·)
        else lines
      p.writeLines spot (alignedLines lines)
  { p with indent }

/-- Writes the comments of a group. Returns the last one. -/
def writeGroup (p : Pen) (files : FileSet) (next : Spot) (word : LastWord) (previous : Option Comment) :
    List Comment → Pen × Option Comment
  | [] => (p, previous)
  | c :: rest =>
    let p := (p.beforeComment (spotOf files c.pos) next previous word).writeComment files c
    p.writeGroup files next word (some c) rest

/-- Whether a comment is the first of a doc comment: it starts its line, and the word right below the
last one is a symbol. A comment in front of an import is meant for a tool. -/
def startsDoc (files : FileSet) (first last : Comment) (next : Spot) (word : LastWord) : Bool :=
  let ofDoc := match word with
    | .symbol text => text != "import"
    | _ => false
  ofDoc && (spotOf files first.pos).column == 1 && spotOf files (last.stop + 1) == next

/-- Writes a doc comment in its fixed form, as if it ended where it does in the source. One that is
blank leaves only the space in front of it. Returns the last comment, if any is written. -/
def writeDoc (p : Pen) (files : FileSet) (next : Spot) (word : LastWord) (previous : Option Comment)
    (first last : Comment) (group : List Comment) : Pen × Option Comment :=
  match tidied group with
  | [] =>
    let p := p.beforeComment (spotOf files first.pos) next previous word
    ({ p with spot := next, last := next }, none)
  | group =>
    let (p, _) := p.writeGroup files next word previous group
    let stop := spotOf files last.stop
    ({ p with spot := stop, last := stop }, some last)

/-- Writes the groups of comments that come before a place. Returns the last comment, if it is not a
blank one. -/
def writeGroups (files : FileSet) (next : Spot) (word : LastWord) (p : Pen)
    (previous : Option Comment) : List (List Comment) → Pen × Option Comment
  | [] => ({ p with comments := [] }, previous)
  | group :: rest =>
    if p.comesBefore files group next then
      let (p, previous) := match group.head?, group.getLast? with
        | some first, some last =>
          if startsDoc files first last next word then
            p.writeDoc files next word previous first last group
          else p.writeGroup files next word previous group
        | _, _ => (p, previous)
      writeGroups files next word p previous rest
    else ({ p with comments := group :: rest }, previous)

/-- White space after comments: line breaks are dropped, but for one if it is needed. Also returns
whether a line break is left, and whether one that ends a section was dropped. -/
def spaceAfter (needed : Bool) : List Space → List Space × Bool × Bool
  | [] => ([], false, false)
  | s :: rest =>
    if s.isBreak then
      let (ws, left, dropped) := spaceAfter false rest
      if needed then (s :: ws, true, dropped)
      else (.ignore :: ws, left, dropped || s == .sectionBreak)
    else
      let (ws, left, dropped) := spaceAfter needed rest
      (if s == .blank || s == .cell then .ignore :: ws else s :: ws, left, dropped)

/-- Writes what goes after the last comment, before a word. Returns whether a line break was written,
and whether one that ends a section was dropped. -/
def afterComment (p : Pen) (needed : Bool) : Pen × Bool × Bool :=
  let (ws, left, dropped) := spaceAfter needed p.pending
  let p := { p with pending := ws }.settle ws.length
  if needed && !left then (p.writeSpace lineEnd 1, true, dropped) else (p, left, dropped)

/-- Whether a comment that does not run on is set off from the word after it. -/
def setsOff (p : Pen) (files : FileSet) (c : Comment) (next : Spot) (word : LastWord) : Bool :=
  !p.noExtraBlank && !runsOn c && (spotOf files c.pos).line == next.line && word != .symbol "," &&
    (word != .symbol ")" || p.opening == .symbol "(") &&
    (word != .symbol "]" || p.opening == .symbol "[")

/-- Writes the comments before a place, and the white space around them. Returns whether a line break
was written, and whether one that ends a section was dropped. -/
def writeComments (p : Pen) (files : FileSet) (next : Spot) (word : Option LastWord) :
    Pen × Bool × Bool :=
  let tok := word.getD .other
  let (p, last) := writeGroups files next tok p none p.comments
  match last with
  | none => p.afterComment false
  | some c =>
    let off := p.setsOff files c next tok
    let breaks := off && p.pending.any Space.isBreak && !p.noExtraBreak && p.level == 0
    let p := if off && !breaks then p.writeSpace ' ' 1 else p
    p.afterComment
      (breaks || runsOn c || word.isNone || (tok == .symbol "\x7d" && !p.noExtraBreak))

/-- Writes everything that comes before a word at a place; no word is the end. -/
def flush (p : Pen) (files : FileSet) (next : Spot) (word : Option LastWord) : Pen × Bool × Bool :=
  if p.hasCommentBefore files next then p.writeComments files next word
  else (p.settle p.pending.length, false, false)

/-! ## Words -/

/-- Remembers an opening bracket that was the last word. -/
def noteOpening (p : Pen) : Pen :=
  match p.lastWord with
  | .none => p
  | w => { p with opening := if w == .symbol "(" || w == .symbol "[" then w else .none }

/-- Puts off white space. -/
def putOff (p : Pen) (s : Space) : Pen :=
  let p := p.noteOpening
  match s with
  | .ignore => p
  | s =>
    let p := if p.pending.length == 16 then p.settle 16 else p
    { p with
      pending := p.pending ++ [s]
      endsStatement := p.endsStatement && !s.isBreak
      lastWord := .none }

/-- Whether a symbol would run together with the word before it. -/
def runsTogether (last : LastWord) (text : String) : Bool :=
  match last, text.toList.head? with
  | .integer, some '.' => true
  | .symbol "+", some '+' => true
  | .symbol "-", some '-' => true
  | .symbol "/", some '*' => true
  | .symbol "<", some c => c == '-' || c == '<'
  | .symbol "&", some c => c == '&' || c == '^'
  | _, _ => false

/-- Symbols after which a line break ends a statement. -/
def closesStatement (text : String) : Bool :=
  [")", "]", "\x7d", "return", "break", "continue", "fallthrough", "++", "--"].contains text

/-- Writes a word. -/
def writeWord (p : Pen) (files : FileSet) (word : LastWord) (closes fixed : Bool) (text : String) :
    Pen :=
  let next := p.spot
  let (p, broke, dropped) := p.flush files next (some word)
  let lines := if p.endsStatement then 0 else limited (next.line - p.spot.line)
  let lines := if broke && lines == 2 then 1 else lines
  let p := if lines == 0 then p
    else p.writeSpace (if dropped then sectionEnd else lineEnd) lines
  let p := if p.noting then { p with noting := false, noted := p.line :: p.noted } else p
  { p.writeText next fixed text.toList with endsStatement := closes && lines == 0 }

end Pen

/-! ## Writing -/

/-- Writing with a pen, given the files of the source. -/
abbrev Put := ReaderT FileSet (StateM Pen)

/-- Where a place of the source is. -/
def spotAt (p : Pos) : Put Spot :=
  return spotOf (← read) p

/-- The line of a place of the source. -/
def lineOf (p : Pos) : Put Nat :=
  return (← spotAt p).line

/-- Goes to a place of the source; no place leaves the pen where it is. -/
def goTo (p : Pos) : Put Unit := do
  if p != 0 then
    let spot ← spotAt p
    modify fun pen => { pen with spot }

/-- Puts off white space. -/
def space (s : Space) : Put Unit :=
  modify (·.putOff s)

/-- Writes a symbol or keyword. -/
def symbol (text : String) : Put Unit := do
  let files ← read
  modify fun p =>
    let p := p.noteOpening
    let p := if Pen.runsTogether p.lastWord text then { p with pending := [.blank] } else p
    { p with lastWord := .symbol text }.writeWord files (.symbol text) (Pen.closesStatement text)
      false text

/-- Writes a name. -/
def name (text : String) : Put Unit := do
  let files ← read
  modify fun p => { p.noteOpening with lastWord := .other }.writeWord files .other true false text

/-- Writes a literal as it is. -/
def literal (isInteger : Bool) (text : String) : Put Unit := do
  let files ← read
  let word := if isInteger then LastWord.integer else .other
  modify fun p => { p.noteOpening with lastWord := word }.writeWord files word true true text

/-- Breaks the line to get to a line of the source, at least as often as `least` says; `s` goes in
front of the first break. Returns how much is broken: a new section counts for one more. -/
def lineBreak (line least : Nat) (s : Space) (newSection : Bool) : Put Nat := do
  let n := max (Pen.limited (line - (← get).spot.line)) least
  if n == 0 then return 0
  space s
  if newSection then space .sectionBreak else space .newline
  for _ in List.range (n - 1) do
    space .newline
  return if newSection then n + 1 else n

/-- Writes the comments that belong to a part of an expression, when the next word comes. -/
def attach (group : Option (List Comment)) : Put Unit := do
  match group with
  | none => return ()
  | some [] => return ()
  | some g => modify fun p => if p.attached then { p with comments := p.comments ++ [g] } else p

/-- The size of the comments that are to be written before a place of the source. -/
def commentSizeBefore (p : Pos) : Put Nat := do
  let files ← read
  let pen ← get
  let groups := pen.comments.takeWhile fun g => pen.comesBefore files g (spotOf files p)
  return groups.flatten.foldl (fun n c => n + c.text.utf8ByteSize) 0

/-- Whether comments are to be written before a place of the source. -/
def commentsBefore (p : Pos) : Put Bool := do
  let files ← read
  return (← get).hasCommentBefore files (spotOf files p)

/-- Writes something, and returns how many line breaks it has, going from its first word to its last. -/
def breaksIn (m : Put Unit) : Put Nat := do
  modify fun p => { p with noting := true }
  m
  let p ← get
  match p.noted with
  | first :: rest =>
    set { p with noted := rest }
    return p.line - first
  | [] => return 0

/-- Writes something, and returns whether it spans lines. -/
def spansLines (m : Put Unit) : Put Bool :=
  return 0 < (← breaksIn m)

/-- What is written, from first to last, with everything that was put off; build lines stand together. -/
def finish (files : FileSet) (start : Pen) (m : Put Unit) : List Mark :=
  let (_, p) := (m.run files).run start
  let (p, _) := { p with endsStatement := false }.flush files .ending none
  gatherBuildLines p.builds p.marks.reverse

end TaggedUnion.Layout
