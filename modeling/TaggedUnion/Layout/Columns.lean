/-!
# Lines in columns

Laid-out text is a tape of characters and *fences*. Between two fences characters stand for themselves.
Outside of them some control the layout: a tab or a vertical tab ends a cell, a line feed ends a line, and
a form feed ends a line and a section. In consecutive lines of a section that have a cell in the same
column, these cells are padded to a common width, so that what follows them lines up.

Blanks at the end of a line are dropped, unless they stand between fences.
-/

namespace TaggedUnion.Layout

/-- A mark on the tape. -/
inductive Mark
  | char (c : Char)
  | fence
deriving Repr, DecidableEq

/-- The characters that control the layout outside of fences. -/
def hardEnd : Char := '\t'

@[inherit_doc hardEnd]
def softEnd : Char := '\x0b'

@[inherit_doc hardEnd]
def lineEnd : Char := '\n'

@[inherit_doc hardEnd]
def sectionEnd : Char := '\x0c'

/-- Whether a mark is a line break, between fences or not. -/
def Mark.isBreak : Mark → Bool
  | char c => c == lineEnd || c == sectionEnd
  | fence => false

/-- The marks of a text as it is. -/
def marksOf (text : String) : List Mark :=
  text.toList.map .char

/-- The marks of a text that is to stay as it is. -/
def fenced (text : String) : List Mark :=
  .fence :: marksOf text ++ [.fence]

/-! ## From marks to lines -/

/-- A cell of a line. One with a hard end takes up space in any case. -/
structure Cell where
  marks : List Mark
  hard : Bool
deriving Repr

/-- The number of characters in a cell. -/
def Cell.width (c : Cell) : Nat :=
  c.marks.countP (· != .fence)

/-- A line: its cells, and what comes after the last one. -/
structure Line where
  cells : List Cell := []
  rest : List Mark := []
deriving Repr

/-- A text that is divided into sections, lines and cells, the latest of each first. -/
structure Division where
  /-- Whether a fence is open. -/
  within : Bool := false
  rest : List Mark := []
  cells : List Cell := []
  lines : List Line := []
  sections : List (List Line) := []

namespace Division

/-- Ends a cell. -/
def endCell (d : Division) (hard : Bool) : Division :=
  { d with rest := [], cells := ⟨d.rest.reverse, hard⟩ :: d.cells }

/-- Ends a line. -/
def endLine (d : Division) : Division :=
  { d with rest := [], cells := [], lines := ⟨d.cells.reverse, d.rest.reverse⟩ :: d.lines }

/-- Ends a section with a line. -/
def endSection (d : Division) : Division :=
  let d := d.endLine
  { d with lines := [], sections := d.lines.reverse :: d.sections }

/-- Takes in the next mark. -/
def step (d : Division) (m : Mark) : Division :=
  match m with
  | .fence => { d with rest := m :: d.rest, within := !d.within }
  | .char c =>
    if d.within then { d with rest := m :: d.rest }
    else if c == hardEnd then d.endCell true
    else if c == softEnd then d.endCell false
    else if c == lineEnd then d.endLine
    else if c == sectionEnd then d.endSection
    else { d with rest := m :: d.rest }

end Division

/-- The sections of a text, each a list of lines. -/
def sections (marks : List Mark) : List (List Line) :=
  (marks.foldl Division.step {}).endSection.sections.reverse

/-! ## From lines to text -/

/-- The lines around the middle one that have a cell in the column, as far as they are consecutive:
those before it, nearest first, and those after it. -/
def block (column : Nat) (before : List Line) (line : Line) (after : List Line) : List Line :=
  let has := fun l : Line => column < l.cells.length
  before.takeWhile has ++ line :: after.takeWhile has

/-- The width of a column in a block of lines: one more than its widest cell. A column of empty cells
takes up no space if all of them have a soft end. -/
def blockWidth (column : Nat) (lines : List Line) : Nat :=
  let cells := lines.filterMap fun l => l.cells[column]?
  if cells.all fun c => c.width == 0 && !c.hard then 0
  else cells.foldl (fun n c => max n c.width) 0 + 1

/-- The same character a number of times. -/
def fill (c : Char) (n : Nat) : List Mark :=
  List.replicate n (.char c)

/-- The cells of a line from a column on, padded to the widths of their columns. Empty cells at the
front are padded with tabs of eight, other cells with blanks. -/
def paddedCells (width : Nat → Nat) (leading : Bool) (column : Nat) : List Cell → List Mark
  | [] => []
  | c :: rest =>
    let w := width column
    if c.marks.isEmpty then
      (if leading then fill '\t' ((w + 7) / 8) else fill ' ' w) ++
        paddedCells width leading (column + 1) rest
    else c.marks ++ fill ' ' (w - c.width) ++ paddedCells width false (column + 1) rest

/-- A line, padded, among the lines before it, nearest first, and after it. -/
def paddedLine (before : List Line) (line : Line) (after : List Line) : List Mark :=
  let width := fun column => blockWidth column (block column before line after)
  paddedCells width true 0 line.cells ++ line.rest

/-- The lines of a section, padded. -/
def paddedLines (before : List Line) : List Line → List (List Mark)
  | [] => []
  | line :: after => paddedLine before line after :: paddedLines (line :: before) after

/-- Whether a character is white space within a line. -/
def isBlankChar (c : Char) : Bool :=
  c == ' ' || c == hardEnd || c == softEnd

/-- Appends the characters of a tape to a text that is given last character first, without fences and
without blanks at the ends of lines. `blanks` are not written yet, the last one first. -/
def trimmed (within : Bool) (blanks text : List Char) : List Mark → List Char
  | [] => text
  | .fence :: rest =>
    if within then trimmed false [] text rest else trimmed true [] (blanks ++ text) rest
  | .char c :: rest =>
    if within then trimmed true [] (c :: text) rest
    else if c == lineEnd || c == sectionEnd then trimmed false [] (lineEnd :: text) rest
    else if isBlankChar c then trimmed false ((if c == softEnd then '\t' else c) :: blanks) text rest
    else trimmed false [] (c :: (blanks ++ text)) rest

/-- The text that a tape stands for. -/
def render (marks : List Mark) : String :=
  let lines := (sections marks).flatMap (paddedLines [])
  String.ofList (trimmed false [] [] ([Mark.char lineEnd].intercalate lines)).reverse

/-! ## Text on one line -/

/-- The number of bytes that a tape takes up on one line, if there is no line break on it. The end of a
cell takes up as much as a blank; blanks at the end do not count. -/
def flatSize? (marks : List Mark) : Option Nat :=
  let text := trimmed false [] [] marks
  if text.any fun c => c == lineEnd || c == sectionEnd then none
  else some (text.foldl (fun n c => n + c.utf8Size) 0)

end TaggedUnion.Layout
