import TaggedUnion.Text.Path

/-!
# Source positions

All files of a program share one range of positions, the *file set*: each file takes up one position
per byte and one for its end, and position 0 stands for no place at all. A position is resolved to a
file, a line and a column, all counted from 1, the column in bytes.

A *line mark* in a file renames what follows it: from its offset on, lines count from the given line
of the given file. Without a column of its own it leaves columns unknown (0); with one, the column
counts on from it for the rest of that line.
-/

namespace TaggedUnion.Source

/-- A place in the file set; 0 is no place. -/
abbrev Pos := Nat

/-- A resolved position. -/
structure Position where
  file : String := ""
  /-- The byte offset in the file that really has the place. -/
  offset : Nat := 0
  line : Int := 0
  column : Int := 0
deriving Repr, DecidableEq

/-- A position that names a line. -/
def Position.isValid (p : Position) : Bool :=
  0 < p.line

/-- From `offset` on, lines count from `line` of `file`. -/
structure LineMark where
  offset : Nat
  file : String
  line : Nat
  /-- The column of the place at `offset`, or 0 if columns are unknown. -/
  column : Nat
deriving Repr, DecidableEq

/-- Where a file lies in the file set, and where its lines start. -/
structure FileInfo where
  name : String
  /-- The position of the file's first byte. -/
  base : Nat
  /-- The number of bytes. -/
  size : Nat
  /-- The offsets at which lines start, in increasing order; the first line starts at 0. -/
  lines : List Nat
  /-- Line marks, in increasing order of their offsets. -/
  marks : List LineMark := []
deriving Repr, DecidableEq

namespace FileInfo

/-- Adds the start of a line; one that is not after the others, or not in the file, changes nothing. -/
def addLine (f : FileInfo) (offset : Nat) : FileInfo :=
  if (f.lines.getLast?.getD 0) < offset && offset < f.size then { f with lines := f.lines ++ [offset] }
  else f

/-- The file's place for a byte offset. -/
def pos (f : FileInfo) (offset : Nat) : Pos :=
  f.base + offset

/-- Whether the file has the place. -/
def contains (f : FileInfo) (p : Pos) : Bool :=
  f.base ≤ p && p ≤ f.base + f.size

/-- The number of the line, counted from 1, that has the given byte, going by line starts only. -/
def lineAt (f : FileInfo) (offset : Nat) : Nat :=
  (f.lines.takeWhile (· ≤ offset)).length

/-- Where the line that has the given byte starts. -/
def lineStart (f : FileInfo) (offset : Nat) : Nat :=
  ((f.lines.takeWhile (· ≤ offset)).getLast?).getD 0

/-- The position of a byte, going by line starts only. -/
def rawPosition (f : FileInfo) (offset : Nat) : Position :=
  { file := f.name, offset, line := f.lineAt offset, column := offset - f.lineStart offset + 1 }

/-- The position of a byte, with line marks taken into account. -/
def position (f : FileInfo) (offset : Nat) : Position :=
  let raw := f.rawPosition offset
  match (f.marks.takeWhile (·.offset ≤ offset)).getLast? with
  | none => raw
  | some mark =>
    let distance : Int := raw.line - f.lineAt mark.offset
    { raw with
      file := mark.file
      line := mark.line + distance
      column :=
        if mark.column == 0 then 0
        else if distance == 0 then mark.column + (offset - mark.offset)
        else raw.column }

end FileInfo

/-- The files of a program. -/
structure FileSet where
  files : List FileInfo := []
deriving Repr, DecidableEq

namespace FileSet

/-- The first position a further file can take. -/
def nextBase (s : FileSet) : Nat :=
  match s.files.getLast? with
  | none => 1
  | some f => f.base + f.size + 1

/-- Adds a file after the others. -/
def add (s : FileSet) (f : FileInfo) : FileSet :=
  { files := s.files ++ [f] }

/-- The file that has a place. -/
def file? (s : FileSet) (p : Pos) : Option FileInfo :=
  if p = 0 then none else s.files.find? (·.contains p)

/-- The position of a place; an invalid one if no file has it. -/
def position (s : FileSet) (p : Pos) : Position :=
  match s.file? p with
  | none => {}
  | some f => f.position (p - f.base)

/-- The line of a place, going by line starts only; 0 if no file has it. -/
def rawLine (s : FileSet) (p : Pos) : Nat :=
  match s.file? p with
  | none => 0
  | some f => f.lineAt (p - f.base)

end FileSet

/-- A position as `file:line:column`, the file relative to the working directory when possible. -/
def Position.text (workingDir : String) (p : Position) : String :=
  if !p.isValid then "-:-"
  else
    let file := (Text.Path.relative? workingDir p.file).getD p.file
    file ++ ":" ++ toString p.line ++ ":" ++ toString p.column

end TaggedUnion.Source
