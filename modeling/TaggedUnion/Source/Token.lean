import TaggedUnion.Source.Lexeme
import TaggedUnion.Source.Position

/-!
# Tokens

Tokens are the lexemes a grammar is about, with their places. Blanks and line ends are dropped, but a
line end after a token that can end a statement counts as a semicolon; so does a comment that spans
lines. Comments stay in the token stream.

Comments that start with `line ` and end in a line number are line marks: they rename the lines
that follow.
-/

namespace TaggedUnion.Source

open Text

/-- What sort of token it is. -/
inductive TokenKind
  | ident
  | keyword
  | int
  | float
  | imaginary
  | rune
  | string
  | symbol
  /-- A semicolon that stands for a line end. -/
  | lineEnd
  | comment
  | eof
deriving Repr, DecidableEq

/-- A token with its text and its place. Carriage returns are dropped from the text of comments and
raw strings. -/
structure Token where
  kind : TokenKind
  text : String
  pos : Pos
deriving Repr, DecidableEq

/-- Words with a meaning of their own. -/
def keywords : List String :=
  ["break", "case", "chan", "const", "continue", "default", "defer", "else", "fallthrough", "for",
   "func", "go", "goto", "if", "import", "interface", "map", "package", "range", "return", "select",
   "struct", "switch", "type", "var"]

/-- The text of a token is the given symbol or keyword. -/
def Token.is (t : Token) (text : String) : Bool :=
  (t.kind == .symbol || t.kind == .keyword) && t.text == text

/-- A semicolon, written or standing for a line end. -/
def Token.isSemicolon (t : Token) : Bool :=
  t.kind == .lineEnd || t.is ";"

/-- Whether a line end after the token counts as a semicolon. -/
def Token.endsStatement (t : Token) : Bool :=
  match t.kind with
  | .ident | .int | .float | .imaginary | .rune | .string => true
  | .keyword => ["break", "continue", "fallthrough", "return"].contains t.text
  | .symbol => [")", "]", "\x7d", "++", "--"].contains t.text
  | _ => false

/-- The text of a comment between slashes and stars without carriage returns; one between the star and
the slash at the end of a line stays, because the comment would end there without it. `star` says
whether a star comes right before, once the comment has begun. -/
def bareBlock (star : Bool) : List Char → List Char
  | [] => []
  | '\r' :: rest =>
    if star && rest.head? == some '/' then '\r' :: bareBlock false rest else bareBlock star rest
  | c :: rest => c :: bareBlock (c == '*') rest

/-- The token that a lexeme is, if it is one. -/
def Lexeme.token? (l : Lexeme) (pos : Pos) : Option Token :=
  let plain := String.ofList l.text
  let bare := String.ofList (l.text.filter (· != '\r'))
  match l.kind with
  | .blank | .lineEnd => none
  | .word => some ⟨if keywords.contains plain then .keyword else .ident, plain, pos⟩
  | .int => some ⟨.int, plain, pos⟩
  | .float => some ⟨.float, plain, pos⟩
  | .imaginary => some ⟨.imaginary, plain, pos⟩
  | .rune => some ⟨.rune, plain, pos⟩
  | .quoted => some ⟨.string, plain, pos⟩
  | .raw => some ⟨.string, bare, pos⟩
  | .lineComment => some ⟨.comment, bare, pos⟩
  | .blockComment =>
    some ⟨.comment, String.ofList (l.text.take 2 ++ bareBlock false (l.text.drop 2)), pos⟩
  | .symbol => some ⟨.symbol, plain, pos⟩

/-- The number of bytes of a text. -/
def byteSize (cs : List Char) : Nat :=
  cs.foldl (fun n c => n + c.utf8Size) 0

/-- The tokens of a list of lexemes that starts at the given place; `pending` says whether a line end
counts as a semicolon. -/
def tokensFrom (pending : Bool) (pos : Pos) : List Lexeme → List Token
  | [] => (if pending then [⟨.lineEnd, "\n", pos⟩] else []) ++ [⟨.eof, "", pos⟩]
  | l :: rest =>
    let next := pos + byteSize l.text
    match l.token? pos with
    | none =>
      if l.kind == .lineEnd && pending then ⟨.lineEnd, "\n", pos⟩ :: tokensFrom false next rest
      else tokensFrom pending next rest
    | some t =>
      if t.kind == .comment then
        if pending && l.kind == .blockComment && l.text.contains '\n' then
          t :: ⟨.lineEnd, "\n", pos + byteSize (l.text.takeWhile (· != '\n'))⟩ ::
            tokensFrom false next rest
        else t :: tokensFrom pending next rest
      else t :: tokensFrom t.endsStatement next rest

/-! ## Line marks -/

/-- Splits a text at its last colon. -/
def splitLastColon? (cs : List Char) : Option (List Char × List Char) :=
  let r := cs.reverse
  match r.dropWhile (· != ':') with
  | [] => none
  | _ :: before => some (before.reverse, (r.takeWhile (· != ':')).reverse)

/-- The number that a text of decimal digits spells. -/
def decimal? (cs : List Char) : Option Nat :=
  if cs.isEmpty then none else ofDigits? 10 cs

/-- What a comment says about the lines that follow it. -/
inductive MarkReading
  /-- It is not about lines. -/
  | unrelated
  /-- It asks for a line number that is none. -/
  | invalid
  /-- It names a file, a line and perhaps a column. -/
  | mark (file : List Char) (line : Nat) (column : Option Nat)

/-- The largest line or column a line mark may name. -/
def lineLimit : Nat := 1073741824

/-- Reads the text of a comment, without its delimiters, as a line mark. -/
def readMark (comment : List Char) : MarkReading :=
  if !"line ".toList.isPrefixOf comment then .unrelated else
  match splitLastColon? (comment.drop 5) with
  | none => .unrelated
  | some (before, last) =>
    match decimal? last with
    | none => .invalid
    | some n =>
      match (splitLastColon? before).bind fun (b, l) => (decimal? l).map (b, ·) with
      | some (file, line) =>
        if n == 0 || lineLimit < n || line == 0 || lineLimit < line then .invalid
        else .mark file line (some n)
      | none => if n == 0 || lineLimit < n then .invalid else .mark before n none

/-- Adds the line mark of a lexeme that starts at `offset`, if it is one. A mark whose comment starts
with two slashes must start its line and takes effect on the next one. -/
def FileInfo.addMark? (f : FileInfo) (l : Lexeme) (offset : Nat) : Option FileInfo :=
  let stop := offset + byteSize l.text
  let reading : MarkReading × Nat := match l.kind with
    | .lineComment =>
      if f.lineStart offset == offset then
        let text := if l.text.getLast? == some '\r' then l.text.dropLast else l.text
        (readMark (text.drop 2), stop + 1)
      else (.unrelated, 0)
    | .blockComment => (readMark (l.text.drop 2).dropLast.dropLast, stop)
    | _ => (.unrelated, 0)
  match reading with
  | (.unrelated, _) => some f
  | (.invalid, _) => none
  | (.mark file line column, from') =>
    let file := String.ofList file
    let file :=
      if file == "" then (if column.isSome then (f.position offset).file else "")
      else
        let cleaned := Path.clean file
        if Path.isAbsolute cleaned then cleaned
        else Path.join [Path.directoryPart f.name, cleaned]
    if f.marks.all (·.offset < from') && from' < f.size then
      some { f with marks := f.marks ++ [⟨from', file, line, column.getD 0⟩] }
    else some f

/-- Adds the line marks of a list of lexemes that starts at `offset`. -/
def FileInfo.addMarks? (f : FileInfo) (offset : Nat) : List Lexeme → Option FileInfo
  | [] => some f
  | l :: rest => do (← f.addMark? l offset).addMarks? (offset + byteSize l.text) rest

/-- The offsets at which the lines of a text start, from `offset` on; a line end at the very end
starts none. -/
def lineStarts (offset : Nat) : List Char → List Nat
  | [] => []
  | [_] => []
  | c :: rest =>
    if c == '\n' then (offset + 1) :: lineStarts (offset + 1) rest
    else lineStarts (offset + c.utf8Size) rest

/-- Whether a text may be read at all: it has no zero characters, and byte order marks only at its
start. -/
def isReadable (cs : List Char) : Bool :=
  !cs.contains (Char.ofNat 0) && !(cs.drop 1).contains (Char.ofNat 0xfeff)

/-- Reads a file that is added to a file set: where its lines are, and its tokens. -/
def scan? (files : FileSet) (name text : String) : Option (FileInfo × List Token) := do
  let cs := text.toList
  guard (isReadable cs)
  let base := files.nextBase
  let marker := if cs.head? == some (Char.ofNat 0xfeff) then 3 else 0
  let lexemes ← cut? (if marker == 3 then cs.drop 1 else cs)
  let bare : FileInfo := { name, base, size := text.utf8ByteSize, lines := 0 :: lineStarts 0 cs }
  let info ← bare.addMarks? marker lexemes
  return (info, tokensFrom false (base + marker) lexemes)

end TaggedUnion.Source
