/-!
# Colours

Messages are coloured line by line: a `file:line:column:` at the front of a line is red, and a line
that is indented by a tab is dim. Everything else stays as it is.
-/

namespace TaggedUnion.CommandLine

/-- Starts red text. -/
def red : String := "\x1b[31m"

/-- Starts dim text. -/
def dim : String := "\x1b[2m"

/-- Ends coloured text. -/
def reset : String := "\x1b[0m"

/-- Characters of a file name at the front of a line: no blanks and no colon. -/
def isFileNameChar (c : Char) : Bool :=
  !(c == ' ' || c == '\t' || c == '\n' || c == '\r' || c.toNat == 0x0c || c == ':')

/-- Takes a colon and digits from the front of a text. -/
def takeNumber? (cs : List Char) : Option (List Char × List Char) :=
  match cs with
  | ':' :: rest =>
    let digits := rest.takeWhile Char.isDigit
    if digits.isEmpty then none else some (':' :: digits, rest.dropWhile Char.isDigit)
  | _ => none

/-- Splits a line after a leading `file:line:column:`. -/
def splitPlace? (line : List Char) : Option (List Char × List Char) := do
  let file := line.takeWhile isFileNameChar
  guard (!file.isEmpty)
  let (row, rest) ← takeNumber? (line.dropWhile isFileNameChar)
  let (column, rest) ← takeNumber? rest
  match rest with
  | ':' :: rest => some (file ++ row ++ column ++ [':'], rest)
  | _ => none

/-- Colours one line. -/
def colourLine (line : List Char) : List Char :=
  match splitPlace? line with
  | some (place, rest) => red.toList ++ place ++ reset.toList ++ rest
  | none =>
    match line with
    | '\t' :: _ :: _ => dim.toList ++ line ++ reset.toList
    | _ => line

/-- Colours the lines of a text from its front, given the current line in reverse. -/
def colourLines : List Char → List Char → List Char
  | current, [] => colourLine current.reverse
  | current, c :: rest =>
    if c == '\n' then colourLine current.reverse ++ '\n' :: colourLines [] rest
    else colourLines (c :: current) rest

/-- Colours a message. -/
def colourise (message : String) : String :=
  String.ofList (colourLines [] message.toList)

end TaggedUnion.CommandLine
