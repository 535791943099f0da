import TaggedUnion.Text.Space

/-!
# Lines of comments

A comment between slashes and stars that spans lines is indented together with the text around it. For
that, the blanks that its lines have in common at their start are taken off; a line of stars on the left
keeps its alignment, and text that is indented relative to the opening stays so.
-/

namespace TaggedUnion.Layout

/-- Whether a text has nothing but blanks and control characters. -/
def isHollow (cs : List Char) : Bool :=
  cs.all (· ≤ ' ')

/-- The start that two texts have in common, as far as it consists of blanks and stars. -/
def commonStart : List Char → List Char → List Char
  | a :: as, b :: bs => if a == b && (a ≤ ' ' || a == '*') then a :: commonStart as bs else []
  | _, _ => []

/-- A text without the given end. -/
def dropEnd (ending cs : List Char) : List Char :=
  if ending.reverse.isPrefixOf cs.reverse then cs.take (cs.length - ending.length) else cs

/-- A common start without up to three blanks, or one tab, at its end. -/
def shortened (start : List Char) : List Char :=
  let blanks := min (start.reverse.takeWhile (· == ' ')).length 3
  if blanks == 0 && start.getLast? == some '\t' then start.dropLast
  else start.take (start.length - blanks)

/-- What is taken off the lines of a comment without a line of stars, given its first line and the
common start of the others. White space after the opening counts as part of the text. -/
def plainStart (first start : List Char) : List Char :=
  let text := first.drop 2
  if isHollow text then shortened start
  else
    let white := text.takeWhile (· ≤ ' ')
    dropEnd (if white.head? == some '\t' then white else ' ' :: ' ' :: white) start

/-- The text in front of the end of a comment. -/
def beforeClosing : List Char → List Char
  | [] => []
  | '*' :: '/' :: _ => []
  | c :: rest => c :: beforeClosing rest

/-- The common start of the lines between the first and the last, hollow lines apart; of the last
line if there are no others. -/
def innerStart (inner : List (List Char)) (last : List Char) : List Char :=
  match inner.filter fun l => !isHollow l with
  | [] => commonStart last last
  | l :: rest => rest.foldl commonStart (commonStart l l)

/-- The lines of a comment without the start they have in common. -/
def alignedLines : List (List Char) → List (List Char)
  | [] => []
  | [only] => [only]
  | first :: others =>
    let inner := others.dropLast.map fun l => if isHollow l then [] else l
    let last := others.getLast?.getD []
    let common := innerStart inner last
    let stars := common.contains '*'
    let start :=
      if stars then dropEnd [' '] (common.takeWhile (· != '*')) else plainStart first common
    if isHollow (beforeClosing last) then
      first :: inner.map (·.drop start.length) ++ [if stars then [' ', '*', '/'] else ['*', '/']]
    else
      let start := commonStart start last
      first :: inner.map (·.drop start.length) ++ [last.drop start.length]

end TaggedUnion.Layout
