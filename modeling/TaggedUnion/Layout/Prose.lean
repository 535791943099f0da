import TaggedUnion.Source.Comment
import TaggedUnion.Text.Letter
import TaggedUnion.Text.Space

/-!
# The prose of doc comments

A doc comment is a text of blocks: paragraphs, headings, lists, and code, which is indented. Each block
has one written form, and an empty line stands between blocks. Definitions of links go to the end of the
text, those in use first. Quotes of two strokes become curly. Lines that are instructions to tools are
no prose: they follow it as they are.

Text that is indented by mistake, or that is not, is told by its surroundings: items of a list in front
of an indented line belong to it, and so does a line that opens a brace, or closes one after it.

* `blocks` reads the lines of a text;
* `proseText` writes the blocks, and the definitions of links;
* `tidied` does both to a group of comments.
-/

namespace TaggedUnion.Layout

open Source

/-- A line of a text. -/
abbrev TextLine := List Char

/-! ## Lines -/

/-- Whether a character indents a line. -/
def isIndent (c : Char) : Bool :=
  c == ' ' || c == '\t'

/-- Whether a line is indented. -/
def isIndented (line : TextLine) : Bool :=
  (line.head?.map isIndent).getD false

/-- The longest start that two lines have in common. -/
def sharedStart : TextLine → TextLine → TextLine
  | a :: as, b :: bs => if a == b then a :: sharedStart as bs else []
  | _, _ => []

/-- A line without the given start, if it has it. -/
def withoutStart (start line : TextLine) : TextLine :=
  if start.isPrefixOf line then line.drop start.length else line

/-- Lines without empty ones around them. -/
def withoutEmptyEnds (lines : List TextLine) : List TextLine :=
  ((lines.dropWhile List.isEmpty).reverse.dropWhile List.isEmpty).reverse

/-- Lines without the indentation that they share, and without empty ones around them. -/
def unindented (lines : List TextLine) : List TextLine :=
  match withoutEmptyEnds lines with
  | [] => []
  | first :: rest =>
    let start := (rest.filter (!·.isEmpty)).foldl (fun s l => sharedStart s (l.takeWhile isIndent))
      (first.takeWhile isIndent)
    withoutEmptyEnds <| (first :: rest).map fun line =>
      let line := withoutStart start line
      if (Text.trim line).isEmpty then [] else line

/-- The number of an item of a list, which is empty for a bullet, and the text after it. -/
def itemMark? (line : TextLine) : Option (List Char × TextLine) :=
  let found := match Text.trim line with
    | [] => none
    | c :: rest =>
      if ['•', '*', '+', '-'].contains c then some ([], rest)
      else
        let number := (c :: rest).takeWhile Char.isDigit
        match (c :: rest).drop number.length with
        | mark :: rest =>
          if !number.isEmpty && (mark == '.' || mark == ')') then some (number, rest) else none
        | [] => none
  found.filter fun (_, rest) => isIndented rest && !(Text.trim rest).isEmpty

/-- Whether a line starts an item of a list. -/
def isItem (line : TextLine) : Bool :=
  (itemMark? line).isSome

/-- Whether a line is marked as a heading. -/
def isHeading (line : TextLine) : Bool :=
  match line with
  | '#' :: c :: rest => isIndent c && !(Text.trim rest).isEmpty
  | _ => false

/-- The characters that no heading without a mark has. -/
def oddInHeading : List Char :=
  ";:!?+*/=[]\x7b\x7d_^°&§~%#@<\">\\".toList

/-- Whether the texts after each of the given characters pass a test. -/
def afterEach (c : Char) (test : List Char → Bool) : List Char → Bool
  | [] => true
  | d :: rest => (d != c || test rest) && afterEach c test rest

/-- Whether a line alone can be a heading without a mark: it starts with a capital letter, ends with a
letter or digit, and has no other punctuation than brackets, commas, a possessive and dots inside of
words. -/
def readsAsHeading (line : TextLine) : Bool :=
  let line := Text.trim line
  (line.head?.map fun c => Text.isLetter c && Text.isUpper c).getD false &&
    (line.getLast?.map fun c => Text.isLetter c || Text.isDigit c).getD false &&
    !line.any oddInHeading.contains &&
    afterEach '\'' (fun rest => rest == ['s'] || ['s', ' '].isPrefixOf rest) line &&
    afterEach '.' (fun rest => !rest.isEmpty && rest.head? != some ' ') line

/-! ## Blocks -/

/-- The lines of a block. -/
inductive Passage
  | paragraph (lines : List TextLine)
  | heading (text : TextLine)
  | code (lines : List TextLine)
  /-- A list, and whether an empty line comes before it. -/
  | list (apart : Bool) (lines : List TextLine)
deriving Repr, DecidableEq

/-- The lines that belong to an indented one before them: blank and indented ones, the first `forced`
ones, and items of a list up to a blank line if `items` holds. -/
def indentedLines (items : Bool) (forced : Nat) : List TextLine → List TextLine
  | [] => []
  | line :: rest =>
    if line.isEmpty || 0 < forced || isIndented line || (items && isItem line) then
      line :: indentedLines (items && !line.isEmpty) (forced - 1) rest
    else []

/-- The indented block at the start of some lines, of which the first `forced` ones count as
indented. -/
def indentedBlock (forced : Nat) (lines : List TextLine) : List TextLine :=
  match lines with
  | [] => []
  | first :: rest =>
    let body := first :: indentedLines (isItem first && 0 < forced) (forced - 1) rest
    let body := (body.reverse.dropWhile List.isEmpty).reverse
    body ++ (lines.drop body.length).take
      (if (lines[body.length]?.bind List.head?) == some '\x7d' then 1 else 0)

/-- How many lines at the end of a paragraph belong to the indented lines after it. -/
def misplaced (paragraph : List TextLine) (after : List TextLine) : Nat :=
  match after.head?, paragraph.getLast? with
  | some next, some last =>
    if next.isEmpty || isItem next then 0
    else if isItem last then (paragraph.reverse.takeWhile isItem).length
    else if last.getLast? == some '\x7b' || last.getLast? == some '\\' then 1
    else 0
  | _, _ => 0

/-- What the lines of a paragraph are: `apart` says that an empty line comes before them, `after` are
the lines behind them. -/
def paragraphOrHeading (apart : Bool) (lines after : List TextLine) : Passage :=
  match lines with
  | [line] =>
    if isHeading line then .heading (Text.trim (line.drop 1))
    else
      let alone := apart && match after with
        | [] :: next :: _ => !isIndented next
        | _ => false
      if alone && readsAsHeading line then .heading line else .paragraph lines
  | lines => .paragraph lines

/-- The blocks of some lines, of which the first `forced` ones count as indented. The first argument is
a bound on the number of blocks. -/
def passagesFrom : Nat → Nat → List TextLine → List Passage
  | 0, _, _ => []
  | fuel + 1, forced, lines =>
    let apart := (lines.head?.map List.isEmpty).getD false
    let lines := lines.dropWhile List.isEmpty
    let takeIndented := fun forced =>
      let body := indentedBlock forced lines
      let passage := if (body.head?.map isItem).getD false then Passage.list apart body
        else .code body
      passage :: passagesFrom fuel 0 (lines.drop body.length)
    match lines with
    | [] => []
    | first :: _ =>
      if 0 < forced || isIndented first then takeIndented forced
      else
        let run := lines.takeWhile fun l => !l.isEmpty && !isIndented l
        let moved := misplaced run (lines.drop run.length)
        if moved == run.length then takeIndented moved
        else
          let own := run.take (run.length - moved)
          let after := lines.drop own.length
          paragraphOrHeading apart own after :: passagesFrom fuel moved after

/-- The blocks of a text. -/
def passages (text : List Char) : List Passage :=
  let lines := unindented (Text.splitAt '\n' text)
  passagesFrom (lines.length + 1) 0 lines

/-! ## Links -/

/-- Where a link of the given text goes. -/
structure LinkTarget where
  text : List Char
  target : List Char
deriving Repr, DecidableEq

/-- The ways of access that a link can start with. -/
def schemes : List (List Char) :=
  ["file", "ftp", "gopher", "http", "https", "mailto", "nntp"].map String.toList

/-- The text in front of the first place where `mark` stands, and the text behind it. -/
def cutAt? (mark : List Char) : List Char → Option (List Char × List Char)
  | [] => if mark.isEmpty then some ([], []) else none
  | c :: rest =>
    if mark.isPrefixOf (c :: rest) then some ([], (c :: rest).drop mark.length)
    else (cutAt? mark rest).map fun (before, after) => (c :: before, after)

/-- Reads a line that says where a link goes. -/
def linkTarget? (line : TextLine) : Option LinkTarget :=
  match line with
  | '[' :: rest =>
    match cutAt? [']', ':'] rest with
    | some (text, c :: d :: rest) =>
      if isIndent c then
        let target := Text.trim (d :: rest)
        match cutAt? [':', '/', '/'] target with
        | some (scheme, _) => if schemes.contains scheme then some ⟨text, target⟩ else none
        | none => none
      else none
    | _ => none
  | _ => none

/-- The links that a paragraph defines, if it does nothing else. -/
def linkTargets? (lines : List TextLine) : Option (List LinkTarget) :=
  lines.mapM linkTarget?

/-! ## Text -/

/-- Punctuation that does not end a link. -/
def isLinkStop (c : Char) : Bool :=
  ['.', ',', ':', ';', '?', '!'].contains c

/-- Whether a character can be in the name of a host. -/
def isHostPart (c : Char) : Bool :=
  c.isAlphanum || ['_', '@', '-', '.', '[', ']', ':'].contains c

/-- Whether a character, other than punctuation, can be in a path on a host. -/
def isPathPart (c : Char) : Bool :=
  c.isAlphanum || "$'()*+&#=@~_/-[]\x7b\x7d%".toList.contains c

/-- The bracket that closes the given one. -/
def closing? : Char → Option Char
  | '(' => some ')'
  | '[' => some ']'
  | '\x7b' => some '\x7d'
  | _ => none

/-- How long a path is. Brackets in it have to match, and punctuation does not end it: `size` is the
length up to here, `best` that of the longest path so far, and `opened` are the brackets that are still to
be closed. -/
def pathSize (opened : List Char) (best size : Nat) : List Char → Nat
  | [] => best
  | c :: rest =>
    if isLinkStop c then pathSize opened best (size + 1) rest
    else if !isPathPart c then best
    else match closing? c with
      | some d => pathSize (d :: opened) best (size + 1) rest
      | none =>
        if c == ')' || c == ']' || c == '\x7d' then
          match opened with
          | d :: opened =>
            if d == c then
              pathSize opened (if opened.isEmpty then size + 1 else best) (size + 1) rest
            else best
          | [] => best
        else pathSize opened (if opened.isEmpty then size + 1 else best) (size + 1) rest

/-- The length of the link that a text starts with; 0 if there is none. -/
def linkSize (cs : List Char) : Nat :=
  let scheme := cs.takeWhile (· != ':')
  match cs.drop scheme.length with
  | ':' :: '/' :: '/' :: c :: rest =>
    if schemes.contains scheme && isHostPart c && !isLinkStop c then
      let host := (((c :: rest).takeWhile isHostPart).reverse.dropWhile isLinkStop).reverse
      scheme.length + 3 + host.length + pathSize [] 0 0 ((c :: rest).drop host.length)
    else 0
  | _ => 0

/-- The number of bytes of a text. -/
def textBytes (cs : List Char) : Nat :=
  cs.foldl (fun n c => n + c.utf8Size) 0

/-- The bytes of the name that a text starts with. -/
def nameBytes (cs : List Char) : Nat :=
  match cs with
  | [] => 0
  | c :: rest =>
    if Text.isLetter c || c == '_' then
      textBytes (c :: rest.takeWhile fun d => Text.isLetter d || d == '_' || d.isDigit)
    else 0

/-- A text without its first bytes, if they are whole characters. -/
def dropBytes? : Nat → List Char → Option (List Char)
  | 0, cs => some cs
  | _, [] => none
  | n + 1, c :: rest => if c.utf8Size ≤ n + 1 then dropBytes? (n + 1 - c.utf8Size) rest else none

/-- Makes quotes of two strokes curly. `whole` is the text from its start, of which `offset` bytes are
done; the next `skip` bytes stay as they are. So do names and links if `links` holds, and strokes in threes
or more; after those, as many bytes stay as there are strokes at twice that distance from the start. -/
def curled (links : Bool) (whole : List Char) (offset skip : Nat) : List Char → List Char
  | [] => []
  | c :: rest =>
    let fixed :=
      if 0 < skip then skip
      else if links && linkSize (c :: rest) != 0 then linkSize (c :: rest)
      else if links then nameBytes (c :: rest)
      else 0
    let size := c.utf8Size
    if 0 < fixed then c :: curled links whole (offset + size) (fixed - size) rest
    else match c, rest with
      | '\x60', '\x60' :: rest =>
        if rest.head? == some '\x60' then
          let more := ((dropBytes? (2 * offset + 3) whole).getD []).takeWhile (· == '\x60')
          '\x60' :: '\x60' :: curled links whole (offset + 2) (1 + more.length) rest
        else '“' :: curled links whole (offset + 2) 0 rest
      | '\'', '\'' :: rest => '”' :: curled links whole (offset + 2) 0 rest
      | c, rest => c :: curled links whole (offset + size) 0 rest

/-- A text that is read for links in brackets. -/
structure LinkReading where
  /-- What is done. -/
  written : List Char := []
  /-- What is not, last character first. -/
  pending : List Char := []
  /-- How much of it stands in front of the last bracket that opens. -/
  opened : Option Nat := none
  /-- The text in brackets, last character first. -/
  inside : List Char := []
  /-- The texts of the links that are used. -/
  used : List (List Char) := []

/-- Reads one more character. -/
def LinkReading.next (targets : List LinkTarget) (r : LinkReading) (c : Char) : LinkReading :=
  let kept := { r with pending := c :: r.pending }
  match c, r.opened with
  | '[', _ => { kept with opened := some r.pending.length }
  | ']', some n =>
    let text := r.inside.reverse
    if targets.any (·.text == text) then
      let before := r.pending.reverse.take n
      let label := r.pending.reverse.drop (n + 1)
      { written := r.written ++ curled true before 0 0 before ++ ['['] ++ curled false label 0 0 label ++
          [']']
        used := text :: r.used }
    else { kept with opened := none, inside := [] }
  | ']', none => { kept with inside := [] }
  | c, some _ => { kept with inside := (if c == '\n' || c == '\t' then ' ' else c) :: r.inside }
  | _, none => kept

/-- The text of a paragraph, and the texts of the links that it uses. -/
def linkedText (targets : List LinkTarget) (text : List Char) : List Char × List (List Char) :=
  let r := text.foldl (LinkReading.next targets) {}
  let rest := r.pending.reverse
  (r.written ++ curled true rest 0 0 rest, r.used)

/-! ## Writing -/

/-- An item of a list: its number, which is empty for a bullet, and its paragraphs. -/
structure ProseItem where
  number : List Char
  paragraphs : List (List TextLine)
deriving Repr, DecidableEq

/-- The items of a list. A mark of the other sort than the first line's starts none. -/
def itemsOf (lines : List TextLine) : List ProseItem :=
  let numbered := ((lines.head?.bind itemMark?).map fun (n, _) => !n.isEmpty).getD false
  let step := fun (line : TextLine) (own, items) =>
    match (itemMark? line).filter fun (n, _) => (!n.isEmpty) == numbered with
    | some (number, text) => ([], (number, Text.trim text :: own) :: items)
    | none => (Text.trim line :: own, items)
  let items : List (List Char × List TextLine) := (lines.foldr step ([], [])).2
  items.map fun (number, own) =>
    { number
      paragraphs :=
        (own.splitBy fun a b => a.isEmpty == b.isEmpty).filter fun p => !p.any List.isEmpty }

/-- The paragraphs of a text in which links can be, or are defined. -/
def Passage.paragraphs : Passage → List (List TextLine)
  | paragraph lines => [lines]
  | list _ lines => (itemsOf lines).flatMap (·.paragraphs)
  | heading _ | code _ => []

/-- Lines as one text. -/
def joinedLines (lines : List TextLine) : List Char :=
  ['\n'].intercalate lines

/-- Writes a paragraph, with the given start of all lines but the first. -/
def paragraphText (targets : List LinkTarget) (start : List Char) (lines : List TextLine) :
    List Char :=
  (linkedText targets (joinedLines lines)).1.flatMap fun c => if c == '\n' then c :: start else [c]

/-- Whether some lines only define links. -/
def onlyDefines (lines : List TextLine) : Bool :=
  (linkTargets? lines).isSome

/-- Writes an item of a list. -/
def ProseItem.text (targets : List LinkTarget) (item : ProseItem) : List Char :=
  let start := "    ".toList
  let paragraphs := (item.paragraphs.filter (!onlyDefines ·)).map fun p =>
    paragraphText targets start p ++ ['\n']
  let mark := if item.number.isEmpty then " - ".toList else item.number ++ ". ".toList
  ' ' :: mark ++ (('\n' :: start).intercalate paragraphs)

/-- Writes a block, and says whether an empty line goes before it. -/
def Passage.text (targets : List LinkTarget) : Passage → Bool × List Char
  | paragraph lines => (true, paragraphText targets [] lines ++ ['\n'])
  | heading text => (true, '#' :: ' ' :: text ++ ['\n'])
  | code lines =>
    (true, (unindented lines).flatMap fun l => (if l.isEmpty then [] else '\t' :: l) ++ ['\n'])
  | list apart lines =>
    let items := itemsOf lines
    let loose := lines.any (fun l => (Text.trim l).isEmpty) ||
      items.any fun i => (i.paragraphs.filter (!onlyDefines ·)).length != 1
    (apart || loose, (if loose then ['\n'] else []).intercalate (items.map (·.text targets)))

/-- Writes the definitions of links, after an empty line. -/
def targetsText (targets : List LinkTarget) : List Char :=
  if targets.isEmpty then []
  else '\n' :: targets.flatMap fun t => '[' :: t.text ++ "]: ".toList ++ t.target ++ ['\n']

/-- Writes a text in the fixed form. -/
def proseText (text : List Char) : List Char :=
  let all := passages text
  let targets := all.flatMap fun p => p.paragraphs.flatMap fun ls => (linkTargets? ls).getD []
  let shown := all.filter fun
    | .paragraph lines => !onlyDefines lines
    | _ => true
  let used := shown.flatMap fun p =>
    p.paragraphs.flatMap fun ls => if onlyDefines ls then [] else (linkedText targets (joinedLines ls)).2
  let isUsed := fun (i : Nat) (t : LinkTarget) =>
    used.contains t.text && !(targets.take i).any (·.text == t.text)
  let marked := targets.zipIdx.map fun (t, i) => (isUsed i t, t)
  let written := (shown.map (Passage.text targets)).zipIdx.flatMap fun ((apart, text), i) =>
    (if 0 < i && apart then ['\n'] else []) ++ text
  written ++ targetsText ((marked.filter (·.1)).map (·.2)) ++
    targetsText ((marked.filter (!·.1)).map (·.2))

/-! ## Comments -/

/-- Whether the text of a comment of one line is an instruction to a tool. -/
def isInstruction (text : List Char) : Bool :=
  let small := fun (c : Char) => c.isLower || c.isDigit
  ["line ", "extern ", "export "].any (·.toList.isPrefixOf text) ||
    match (text.takeWhile small).isEmpty, text.dropWhile small with
    | false, ':' :: c :: _ => small c
    | _, _ => false

/-- Whether every line of a comment after the first starts with a star. -/
def isStarred (text : List Char) : Bool :=
  ((Text.splitAt '\n' text).drop 1).all fun line => (line.dropWhile isIndent).head? == some '*'

/-- A line of a text as a comment. -/
def proseComment (line : TextLine) : List Char :=
  match line with
  | [] => ['/', '/']
  | '\t' :: _ => '/' :: '/' :: line
  | _ => '/' :: '/' :: ' ' :: line

/-- The lines of a text, of which each ends with a line break. -/
def endedLines (text : List Char) : List TextLine :=
  let lines := Text.splitAt '\n' text
  if lines.getLast? == some [] then lines.dropLast else lines

/-- Comments of one line each in the fixed form; nothing is left of blank ones. Instructions go to the
end. -/
def tidiedLines (lines : List (List Char)) : List (List Char) :=
  let bodies := lines.map (·.drop 2)
  let prose := bodies.filter (!isInstruction ·)
  if prose.isEmpty then lines
  else
    let text := prose.flatMap fun l => withoutStart [' '] l ++ ['\n']
    let instructions := bodies.filter isInstruction
    (endedLines (proseText text)).map proseComment ++
      (if instructions.isEmpty then []
      else ['/', '/'] :: instructions.map fun l => '/' :: '/' :: l)

/-- A group of comments in the fixed form of doc comments. All of them stand where the first one did. -/
def tidied (group : List Comment) : List Comment :=
  match group with
  | [] => []
  | first :: rest =>
    let texts := group.map (·.text.toList)
    if texts.all (['/', '/'].isPrefixOf ·) then
      (tidiedLines texts).map fun t => { first with text := String.ofList t }
    else
      let text := first.text.toList
      if rest.isEmpty && text.contains '\n' && !isStarred text then
        let inner := (text.drop 2).take (text.length - 4)
        [{ first with text := String.ofList ("/*\n".toList ++ proseText inner ++ "*/".toList) }]
      else group

end TaggedUnion.Layout
