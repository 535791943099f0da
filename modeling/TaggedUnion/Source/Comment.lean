import TaggedUnion.Source.Token

/-!
# Comment groups

Comments with no blank line and no code between them form a group. A comment on the line of the code
before it starts a group of its own, which takes in only comments of that same line. The group
that ends on the line directly before a token is the token's *lead*: the doc comment of the
declaration the token starts. The group on the line of the code before a token is its *trail* if
nothing else follows on that line. Lines are those of the text; line marks make no difference.
-/

namespace TaggedUnion.Source

/-- A comment with its delimiters. -/
structure Comment where
  pos : Pos
  text : String
deriving Repr, DecidableEq

/-- Where a comment ends. -/
def Comment.stop (c : Comment) : Pos :=
  c.pos + c.text.utf8ByteSize

/-- The line a comment ends on, if it starts on the given one. -/
def Comment.lastLine (c : Comment) (line : Int) : Int :=
  if c.text.startsWith "/*" then line + c.text.toList.count '\n' else line

/-- A token that is no comment, with the group of comments that leads to it and the one that ends the
line before it. -/
structure LedToken where
  token : Token
  lead : Option (List Comment) := none
  trail : Option (List Comment) := none
deriving Repr, DecidableEq

/-- Splits off a group: the longest run of comments each of which starts at most `gap` lines after
the end of the one before. Also returns the line the group ends on. -/
def splitGroup (line : Pos → Int) (gap : Int) (last : Int) :
    List Comment → List Comment × Int × List Comment
  | [] => ([], last, [])
  | c :: rest =>
    if line c.pos ≤ last + gap then
      let (group, last', rest') := splitGroup line gap (c.lastLine (line c.pos)) rest
      (c :: group, last', rest')
    else ([], last, c :: rest)

theorem splitGroup_length (line : Pos → Int) (gap last : Int) (cs : List Comment) :
    (splitGroup line gap last cs).2.2.length ≤ cs.length := by
  induction cs generalizing last with
  | nil => simp [splitGroup]
  | cons c rest ih =>
    simp only [splitGroup]
    split
    · exact Nat.le_succ_of_le (ih _)
    · simp

/-- Splits comments into groups with no blank lines inside, each with the line it ends on. -/
def splitGroups (line : Pos → Int) : List Comment → List (List Comment × Int)
  | [] => []
  | c :: rest =>
    let s := splitGroup line 1 (c.lastLine (line c.pos)) rest
    (c :: s.1, s.2.1) :: splitGroups line s.2.2
termination_by cs => cs.length
decreasing_by
  have := splitGroup_length line 1 (c.lastLine (line c.pos)) rest
  simp only [List.length_cons]
  omega

/-- The comments between two tokens. -/
structure Gap where
  /-- All groups, in order. -/
  groups : List (List Comment) := []
  /-- The group on the line of the first token, and the line it ends on. -/
  trailing : List Comment × Int := ([], 0)
  /-- Where the line changes after that group, if there are comments left. -/
  more : Bool := false
  /-- The last of the other groups, and the line it ends on. -/
  last : Option (List Comment × Int) := none

/-- Groups the comments that follow a token. -/
def Gap.of (line : Pos → Int) (before : Pos) (comments : List Comment) : Gap :=
  let (trailing, rest) := match comments with
    | [] => (([], 0), [])
    | c :: _ =>
      if line c.pos = line before then
        let s := splitGroup line 0 (line c.pos) comments
        ((s.1, s.2.1), s.2.2)
      else (([], 0), comments)
  let groups := splitGroups line rest
  { groups := (if trailing.1.isEmpty then [] else [trailing.1]) ++ groups.map (·.1)
    trailing
    more := !rest.isEmpty
    last := groups.getLast? }

/-- A token after a gap. -/
def Gap.token (line : Pos → Int) (gap : Gap) (t : Token) : LedToken :=
  let endsLine := gap.more || line t.pos != gap.trailing.2 || t.isSemicolon || t.kind == .eof
  { token := t
    lead := (gap.last.filter fun g => g.2 + 1 == line t.pos).map (·.1)
    trail := if !gap.trailing.1.isEmpty && endsLine then some gap.trailing.1 else none }

/-- Separates comments from the other tokens. `before` is the place of the token before, `gap` the
comments since then, last one first. -/
def leadFrom (line : Pos → Int) (before : Pos) (gap : List Comment) :
    List Token → List LedToken × List (List Comment)
  | [] => ([], (Gap.of line before gap.reverse).groups)
  | t :: rest =>
    if t.kind == .comment then leadFrom line before (⟨t.pos, t.text⟩ :: gap) rest
    else
      let g := Gap.of line before gap.reverse
      let (tokens, groups) := leadFrom line t.pos [] rest
      (g.token line t :: tokens, g.groups ++ groups)

/-- The tokens of a file with their leads and trails, and all comment groups in order. -/
def groupComments (info : FileInfo) (tokens : List Token) :
    List LedToken × List (List Comment) :=
  leadFrom (fun p => if p = 0 then 0 else info.lineAt (p - info.base)) 0 [] tokens

end TaggedUnion.Source
