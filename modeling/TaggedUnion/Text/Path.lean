/-!
# File paths

Slash-separated paths, cleaned by name only: empty and `.` components are dropped and `..` removes
the component before it.
-/

namespace TaggedUnion.Text.Path

/-- A path that starts at the root. -/
def isAbsolute (path : String) : Bool :=
  path.startsWith "/"

/-- The components of a path, last one first, with `.` and `..` resolved where possible. -/
def resolve (absolute : Bool) (components : List String) : List String :=
  components.foldl (fun stack c =>
    if c == "" || c == "." then stack
    else if c == ".." then
      match stack with
      | [] => if absolute then [] else [".."]
      | top :: rest => if top == ".." then ".." :: stack else rest
    else c :: stack) []

/-- The components of a path after cleaning. -/
def components (path : String) : List String :=
  (resolve (isAbsolute path) (path.splitOn "/")).reverse

/-- The path with the given components. -/
def ofComponents (absolute : Bool) (cs : List String) : String :=
  if absolute then "/" ++ "/".intercalate cs
  else if cs.isEmpty then "." else "/".intercalate cs

/-- The shortest spelling of a path. -/
def clean (path : String) : String :=
  ofComponents (isAbsolute path) (components path)

/-- Joins the parts that are not empty and cleans the result; nothing at all joins to nothing. -/
def join (parts : List String) : String :=
  match parts.filter (· != "") with
  | [] => ""
  | ps => clean ("/".intercalate ps)

/-- Everything up to the last slash, which is kept. -/
def directoryPart (path : String) : String :=
  String.ofList (path.toList.reverse.dropWhile (· != '/')).reverse

/-- The directory a path lies in. -/
def directory (path : String) : String :=
  clean (directoryPart path)

/-- Drops the longest list of components that two lists start with. -/
def dropCommon : List String → List String → List String × List String
  | a :: as, b :: bs => if a == b then dropCommon as bs else (a :: as, b :: bs)
  | as, bs => (as, bs)

/-- The path that leads from `base` to `target`, if it can be told from their names alone. -/
def relative? (base target : String) : Option String :=
  if isAbsolute base != isAbsolute target then
    if clean base == clean target then some "." else none
  else
    let (up, down) := dropCommon (components base) (components target)
    if up.head? == some ".." then none
    else some (ofComponents false (up.map (fun _ => "..") ++ down))

end TaggedUnion.Text.Path
