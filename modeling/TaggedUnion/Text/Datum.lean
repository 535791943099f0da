import TaggedUnion.Text.Verb

/-!
# Data

*Data* are what templates can show part by part: numbers and texts, records and lists of data, and
references to data. Some data also have a text of their own, which the verbs for texts show in
place of the parts.

A verb is applied to each part, so that one that does not fit shows so there. A reference is followed at the
top only. Where it stands inside of other data its text would be an address, which nothing fixes; it is
then named by its sort.
-/

namespace TaggedUnion.Text

/-- Data of a sort. -/
inductive Datum
  | number (sort : String) (n : Int)
  | text (s : String)
  | record (sort : String) (parts : List (String × Datum))
  | list (sort : String) (items : List Datum)
  | reference (sort : String) (target : Datum)
  /-- A reference to nothing. -/
  | absent (sort : String)
  /-- A part that is left out and could have been of several sorts. -/
  | void (sort : String)
  /-- Data whose parts are not known. -/
  | sealed (sort : String)
  /-- Data that have a text of their own. -/
  | speaking (text : String) (d : Datum)
deriving Inhabited

namespace Datum

/-- How a verb shows data that have no fixed text. -/
def unfixed (verb : Char) (sort : String) : String :=
  "%!" ++ String.singleton verb ++ "(" ++ sort ++ ")"

/-- Puts the texts of parts between brackets; literals have commas between them. -/
def enclose (f : Flags) (opening closing : String) (parts : List String) : String :=
  opening ++ (if f.literal then ", " else " ").intercalate parts ++ closing

/-- The plain form of a reference to nothing. -/
def absentText (f : Flags) (sort : String) : String :=
  if f.literal then "(" ++ sort ++ ")(nil)" else pad f "<nil>"

/-- A reference to nothing by a verb; verbs for numbers show a zero. -/
def writeAbsent (f : Flags) (verb : Char) (sort : String) : String :=
  if verb == 'v' then absentText f sort
  else if ['b', 'o', 'd', 'x', 'X'].contains verb then writeNumber f verb sort 0
  else misfit verb sort (absentText f sort)

/-- Data by a verb: at the top or inside of other data, and with their own texts or without. -/
def write (f : Flags) (verb : Char) (own : Bool) (top : Bool) : Datum → String
  | number sort n => writeNumber f verb sort n
  | text s => writeText f verb s
  | record sort parts =>
    (if f.literal then sort else "") ++ enclose f "\x7b" "\x7d" (writeParts parts)
  | list sort items =>
    if f.literal then
      sort ++ if items.isEmpty then "(nil)" else enclose f "\x7b" "\x7d" (writeItems items)
    else enclose f "[" "]" (writeItems items)
  | reference sort target =>
    if top then "&" ++ write f verb own false target else unfixed verb sort
  | absent sort => writeAbsent f verb sort
  | void sort => if f.literal then sort ++ "(nil)" else "<nil>"
  | sealed sort => unfixed verb sort
  | speaking s d =>
    let parts := write f verb own top d
    if own && !f.literal then (text? f verb s).getD parts else parts
where
  writeItems : List Datum → List String
    | [] => []
    | d :: rest => write f verb own false d :: writeItems rest
  writeParts : List (String × Datum) → List String
    | [] => []
    | (name, d) :: rest =>
      ((if f.named || f.literal then name ++ ":" else "") ++ write f verb own false d) ::
        writeParts rest

/-- Data by a verb that does not fit them at all. -/
def misfitting (f : Flags) (verb : Char) (sort : String) (d : Datum) : String :=
  misfit verb sort (d.write f 'v' false true)

end Datum

end TaggedUnion.Text
