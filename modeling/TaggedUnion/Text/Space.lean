/-!
# White space

The characters that separate words, in any script, and how texts are freed of them.
-/

namespace TaggedUnion.Text

/-- The ranges of white space, by character number. -/
def spaceRanges : List (Nat × Nat) :=
  [(0x09, 0x0d), (0x20, 0x20), (0x85, 0x85), (0xa0, 0xa0), (0x1680, 0x1680), (0x2000, 0x200a),
   (0x2028, 0x2029), (0x202f, 0x202f), (0x205f, 0x205f), (0x3000, 0x3000)]

/-- Whether a character is white space. -/
def isSpace (c : Char) : Bool :=
  spaceRanges.any fun (first, last) => first ≤ c.toNat && c.toNat ≤ last

/-- A text without white space at its end. -/
def trimRight (cs : List Char) : List Char :=
  (cs.reverse.dropWhile isSpace).reverse

/-- A text without white space around it. -/
def trim (cs : List Char) : List Char :=
  trimRight (cs.dropWhile isSpace)

/-- The words of a text, which white space separates. -/
def fields (cs : List Char) : List (List Char) :=
  (cs.splitBy fun a b => isSpace a == isSpace b).filter fun w => !w.any isSpace

/-- Splits a text at a separator. -/
def splitAt (sep : Char) (cs : List Char) : List (List Char) :=
  cs.foldr (fun c acc =>
    if c == sep then [] :: acc
    else match acc with
      | [] => [[c]]
      | w :: rest => (c :: w) :: rest) [[]]

end TaggedUnion.Text
