import TaggedUnion.Text.Printable

/-!
# Byte strings

A byte string usually spells a text, character by character, but it may also hold bytes that are part
of no character. Reading it gives a list of *glyphs*: characters and stray bytes. A byte string that
spells a text reads as the characters of that text.
-/

namespace TaggedUnion.Text

/-- A string of bytes. -/
abbrev Bytes := List UInt8

/-- A character, or a byte that is part of none. -/
inductive Glyph
  | char (c : Char)
  | stray (b : UInt8)
deriving Repr, DecidableEq

/-- The character in place of a stray byte. -/
def replacement : Char := Char.ofNat 0xfffd

namespace Bytes

/-- The bytes of a character. -/
def ofChar (c : Char) : Bytes :=
  let n := c.toNat
  let tail := fun shift : Nat => (0x80 + n / Nat.pow 2 shift % 64).toUInt8
  if n < 0x80 then [n.toUInt8]
  else if n < 0x800 then [(0xc0 + n / 64).toUInt8, tail 0]
  else if n < 0x10000 then [(0xe0 + n / 4096).toUInt8, tail 6, tail 0]
  else [(0xf0 + n / 262144).toUInt8, tail 12, tail 6, tail 0]

/-- The bytes of a text. -/
def ofText (s : String) : Bytes :=
  s.toList.flatMap ofChar

/-- How many bytes follow the first byte of a character, and between which bounds the second of them
lies: with other bytes there, the character would be one of fewer bytes, or none. -/
def following? (first : UInt8) : Option (Nat × UInt8 × UInt8) :=
  if first < 0xc2 then none
  else if first < 0xe0 then some (1, 0x80, 0xbf)
  else if first == 0xe0 then some (2, 0xa0, 0xbf)
  else if first == 0xed then some (2, 0x80, 0x9f)
  else if first < 0xf0 then some (2, 0x80, 0xbf)
  else if first == 0xf0 then some (3, 0x90, 0xbf)
  else if first < 0xf4 then some (3, 0x80, 0xbf)
  else if first == 0xf4 then some (3, 0x80, 0x8f)
  else none

/-- Whether a byte is one of those that follow the first byte of a character. -/
def isTail (b : UInt8) : Bool :=
  0x80 ≤ b && b ≤ 0xbf

/-- The character at the front of a byte string that starts with the given byte, and how many of the
bytes after it belong to it. -/
def front? (first : UInt8) (rest : Bytes) : Option (Char × Nat) :=
  if first < 0x80 then some (Char.ofNat first.toNat, 0)
  else do
    let (count, low, high) ← following? first
    let second ← rest.head?
    let tail := rest.take count
    guard (tail.length == count && low ≤ second && second ≤ high && tail.all isTail)
    let lead := first.toNat % Nat.pow 2 (6 - count)
    return (Char.ofNat (tail.foldl (fun n b => n * 64 + b.toNat % 64) lead), count)

/-- The glyphs of a byte string. -/
def glyphs : Bytes → List Glyph
  | [] => []
  | b :: rest =>
    match front? b rest with
    | some (c, n) => .char c :: glyphs (rest.drop n)
    | none => .stray b :: glyphs rest
termination_by bs => bs.length
decreasing_by all_goals (simp only [List.length_cons, List.length_drop]; omega)

/-- The text of a byte string, with stray bytes replaced. -/
def text (bs : Bytes) : String :=
  String.ofList (bs.glyphs.map fun
    | .char c => c
    | .stray _ => replacement)

end Bytes

end TaggedUnion.Text
