import TaggedUnion.Text.Casing

/-!
# Title casing

Words of letters, digits and underscores are title-cased by giving the first cased letter of every
word its title case form and leaving all other characters alone. A digit or an underscore does not
end a word; a character of a script written without spaces does (ideographs, kana, Thai and its
neighbours), and so does one that the tables of title casing do not know yet. The next cased letter
then starts a new word.
-/

namespace TaggedUnion.Text

/-- Letters and digits after which a new word starts. -/
def wordBreakSpans : List (Nat × Nat) :=
  [(0x88f, 0x88f), (0xc5c, 0xc5c), (0xcdc, 0xcdc), (0xe01, 0xe30), (0xe32, 0xe33), (0xe40, 0xe46),
   (0xe81, 0xe82), (0xe84, 0xe84), (0xe86, 0xe8a), (0xe8c, 0xea3), (0xea5, 0xea5), (0xea7, 0xeb0),
   (0xeb2, 0xeb3), (0xebd, 0xebd), (0xec0, 0xec4), (0xec6, 0xec6), (0xedc, 0xedf),
   (0x1000, 0x102a), (0x103f, 0x103f), (0x1050, 0x1055), (0x105a, 0x105d), (0x1061, 0x1061),
   (0x1065, 0x1066), (0x106e, 0x1070), (0x1075, 0x1081), (0x108e, 0x108e), (0x1780, 0x17b3),
   (0x17d7, 0x17d7), (0x17dc, 0x17dc), (0x1950, 0x196d), (0x1970, 0x1974), (0x1980, 0x19ab),
   (0x19b0, 0x19c9), (0x1a20, 0x1a54), (0x1aa7, 0x1aa7), (0x1c89, 0x1c8a), (0x3006, 0x3006),
   (0x3031, 0x3035), (0x3041, 0x3096), (0x309d, 0x309f), (0x30a1, 0x30fa), (0x30fc, 0x30ff),
   (0x31f0, 0x31ff), (0x3400, 0x4dbf), (0x4e00, 0x9fff), (0xa7cb, 0xa7cf), (0xa7d2, 0xa7d2),
   (0xa7d4, 0xa7d4), (0xa7da, 0xa7dc), (0xa7f1, 0xa7f1), (0xa9e0, 0xa9e4), (0xa9e6, 0xa9ef),
   (0xa9fa, 0xa9fe), (0xaa60, 0xaa76), (0xaa7a, 0xaa7a), (0xaa7e, 0xaaaf), (0xaab1, 0xaab1),
   (0xaab5, 0xaab6), (0xaab9, 0xaabd), (0xaac0, 0xaac0), (0xaac2, 0xaac2), (0xaadb, 0xaadd),
   (0xf900, 0xfa6d), (0xfa70, 0xfad9), (0xff66, 0xff9d), (0x105c0, 0x105f3), (0x10940, 0x10959),
   (0x10d40, 0x10d65), (0x10d6f, 0x10d85), (0x10ec2, 0x10ec7), (0x11380, 0x11389),
   (0x1138b, 0x1138b), (0x1138e, 0x1138e), (0x11390, 0x113b5), (0x113b7, 0x113b7),
   (0x113d1, 0x113d1), (0x113d3, 0x113d3), (0x116d0, 0x116e3), (0x11700, 0x1171a),
   (0x11740, 0x11746), (0x11bc0, 0x11be0), (0x11bf0, 0x11bf9), (0x11db0, 0x11ddb),
   (0x11de0, 0x11de9), (0x13460, 0x143fa), (0x16100, 0x1611d), (0x16130, 0x16139),
   (0x16d40, 0x16d6c), (0x16d70, 0x16d79), (0x16ea0, 0x16eb8), (0x16ebb, 0x16ed3),
   (0x16ff2, 0x16ff3), (0x17000, 0x18cd5), (0x18cff, 0x18d1e), (0x18d80, 0x18df2),
   (0x1aff0, 0x1aff3), (0x1aff5, 0x1affb), (0x1affd, 0x1affe), (0x1b000, 0x1b122),
   (0x1b132, 0x1b132), (0x1b150, 0x1b152), (0x1b155, 0x1b155), (0x1b164, 0x1b167),
   (0x1b170, 0x1b2fb), (0x1ccf0, 0x1ccf9), (0x1e5d0, 0x1e5ed), (0x1e5f0, 0x1e5fa),
   (0x1e6c0, 0x1e6de), (0x1e6e0, 0x1e6e2), (0x1e6e4, 0x1e6e5), (0x1e6e7, 0x1e6ed),
   (0x1e6f0, 0x1e6f4), (0x1e6fe, 0x1e6ff), (0x20000, 0x2a6df), (0x2a700, 0x2b81d),
   (0x2b820, 0x2cead), (0x2ceb0, 0x2ebe0), (0x2ebf0, 0x2ee5d), (0x2f800, 0x2fa1d),
   (0x30000, 0x3134a), (0x31350, 0x33479)]

/-- A letter or digit after which a new word starts. -/
def isWordBreak (c : Char) : Bool :=
  128 ≤ c.toNat && inSpans wordBreakSpans c.toNat

/-- Title-cases a run of letters, digits and underscores; `inWord` says whether the word already has
its first cased letter. -/
def titleFrom (inWord : Bool) : List Char → List Char
  | [] => []
  | c :: rest =>
    if isCased c then
      (if inWord then [c] else toTitle c) ++ titleFrom true rest
    else c :: titleFrom (inWord && !isWordBreak c) rest

/-- Title-cases a run of letters, digits and underscores. -/
def title (piece : List Char) : List Char :=
  titleFrom false piece

end TaggedUnion.Text
