import TaggedUnion.Program.Load
import TaggedUnion.Proofs.Source.Tokens

/-!
# Packages from characters

A text is stored in bytes. When a package is evaluated, taking its text apart into characters is most of the work,
though the characters are known from the start. A package of one file is loaded from the characters of the file
(`loadAll?_cons`), and can be evaluated from there.
-/

namespace TaggedUnion

open Source

/-- Reads a file that is added to a file set, given its characters. -/
def Source.scanChars? (files : FileSet) (name : String) (cs : List Char) : Option (FileInfo × List Token) := do
  guard (isReadable cs)
  let base := files.nextBase
  let marker := if cs.head? == some (Char.ofNat 0xfeff) then 3 else 0
  let lexemes ← cut? (if marker == 3 then cs.drop 1 else cs)
  let bare : FileInfo := { name, base, size := byteSize cs, lines := 0 :: lineStarts 0 cs }
  let info ← bare.addMarks? marker lexemes
  return (info, tokensFrom false (base + marker) lexemes)

theorem Source.scan?_eq (files : FileSet) (name text : String) :
    scan? files name text = scanChars? files name text.toList := by
  rw [scan?, scanChars?, byteSize_toList]

/-- Parses a file that is added to a file set, given its characters. -/
def Syntax.parseChars? (files : FileSet) (name : String) (cs : List Char) : Option (FileSet × File) := do
  let (info, tokens) ← scanChars? files name cs
  let (led, comments) := groupComments info tokens
  let (file, _) ← (Parser.file (parserDepth tokens) name comments).run led
  let code := led.map (·.token)
  return (files.add info, { file with words := wordsOf code, qualifiers := qualifiersOf code })

theorem Syntax.parseFile?_eq (files : FileSet) (name text : String) :
    parseFile? files name text = parseChars? files name text.toList := by
  rw [parseFile?, parseChars?, scan?_eq]

namespace Program

/-- Adds a package of one file to a program, given the characters of the file. -/
def loadChars? (p : Program) (path name : String) (cs : List Char) : Option Program := do
  let (files, f) ← Syntax.parseChars? p.files name cs
  resolvePackage? { p with files } path [f]

/-- A package of one file is loaded from the characters of the file. -/
theorem loadAll?_cons (p : Program) (path name text : String) (rest : List (String × List (String × String))) :
    p.loadAll? ((path, [(name, text)]) :: rest) = (p.loadChars? path name text.toList).bind (loadAll? · rest) := by
  have hload : p.load? path [(name, text)] = p.loadChars? path name text.toList := by
    rw [load?, List.mergeSort_singleton, readFiles?, Syntax.parseFile?_eq, loadChars?]
    cases Syntax.parseChars? p.files name text.toList <;> rfl
  rw [loadAll?, hload]
  rfl

end Program

end TaggedUnion
