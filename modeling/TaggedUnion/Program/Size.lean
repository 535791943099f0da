import TaggedUnion.Program.Operand

/-!
# Sizes of values

How many bytes values of a type take up, and at multiples of how many bytes they are placed, on a machine
with words of eight bytes.
-/

namespace TaggedUnion.Program

open TaggedUnion.Types

/-- The space that a value takes up. -/
structure Space where
  size : Nat
  /-- Values are placed at multiples of this number. -/
  align : Nat

/-- The space of a word. -/
def Space.word : Space := ⟨8, 8⟩

/-- The space of several words. -/
def Space.words (n : Nat) : Space := ⟨8 * n, 8⟩

/-- The next multiple of a number. -/
def alignTo (n align : Nat) : Nat :=
  (n + align - 1) / align * align

/-- The space of a basic type. -/
def basicSpace (name : String) : Space :=
  match signedBits.lookup name, unsignedBits.lookup name with
  | some bits, _ => ⟨bits / 8, bits / 8⟩
  | _, some bits => ⟨bits / 8, bits / 8⟩
  | _, _ =>
    match name with
    | "bool" => ⟨1, 1⟩
    | "float32" => ⟨4, 4⟩
    | "complex64" => ⟨8, 4⟩
    | "complex128" => ⟨16, 8⟩
    | "string" => .words 2
    | _ => .word

/-- Where fields are placed, and the end of the last one. -/
def offsets (start : Nat) : List Space → List Nat × Nat
  | [] => ([], start)
  | f :: rest =>
    let offset := alignTo start f.align
    let (more, stop) := offsets (offset + f.size) rest
    (offset :: more, stop)

/-- The space of a struct. A field without size at the end of others takes up a byte. -/
def structSpace (fields : List Space) : Space :=
  let (places, stop) := offsets 0 fields
  let align := fields.foldl (fun a f => max a f.align) 1
  let last := places.getLast?.getD 0
  ⟨alignTo (if 0 < last && stop == last then stop + 1 else stop) align, align⟩

variable (s : Site) (ask : Ask)

/-- The space of a type that is nested to at most the given depth. -/
def spaceTo : Nat → Ty → Check Space
  | 0, _ => throw .unclear
  | depth + 1, t => do
    match ← underlying s ask t with
    | .basic name => return basicSpace name
    | .slice _ => return .words 3
    | .interface _ _ _ => return .words 2
    | .array n elem =>
      let e ← spaceTo depth elem
      return ⟨n * e.size, e.align⟩
    | .struct fields =>
      return structSpace (← fields.mapM fun f => spaceTo depth f.2)
    | .param _ _ => throw .unclear
    | _ => return .word

/-- The space of a type. -/
def space (t : Ty) : Check Space :=
  spaceTo s ask 1000 t

end TaggedUnion.Program
