import TaggedUnion.Diagnostic

/-!
# Reports

A report collects errors so that all of them can be told at once. Joined errors are taken apart when
they are added, so a report is a list of leaves. Errors keep the order they are added in, unless the
report is sorted by position: errors without a position come first, the others follow by file name
and offset, and errors at one position stay in order.
-/

namespace TaggedUnion

/-- Errors to be reported together; none of them is joined. -/
structure Report where
  errors : List ErrorTree := []

namespace Report

/-- Adds the leaves of an error. -/
def add (r : Report) : Option ErrorTree → Report
  | none => r
  | some e => ⟨r.errors ++ e.leaves⟩

/-- The number of errors. -/
def size (r : Report) : Nat :=
  r.errors.length

/-- All errors as one, or none if there are none. -/
def error? (r : Report) : Option ErrorTree :=
  if r.errors.isEmpty then none else some (.joined r.errors)

/-- What errors are sorted by: the file name and the offset, with an offset of -1 for errors without
a position. -/
def sortKey (e : ErrorTree) : String × Int :=
  match e.diagnostic? with
  | none => ("", -1)
  | some d => if d.position.isValid then (d.position.file, d.position.offset) else ("", -1)

/-- The order of sort keys: by file name, then by offset. -/
def keyLe (a b : String × Int) : Bool :=
  a.1 < b.1 || (a.1 == b.1 && a.2 ≤ b.2)

/-- Sorts the errors by position, keeping the order of errors at one position. -/
def inSourceOrder (r : Report) : Report :=
  ⟨r.errors.mergeSort fun a b => keyLe (sortKey a) (sortKey b)⟩

end Report

end TaggedUnion
