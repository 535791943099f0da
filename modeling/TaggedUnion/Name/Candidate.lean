/-!
# Candidate names

When a name is taken, numbered variants of it are tried: the name itself, then the name followed by
2, 3, …. An underscore separates the number from a name that already ends in a digit, so that
`answer42_2` is not mistaken for the number 422.

A search among the candidates stops at the first one that is acceptable. Since the candidates of one
name are pairwise distinct, a search that finitely many names block needs no more candidates than
there are blocking names, plus one.
-/

namespace TaggedUnion.Name

/-- What stands between a name and the number of a candidate. -/
def separator (base : String) : String :=
  match base.toList.getLast? with
  | some c => if c.isDigit then "_" else ""
  | none => ""

/-- The candidates of a name, counted from 0. -/
def candidate (base : String) : Nat → String
  | 0 => base
  | n + 1 => base ++ separator base ++ toString (n + 2)

/-- The first `count` candidates of a name. An empty name has none. -/
def candidates? (base : String) (count : Nat) : Option (List String) :=
  if base.isEmpty then none else some ((List.range count).map (candidate base))

/-- What is said of a search that starts from an empty name. -/
def emptyNameMessage : String :=
  "empty name"

/-- The first candidate of a name that is acceptable, among as many as `blocked` names can block. -/
def search? (base : String) (blocked : Nat) (acceptable : String → Bool) : Option String :=
  if base.isEmpty then none
  else ((List.range (blocked + 1)).map (candidate base)).find? acceptable

end TaggedUnion.Name
