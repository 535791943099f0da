import TaggedUnion.Types.Predeclared

/-!
# Type sets

The types that satisfy a constraint form a set: all types, or those that one of a list of *terms*
admits. A term admits one type, or, if it is marked, all types with that underlying type. Sets of an
interface's elements are intersected, sets of alternatives united.

All types here are in normal form, so that identical types are equal; `under` gives the normal form of
the type that underlies one.
-/

namespace TaggedUnion.Types

/-- A type, perhaps marked as standing for all types it underlies. -/
abbrev Term := Bool × Ty

namespace Term

variable (under : Ty → Ty)

/-- Whether no type is admitted by both terms. -/
def disjoint (a b : Term) : Bool :=
  let ta := if b.1 then under a.2 else a.2
  let tb := if a.1 then under b.2 else b.2
  ta != tb

/-- Whether every type that the first term admits is admitted by the second. -/
def subset (a b : Term) : Bool :=
  !disjoint under a b && (!a.1 || b.1)

/-- The term for what both admit. -/
def inter? (a b : Term) : Option Term :=
  if disjoint under a b then none else some (if !a.1 || b.1 then a else b)

end Term

/-- A set of types: all of them, or those that one of the terms admits; if `comparable` holds, only
those with values that can be compared. -/
structure TypeSet where
  terms : Option (List Term) := none
  comparable : Bool := false

namespace TypeSet

variable (under : Ty → Ty)

/-- Adds a term unless another one covers it; terms that it covers are dropped. -/
def addTerm (terms : List Term) (a : Term) : List Term :=
  if terms.any (Term.subset under a) then terms
  else terms.filter (fun b => !Term.subset under b a) ++ [a]

/-- The terms of two lists. -/
def unite (as bs : List Term) : List Term :=
  bs.foldl (addTerm under) as

/-- The terms for what both lists admit. -/
def intersect (as bs : List Term) : List Term :=
  unite under [] (as.flatMap fun a => bs.filterMap (Term.inter? under a))

/-- The types that are in both sets. If comparability is asked for and there are terms, those with
values that cannot be compared are dropped. -/
def inter (isComparable : Ty → Bool) (a b : TypeSet) : TypeSet :=
  let terms := match a.terms, b.terms with
    | none, ts => ts
    | ts, none => ts
    | some as, some bs => some (intersect under as bs)
  let comparable := a.comparable || b.comparable
  match terms with
  | none => { comparable }
  | some ts => { terms := some (if comparable then ts.filter (isComparable ·.2) else ts) }

end TypeSet

end TaggedUnion.Types
