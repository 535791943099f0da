import TaggedUnion.Union.Conversion

/-!
# Building a package

Building finds the tagged unions of a package and checks their variants. Everything that is wrong is
reported: first the misplaced directives, then, in the order of the declarations, what is wrong with each.
A declaration that is no tagged union is reported once, and its variants are not looked at.

What building comes to depends on nothing but the package.
-/

namespace TaggedUnion

open TaggedUnion.Types

/-- A union with the conversions of those of its variants that passed the checks. -/
structure Built where
  union : Union
  conversions : List Conversion

/-- What building comes to: everything that is wrong, and the unions. -/
structure Build where
  findings : List Finding := []
  unions : List Built := []

/-- The outcomes that are conversions. -/
def passed (outcomes : List (Except Finding Conversion)) : List Conversion :=
  outcomes.filterMap fun
    | .ok c => some c
    | .error _ => none

/-- The outcomes that are not. -/
def failed (outcomes : List (Except Finding Conversion)) : List Finding :=
  outcomes.filterMap fun
    | .ok _ => none
    | .error f => some f

/-- Builds the unions of requests one after the other. -/
def buildAll (s : Subject) (taken : TakenNames) : List Request → Build
  | [] => {}
  | r :: rest =>
    match s.union r.spec with
    | .error finding =>
      let b := buildAll s taken rest
      { b with findings := finding :: b.findings }
    | .ok u =>
      let (taken, outcomes) := u.check s.info.table none taken
      let b := buildAll s taken rest
      { findings := failed outcomes ++ b.findings
        unions := ⟨u, passed outcomes⟩ :: b.unions }

/-- Builds a package. -/
def Subject.build (s : Subject) : Build :=
  let b := buildAll s s.takenNames s.requests
  { b with findings := s.misplacedFindings ++ b.findings }

/-- Whether nothing is wrong. -/
def Build.isClean (b : Build) : Bool :=
  b.findings.isEmpty

end TaggedUnion
