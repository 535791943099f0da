import TaggedUnion.Session

/-!
# Analysis

The linter builds a package and shows everything that is wrong as warnings, without generating anything.
It knows the package by its scope, and has no other name or path for it.
-/

namespace TaggedUnion.Lint

open Source

/-- What the linter shows: a span of the source, the kind of problem, and a message. -/
structure Warning where
  pos : Pos
  stop : Pos
  category : String
  message : String
deriving Repr, DecidableEq

/-- The warning for an error, if it has a diagnostic. -/
def warning? (e : ErrorTree) : Option Warning :=
  e.diagnostic?.map fun d =>
    { pos := d.pos, stop := d.stop, category := (d.kind.map Kind.text).getD "", message := d.message }

/-- Why a package cannot be analysed. -/
inductive Refusal
  /-- There is no scope, which the linter takes the name of the package from. -/
  | noScope
  | lacks (part : Part)
deriving Repr, DecidableEq

/-- What is said of a package that cannot be analysed. -/
def Refusal.message : Refusal → String
  | noScope => "runtime error: invalid memory address or nil pointer dereference"
  | lacks part => part.message

/-- The warnings of a package that lacks no part. -/
def analyse (workingDir : String) (names : PackageNames) (d : Delivery) :
    Except Refusal (List Warning) :=
  match d.scope with
  | none => .error .noScope
  | some scope =>
    match { d with name := scope.name, path := scope.path : Delivery }.subject with
    | .error part => .error (.lacks part)
    | .ok s =>
      let (error, _) := (Session.start s names).build workingDir
      .ok ((Report.add {} error).errors.filterMap warning?)

end TaggedUnion.Lint
