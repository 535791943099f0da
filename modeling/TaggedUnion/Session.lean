import TaggedUnion.Code.Conversions
import TaggedUnion.Code.Frame
import TaggedUnion.Report
import TaggedUnion.Union.Build

/-!
# Sessions

A session builds a package and generates its conversions, any number of times and in any order, except
that nothing can be generated before the package was built without an error. The imports and the names
of packages stay from one time to the next; the text of the code is used up each time.
-/

namespace TaggedUnion

open Source

/-- A package that conversions are generated for. -/
structure Session where
  subject : Subject
  draft : Draft := {}
  /-- The unions that were found, in order. -/
  unions : List Built := []
  /-- Whether the package was built without an error. -/
  ready : Bool := false

/-- Registers a union; one at the same place is replaced. -/
def register (unions : List Built) (b : Built) : List Built :=
  if unions.any (·.union.pos == b.union.pos) then
    unions.map fun old => if old.union.pos == b.union.pos then b else old
  else unions ++ [b]

/-- The findings of a build as one error. -/
def Build.error? (b : Build) (w : Wording) : Option ErrorTree :=
  (b.findings.foldl (fun (r : Report) f => r.add (some (.located (f.diagnostic w)))) {}).error?

namespace Session

/-- A new session for a package, given the current names of packages. -/
def start (subject : Subject) (names : PackageNames) : Session :=
  { subject, draft := { names } }

/-- Builds the package. -/
def build (workingDir : String) (σ : Session) : Option ErrorTree × Session :=
  let b := σ.subject.build
  let w := σ.subject.wording workingDir σ.draft.names.current
  (b.error? w,
    { σ with unions := b.unions.foldl register σ.unions, ready := σ.ready || b.isClean })

/-- Writes the code of a union, under a comment with its name. -/
def writeUnion (s : Subject) (d : Draft) (b : Built) : Draft :=
  if b.conversions.isEmpty then d
  else (d.write ("// enumorph: " ++ b.union.name ++ "\n\n")).writeConversions s b.union b.conversions

/-- The code of all unions; there is none if there are no conversions. -/
def code (version : String) (σ : Session) : Option String × Session :=
  let d := σ.unions.foldl (writeUnion σ.subject) σ.draft
  if σ.unions.all (·.conversions.isEmpty) then (none, { σ with draft := d })
  else
    (some (generatedFile version σ.subject.name d), { σ with draft := { d with text := "" } })

/-- Generates the code of the package; not possible before it was built without an error. -/
def generate? (version : String) (σ : Session) : Option (Option String × Session) :=
  if σ.ready then some (σ.code version) else none

/-- What is said when code is asked for too early. -/
def notReadyMessage : String := "Generate called before a successful Build"

end Session

end TaggedUnion
