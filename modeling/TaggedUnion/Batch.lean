import TaggedUnion.Session

/-!
# Batches

A batch generates the conversions of several packages at once. If anything is wrong with one of them
nothing is generated, and everything that is wrong with any of them is reported, ordered by position.

The packages share the packages they import, so what these are called after one package carries over to
the next.
-/

namespace TaggedUnion

open Text

/-- A problem that the loader has with a package. -/
structure LoadError where
  /-- The place as `file:line:column`; empty if there is none. -/
  place : String
  message : String

/-- A package as the loader delivers it. -/
structure Loaded where
  delivery : Delivery
  /-- The paths of its files. -/
  paths : List String
  errors : List LoadError := []

/-- What a batch is to do. -/
structure Job where
  /-- The directory that places in messages are relative to. -/
  workingDir : String
  /-- The directory that generated files and places of the loader are relative to. -/
  directory : String
  version : String
  /-- The name of the generated files. -/
  outFile : String

/-- What a batch comes to. -/
inductive Outcome
  /-- Generated files, by path. -/
  | files (outs : List (String × String))
  | failed (error : ErrorTree)
  /-- The batch broke off. -/
  | crashed (message : String)

/-! ## Loading -/

/-- The part of a text before the first colon, and the part after it. -/
def cutAtColon (s : String) : String × String :=
  let cs := s.toList
  (String.ofList (cs.takeWhile (· != ':')), String.ofList ((cs.dropWhile (· != ':')).drop 1))

/-- The error that reports a problem of the loader, with the file relative to a directory. -/
def LoadError.error (directory : String) (e : LoadError) : ErrorTree :=
  if e.place == "" then .plain e.message
  else
    let (path, rest) := cutAtColon e.place
    let place := match Path.relative? directory path with
      | some relative => relative ++ ":" ++ rest
      | none => e.place
    .plain (place ++ ": " ++ e.message)

/-- What is said when the loader fails altogether. -/
def loaderFailure (reason : String) : ErrorTree :=
  .plain ("failed to load packages: " ++ reason)

/-- What is said when no package was asked for. -/
def noPackages (patterns : List String) : ErrorTree :=
  .plain ("no packages found: [" ++ " ".intercalate patterns ++ "]")

/-- The packages that were loaded, or what is wrong with them. -/
def checkLoaded (directory : String) (patterns : List String) (packages : List Loaded) :
    Except ErrorTree (List Loaded) :=
  if packages.isEmpty then .error (noPackages patterns)
  else
    match packages.flatMap (·.errors) with
    | [] => .ok packages
    | errors => .error (.joined (errors.map (LoadError.error directory)))

/-! ## Generating -/

/-- What generating for one package comes to. -/
inductive Result
  | reported (error : ErrorTree)
  /-- There is nothing to generate. -/
  | nothing
  | file (path code : String)
  | crashed (message : String)

/-- The path of the generated file of a package, next to the first of its files. -/
def outputPath? (job : Job) (paths : List String) : Option String :=
  paths.head?.map fun path =>
    let directory := Path.directory path
    Path.join [(Path.relative? job.directory directory).getD directory, job.outFile]

/-- What is said of a package without files. -/
def noFilesMessage : String := "runtime error: index out of range [0] with length 0"

/-- Generates the conversions of a package. Returns the names that packages have afterwards. -/
def generateOne (job : Job) (names : PackageNames) (p : Loaded) : Result × PackageNames :=
  if !p.errors.isEmpty then
    (.reported (.plain ("pkg " ++ quote p.delivery.name ++ " has errors")), names)
  else match p.delivery.subject with
    | .error part => (.reported (.plain part.message), names)
    | .ok s =>
      match (Session.start s names).build job.workingDir with
      | (some e, _) => (.reported e, names)
      | (none, σ) =>
        let (code, σ) := σ.code job.version
        match code with
        | none => (.nothing, σ.draft.names)
        | some code =>
          match outputPath? job p.paths with
          | none => (.crashed noFilesMessage, σ.draft.names)
          | some path => (.file path code, σ.draft.names)

/-- Enters a generated file; a file of the same path is replaced. -/
def putFile (outs : List (String × String)) (path code : String) : List (String × String) :=
  if (outs.lookup path).isSome then
    outs.map fun (p, c) => if p == path then (p, code) else (p, c)
  else outs ++ [(path, code)]

/-- Generates the conversions of packages one after the other. -/
def generateAll (job : Job) (names : PackageNames) (report : Report)
    (outs : List (String × String)) : List Loaded → Except String (Report × List (String × String))
  | [] => .ok (report, outs)
  | p :: rest =>
    match generateOne job names p with
    | (.reported e, names) => generateAll job names (report.add (some e)) outs rest
    | (.nothing, names) => generateAll job names report outs rest
    | (.file path code, names) => generateAll job names report (putFile outs path code) rest
    | (.crashed message, _) => .error message

/-- Runs a batch on the packages that were loaded for some patterns. -/
def Job.run (job : Job) (patterns : List String) (names : PackageNames) (packages : List Loaded) :
    Outcome :=
  match checkLoaded job.directory patterns packages with
  | .error e => .failed e
  | .ok packages =>
    match generateAll job names {} [] packages with
    | .error message => .crashed message
    | .ok (report, outs) =>
      match report.inSourceOrder.error? with
      | some e => .failed e
      | none => .files outs

end TaggedUnion
