import TaggedUnion.Batch
import TaggedUnion.CommandLine.Colour
import TaggedUnion.CommandLine.Disk
import TaggedUnion.CommandLine.Flags

/-!
# The command

The command reads its flags, asks the loader for the packages that the other arguments name, and writes the
generated files, in the order of their paths. It stops at the first file that cannot be written. Errors
go to the standard error stream, in colour if that is asked for.
-/

namespace TaggedUnion.CommandLine

open Text

/-- What the loader is asked for. -/
structure LoadRequest where
  patterns : List String
  buildFlags : List String
  tests : Bool
deriving Repr, DecidableEq

/-- The request for patterns under the given options. -/
def LoadRequest.of (tags : String) (tests : Bool) (patterns : List String) : LoadRequest :=
  { patterns, tests, buildFlags := if tags == "" then [] else ["-tags=" ++ tags] }

/-- What the command prints and how it exits. -/
structure Exit where
  code : Nat := 0
  out : String := ""
  err : String := ""
deriving Repr, DecidableEq

/-- What the command is to do. -/
structure Plan where
  request : LoadRequest
  outFile : String
  /-- Whether errors are written in colour. -/
  coloured : Bool

/-- The version the command gives its files. -/
def version : String := "dev"

/-- Whether errors are coloured. Left to the command itself, they are if they go to a terminal. -/
def coloured? (terminal : Bool) (choice : String) : Option Bool :=
  match choice with
  | "auto" => some terminal
  | "always" => some true
  | "never" => some false
  | _ => none

/-- What the command is to do with its arguments, or how it exits at once. -/
def plan (terminal : Bool) (arguments : List String) : Except Exit Plan :=
  match readFlags {} arguments with
  | .error fault =>
    .error { code := if fault == .help then 0 else 2, err := fault.message ++ usage }
  | .ok (options, patterns) =>
    match coloured? terminal options.colour with
    | none => .error { code := 1, err := "invalid -c value: " ++ options.colour ++ "\n" }
    | some coloured =>
      let patterns := if patterns.isEmpty then ["."] else patterns
      .ok { request := .of options.tags options.tests patterns, outFile := options.outFile, coloured }

/-- Exits with an error. -/
def Plan.fail (p : Plan) (message : String) : Exit :=
  { code := 1, err := (if p.coloured then colourise message else message) ++ "\n" }

/-- What is printed for a file that was written. -/
def writtenLine (path : String) : String :=
  "Generated: " ++ path ++ "\n"

/-- Writes files to a disk, with paths relative to a directory, up to the first that fails. -/
def writeFiles (directory : String) (disk : Disk) (out : String) :
    List (String × String) → Exit × Disk
  | [] => ({ out }, disk)
  | (path, content) :: rest =>
    match disk.write directory path content with
    | .error fault =>
      ({ code := 1, out, err := "open " ++ path ++ ": " ++ fault.message ++ "\n" }, disk)
    | .ok disk => writeFiles directory disk (out ++ writtenLine path) rest

/-- The order in which files are written. -/
def fileOrder (outs : List (String × String)) : List (String × String) :=
  outs.mergeSort (·.1 ≤ ·.1)

/-- What a plan comes to in a directory, given the packages that were loaded or why they were not. -/
def Plan.outcome (p : Plan) (directory : String) (names : PackageNames)
    (loaded : Except String (List Loaded)) : Outcome :=
  match loaded with
  | .error reason => .failed (loaderFailure reason)
  | .ok packages =>
    Job.run { workingDir := directory, directory, version, outFile := p.outFile } p.request.patterns
      names packages

/-- Carries out a plan on a disk. -/
def Plan.run (p : Plan) (directory : String) (names : PackageNames)
    (loaded : Except String (List Loaded)) (disk : Disk) : Exit × Disk :=
  match p.outcome directory names loaded with
  | .failed e => (p.fail (e.text directory), disk)
  | .crashed message => ({ code := 2, err := "panic: " ++ message ++ "\n" }, disk)
  | .files outs => writeFiles directory disk "" (fileOrder outs)

end TaggedUnion.CommandLine
