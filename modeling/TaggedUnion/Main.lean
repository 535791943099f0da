import TaggedUnion.CommandLine.Listing

/-!
# The command line

The command reads the listing of packages from standard input. See `CommandLine.Command` for what it does
with it.
-/

namespace TaggedUnion.CommandLine

/-- The lines of a stream. -/
partial def readLines (stream : IO.FS.Stream) : IO (List String) := do
  let line ← stream.getLine
  if line.isEmpty then return []
  return line :: (← readLines stream)

/-- Prints what there is to print and returns the exit code. -/
def finish (exit : Exit) : IO UInt32 := do
  (← IO.getStdout).putStr exit.out
  (← IO.getStderr).putStr exit.err
  return exit.code.toUInt32

/-- Writes files, up to the first that fails. -/
def writeAll (directory : String) (out : String) : List (String × String) → IO Exit
  | [] => return { out }
  | (path, content) :: rest => do
    let written ← (IO.FS.writeFile (Text.Path.join [directory, path]) content).toBaseIO
    match written with
    | .error e => return { code := 1, out, err := "open " ++ path ++ ": " ++ toString e ++ "\n" }
    | .ok _ => writeAll directory (out ++ writtenLine path) rest

end TaggedUnion.CommandLine

open TaggedUnion CommandLine in
/-- Runs the command. -/
def main (arguments : List String) : IO UInt32 := do
  match plan (← (← IO.getStderr).isTty) arguments with
  | .error exit => finish exit
  | .ok p =>
    let directory := (← IO.currentDir).toString
    let entries := (← readLines (← IO.getStdin)).filterMap (Entry.parse? directory)
    let sources ← entries.mapM fun e => do
      return (e, ← e.files.mapM fun f : String => do return (f, ← IO.FS.readFile f))
    let (names, loaded) := deliver directory p.request sources
    match p.outcome directory names (.ok loaded) with
    | .failed e => finish (p.fail (e.text directory))
    | .crashed message => finish { code := 2, err := "panic: " ++ message ++ "\n" }
    | .files outs => finish (← writeAll directory "" (fileOrder outs))
