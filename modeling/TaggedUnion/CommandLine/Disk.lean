import TaggedUnion.Text.Path

/-!
# Disks

The files of a disk by their absolute paths. A directory exists if it was made, or if there is something
in it. Writing a file needs its directory to exist and no directory to stand in its place, and the disk
knows no names beyond a certain length. A path is followed name by name, and the first obstacle counts.
-/

namespace TaggedUnion.CommandLine

open Text

/-- Files with their contents, and directories that may be empty. -/
structure Disk where
  files : List (String × String) := []
  directories : List String := []

/-- Why a file cannot be written. -/
inductive WriteFault
  | missingDirectory
  | isDirectory
  | notDirectory
  | nameTooLong
deriving Repr, DecidableEq

/-- The message of a fault. -/
def WriteFault.message : WriteFault → String
  | missingDirectory => "no such file or directory"
  | isDirectory => "is a directory"
  | notDirectory => "not a directory"
  | nameTooLong => "file name too long"

/-- The number of bytes that a name on a disk can have. -/
def nameLimit : Nat := 255

/-- The number of bytes that a path must stay below. -/
def pathLimit : Nat := 4096

namespace Disk

/-- Whether there is a file of the path. -/
def isFile (d : Disk) (path : String) : Bool :=
  (d.files.lookup path).isSome

/-- Whether there is a directory of the path. -/
def isDirectory (d : Disk) (path : String) : Bool :=
  let holds := fun p => (Path.components path).isPrefixOf (Path.components p)
  d.directories.any holds || d.files.any fun (p, _) => p != path && holds p

/-- What is in the way of a file, whose path leads through the directories `above` and goes on with the
given names. -/
def obstacle? (d : Disk) (above : List String) : List String → Option WriteFault
  | [] => some .isDirectory
  | name :: rest =>
    let here := Path.ofComponents true (above ++ [name])
    if nameLimit < name.utf8ByteSize then some .nameTooLong
    else if rest.isEmpty then if d.isDirectory here then some .isDirectory else none
    else if d.isFile here then some .notDirectory
    else if !d.isDirectory here then some .missingDirectory
    else d.obstacle? (above ++ [name]) rest

/-- Puts a file with its content in its place. -/
def put (d : Disk) (path content : String) : Disk :=
  if d.isFile path then
    { d with files := d.files.map fun (p, c) => if p == path then (p, content) else (p, c) }
  else { d with files := d.files ++ [(path, content)] }

/-- Writes a file, whose path is taken relative to a directory. -/
def write (d : Disk) (directory path content : String) : Except WriteFault Disk :=
  let full := Path.join [directory, path]
  if pathLimit ≤ path.utf8ByteSize then .error .nameTooLong
  else match d.obstacle? [] (Path.components full) with
    | some fault => .error fault
    | none => .ok (d.put full content)

end Disk

end TaggedUnion.CommandLine
