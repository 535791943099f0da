import TaggedUnion.Text.Quoted

/-!
# Flags

The flags of the command. A flag starts with one or two dashes. Its value follows an equals sign or is
the next argument; a switch needs none. Flags end at the first argument that is none, or after two
dashes alone.
-/

namespace TaggedUnion.CommandLine

/-- What the flags say. -/
structure Options where
  /-- Build tags. -/
  tags : String := ""
  /-- Whether tests are included. -/
  tests : Bool := false
  /-- The name of generated files. -/
  outFile : String := "enumorph_gen.go"
  colour : String := "auto"
deriving Repr, DecidableEq

/-- What keeps flags from being understood. -/
inductive FlagFault
  /-- Help was asked for, which is no mistake. -/
  | help
  | badSyntax (argument : String)
  | unknown (name : String)
  | missingValue (name : String)
  | badSwitch (name value : String)
deriving Repr, DecidableEq

/-- The message of a fault; help has none. -/
def FlagFault.message : FlagFault → String
  | help => ""
  | badSyntax argument => "bad flag syntax: " ++ argument ++ "\n"
  | unknown name => "flag provided but not defined: -" ++ name ++ "\n"
  | missingValue name => "flag needs an argument: -" ++ name ++ "\n"
  | badSwitch name value =>
    "invalid boolean value " ++ Text.quote value ++ " for -" ++ name ++ ": parse error\n"

/-- How the command is used. -/
def usage : String :=
  "Usage of enumorph:\n" ++
  "  -b string\n    \tcomma-separated build tags\n" ++
  "  -c string\n    \tcolorize (auto|always|never) (default \"auto\")\n" ++
  "  -o string\n    \toutput file name (default \"enumorph_gen.go\")\n" ++
  "  -t\tinclude tests\n"

/-- The value of a switch. -/
def switchValue? (s : String) : Option Bool :=
  if ["1", "t", "T", "TRUE", "true", "True"].contains s then some true
  else if ["0", "f", "F", "FALSE", "false", "False"].contains s then some false
  else none

/-- What an argument is. -/
inductive Argument
  /-- A flag, with the value after its equals sign. -/
  | flag (name : String) (value : Option String)
  /-- The end of the flags. -/
  | dashes
  | malformed
  /-- No flag. -/
  | plain
deriving Repr, DecidableEq

/-- Splits a flag at its equals sign, which cannot come first. -/
def splitFlag (cs : List Char) : String × Option String :=
  let name := cs.take 1 ++ (cs.drop 1).takeWhile (· != '=')
  match (cs.drop 1).dropWhile (· != '=') with
  | [] => (String.ofList name, none)
  | _ :: value => (String.ofList name, some (String.ofList value))

/-- What an argument is. -/
def Argument.of (argument : String) : Argument :=
  let body := fun cs : List Char =>
    match cs with
    | [] | '-' :: _ | '=' :: _ => malformed
    | cs => let (name, value) := splitFlag cs; flag name value
  match argument.toList with
  | ['-', '-'] => dashes
  | '-' :: '-' :: rest => body rest
  | ['-'] => plain
  | '-' :: rest => body rest
  | _ => plain

/-- Sets a flag that takes a value; there is none for other names. -/
def setOption? (o : Options) (name value : String) : Option Options :=
  match name with
  | "b" => some { o with tags := value }
  | "o" => some { o with outFile := value }
  | "c" => some { o with colour := value }
  | _ => none

/-- Reads the flags at the front of the arguments. Returns what they say and the other arguments. -/
def readFlags (o : Options) : List String → Except FlagFault (Options × List String)
  | [] => .ok (o, [])
  | argument :: rest =>
    match Argument.of argument with
    | .plain => .ok (o, argument :: rest)
    | .dashes => .ok (o, rest)
    | .malformed => .error (.badSyntax argument)
    | .flag name value =>
      if name == "t" then
        match value with
        | none => readFlags { o with tests := true } rest
        | some text =>
          match switchValue? text with
          | some tests => readFlags { o with tests } rest
          | none => .error (.badSwitch name text)
      else if (setOption? o name "").isSome then
        match value, rest with
        | some text, rest => readFlags ((setOption? o name text).getD o) rest
        | none, text :: rest => readFlags ((setOption? o name text).getD o) rest
        | none, [] => .error (.missingValue name)
      else if name == "help" || name == "h" then .error .help
      else .error (.unknown name)

end TaggedUnion.CommandLine
