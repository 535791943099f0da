/-!
# The linter plugin

The linter has no settings, so a configuration that gives any is rejected rather than ignored.
-/

namespace TaggedUnion.Lint

/-- What a configuration has for the linter. -/
inductive Settings
  /-- Nothing. -/
  | absent
  /-- Settings by name. -/
  | keyed (keys : List String)
  /-- Something else, described by the name of its type. -/
  | unkeyed (typeName : String)

/-- A linter: its name, what it does, and what it needs to know of a package. -/
structure Linter where
  name : String
  purpose : String
  loadMode : String

/-- The linter for tagged unions, which needs type information. -/
def unionLinter : Linter :=
  { name := "enumorph", purpose := "linter for enumorph tagged unions", loadMode := "typesinfo" }

/-- Why settings are rejected. -/
inductive SettingsError
  | unknown (keys : List String)
  | notKeyed (typeName : String)

/-- The text of a settings error. -/
def SettingsError.message : SettingsError → String
  | unknown keys => "enumorph: unknown settings: [" ++ " ".intercalate keys ++ "]"
  | notKeyed typeName => "enumorph: settings must be a map, have " ++ typeName

/-- The linters of a configuration. -/
def linters : Settings → Except SettingsError (List Linter)
  | .absent => .ok [unionLinter]
  | .keyed [] => .ok [unionLinter]
  | .keyed keys => .error (.unknown (keys.mergeSort (· ≤ ·)))
  | .unkeyed typeName => .error (.notKeyed typeName)

end TaggedUnion.Lint
