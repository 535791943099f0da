/-!
# Reserved names

The names that are already declared in a package, each with the place of its declaration. Reserving
a name a second time fails and tells where it was declared first.
-/

namespace TaggedUnion.Name

/-- Declared names with their places, the latest first. -/
structure Reserved (α : Type) where
  entries : List (String × α) := []

namespace Reserved

variable {α : Type}

/-- The place of a name, if it is declared. -/
def find? (r : Reserved α) (name : String) : Option α :=
  r.entries.lookup name

/-- The number of declared names. -/
def size (r : Reserved α) : Nat :=
  r.entries.length

/-- Declares a name, unless it is declared already; then the place of that declaration is
returned. -/
def reserve (r : Reserved α) (name : String) (at' : α) : Except α (Reserved α) :=
  match r.find? name with
  | some previous => .error previous
  | none => .ok ⟨(name, at') :: r.entries⟩

/-- Declares the names of a list of which no earlier one took them. -/
def ofList (names : List (String × α)) : Reserved α :=
  names.foldl (fun r (name, at') =>
    match r.reserve name at' with
    | .ok r' => r'
    | .error _ => r) {}

end Reserved

end TaggedUnion.Name
