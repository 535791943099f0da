import TaggedUnion.Types.Identity

/-!
# Indices by type

A map from types to values in which identical types are the same key. The first value of a key stays.
-/

namespace TaggedUnion.Types

/-- Values by type, the latest first. Only the first type of each identity class is kept. The values are of a type that
is not an interface, as variants are: what was stored is always found again. An interface has a value that is nothing,
which would count as no entry when a value is added. -/
structure Index (α : Type) where
  entries : List (Ty × α) := []

namespace Index

variable {α : Type} (table : TypeTable)

/-- The value of a type identical to `t`. -/
def find? (index : Index α) (t : Ty) : Option α :=
  (index.entries.find? fun e => e.1.identical table t).map (·.2)

/-- Adds a value for a type. If an identical type has one already, that one is returned and nothing
changes. -/
def put (index : Index α) (t : Ty) (value : α) : Except α (Index α) :=
  match index.find? table t with
  | some old => .error old
  | none => .ok ⟨(t, value) :: index.entries⟩

end Index

end TaggedUnion.Types
