import TaggedUnion.Program.Site

/-!
# Receivers of methods

Which types methods are declared for. The receiver of a method names a defined type of the package, or a
pointer to one, perhaps through aliases, and gives names to all of its type parameters.
-/

namespace TaggedUnion.Program

open Source TaggedUnion.Types Syntax

/-- The base type of a method's receiver and the type parameters it names. -/
def receiverBase? : Expr → Option (String × List Ident)
  | .ident id => some (id.name, [])
  | .star _ x => receiverBase? x
  | .paren _ x _ => receiverBase? x
  | .index x _ args _ => do
    let (name, _) ← receiverBase? x
    let ids ← args.mapM fun
      | .ident id => some id
      | _ => none
    return (name, ids)
  | _ => none

/-- The type declaration of a name. -/
def typeSpec? (own : List OwnDecl) (name : String) : Option TypeSpec := do
  let d ← own.find? (·.name.name == name)
  match d.body with
  | .type spec => some spec
  | _ => none

/-- The defined type that a name stands for, through at most the given number of aliases. -/
def definedName? (own : List OwnDecl) : Nat → String → Option String
  | 0, _ => none
  | count + 1, name => do
    let spec ← typeSpec? own name
    if spec.isAlias then definedName? own count (← receiverBase? spec.type).1 else return name

/-- Whether the type of a receiver is a pointer, perhaps behind at most the given number of aliases. -/
def isPointerReceiver (own : List OwnDecl) : Nat → Expr → Bool
  | 0, _ => false
  | count + 1, x =>
    match x.unparen with
    | .star _ _ => true
    | .ident id =>
      match typeSpec? own id.name with
      | some spec => spec.isAlias && isPointerReceiver own count spec.type
      | none => false
    | _ => false

/-- How many type parameters a declared type has. -/
def paramCount (own : List OwnDecl) (name : String) : Nat :=
  match typeSpec? own name with
  | some spec => (paramDecls spec.params).length
  | none => 0

/-- A declared method, if its receiver is of a defined type, all of whose type parameters it names. -/
def ownMethod? (own : List OwnDecl) (file : Nat) (spec : FuncSpec) (receiver : GroupHead × Expr) :
    Option OwnMethod := do
  let (name, ids) ← receiverBase? receiver.2
  let base ← definedName? own (own.length + 1) name
  guard (ids.length == paramCount own base)
  return {
    file
    base
    params := ids.map fun id => ⟨id.name, id.pos⟩
    receiver := (receiver.1.names.head?.map (·.name)).getD ""
    viaPointer := isPointerReceiver own (own.length + 1) receiver.2
    spec }

/-- The methods of a file. -/
def fileMethods? (own : List OwnDecl) (file : Nat) (f : File) : Option (List OwnMethod) :=
  (f.decls.filterMap fun
    | .func spec => spec.receiver.map fun r => (spec, r)
    | _ => none).mapM fun (spec, r) => ownMethod? own file spec r

end TaggedUnion.Program
