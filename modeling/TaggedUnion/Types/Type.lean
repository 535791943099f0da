import TaggedUnion.Source.Position
import TaggedUnion.Text.Bytes

/-!
# Types

The types that expressions of a program denote. A type is a finite tree: a declared type refers to its
declaration by name, and what it stands for is looked up in a table of declarations when it is
needed, so recursive declarations need no cycles. An alias carries the type it stands for, under its
own name.
-/

namespace TaggedUnion.Types

open Source

/-- The name of a declared type or alias. -/
structure TypeName where
  /-- The import path of the declaring package; empty for predeclared types. -/
  home : String
  name : String
  /-- Where it is declared; tells declarations of one name apart. -/
  pos : Pos
deriving Repr, DecidableEq

/-- What a struct field is, apart from its type. -/
structure FieldHead where
  name : String
  /-- The import path of the package that declares the field. -/
  home : String
  /-- Whether the field is embedded, so that its name is that of its type. -/
  embedded : Bool
  /-- The struct tag, unquoted. -/
  tag : Text.Bytes
  pos : Pos
deriving Repr, DecidableEq

/-- What a method is, apart from its signature. -/
structure MethodHead where
  name : String
  /-- The import path of the package that declares the method. -/
  home : String
deriving Repr, DecidableEq

/-- Which way a channel carries values. -/
inductive Direction
  | both
  | send
  | receive
deriving Repr, DecidableEq

/-- A type parameter of a declaration. -/
structure ParamDecl where
  name : String
  pos : Pos
deriving Repr, DecidableEq

/-- Types. Parameters come with their names, which are empty where none is given. Type parameters
are listed in groups that share a bound. -/
inductive Ty
  /-- A predeclared type such as `int`; also the types of untyped constants. -/
  | basic (name : String)
  | pointer (elem : Ty)
  | slice (elem : Ty)
  | array (length : Nat) (elem : Ty)
  | map (key elem : Ty)
  | chan (direction : Direction) (elem : Ty)
  /-- A function type; `variadic` says that the last parameter, a slice, takes any number of
  arguments. -/
  | func (generics : List (List ParamDecl × Ty)) (params results : List (String × Ty)) (variadic : Bool)
  | struct (fields : List (FieldHead × Ty))
  /-- An interface with its methods, sorted, and the types it embeds. An `implicit` one is a
  constraint written without the word. -/
  | interface (methods : List (MethodHead × Ty)) (embedded : List Ty) (implicit : Bool)
  /-- Alternatives of a constraint; a marked one admits all types with that underlying type. -/
  | union (terms : List (Bool × Ty))
  /-- A defined type with its type arguments. A generic type without arguments lists its own type
  parameters. -/
  | named (name : TypeName) (generics : List (List ParamDecl × Ty)) (args : List Ty)
  /-- An alias with its type arguments and the type it stands for. -/
  | synonym (name : TypeName) (generics : List (List ParamDecl × Ty)) (args : List Ty) (target : Ty)
  /-- A type parameter, identified by the place of its declaration. -/
  | param (name : String) (pos : Pos)
deriving Repr, Inhabited

namespace Ty

/-- The type that a chain of aliases stands for. -/
def unalias : Ty → Ty
  | synonym _ _ _ target => target.unalias
  | t => t

/-- The interface without methods. -/
def emptyInterface : Ty := interface [] [] false

/-- The invalid type, which stands where no type is known. -/
def invalid : Ty := basic "invalid type"

/-! ## Substitution -/

/-- Replaces type parameters, given by the places of their declarations. -/
def subst (σ : List (Pos × Ty)) : Ty → Ty
  | basic name => basic name
  | pointer elem => pointer (elem.subst σ)
  | slice elem => slice (elem.subst σ)
  | array length elem => array length (elem.subst σ)
  | map key elem => map (key.subst σ) (elem.subst σ)
  | chan direction elem => chan direction (elem.subst σ)
  | func generics params results variadic =>
    func (substGroups generics) (substParams params) (substParams results) variadic
  | struct fields => struct (substFields fields)
  | interface methods embedded implicit =>
    interface (substMethods methods) (substAll embedded) implicit
  | union terms => union (substTerms terms)
  | named name generics args => named name (substGroups generics) (substAll args)
  | synonym name generics args target =>
    synonym name (substGroups generics) (substAll args) (target.subst σ)
  | param name pos => (σ.lookup pos).getD (param name pos)
where
  substAll : List Ty → List Ty
    | [] => []
    | t :: rest => t.subst σ :: substAll rest
  substGroups : List (List ParamDecl × Ty) → List (List ParamDecl × Ty)
    | [] => []
    | (names, t) :: rest => (names, t.subst σ) :: substGroups rest
  substParams : List (String × Ty) → List (String × Ty)
    | [] => []
    | (name, t) :: rest => (name, t.subst σ) :: substParams rest
  substFields : List (FieldHead × Ty) → List (FieldHead × Ty)
    | [] => []
    | (head, t) :: rest => (head, t.subst σ) :: substFields rest
  substMethods : List (MethodHead × Ty) → List (MethodHead × Ty)
    | [] => []
    | (head, t) :: rest => (head, t.subst σ) :: substMethods rest
  substTerms : List (Bool × Ty) → List (Bool × Ty)
    | [] => []
    | (tilde, t) :: rest => (tilde, t.subst σ) :: substTerms rest

/-! ## Structural equality -/

/-- Equality of two types as trees. -/
def beq : Ty → Ty → Bool
  | basic a, u => match u with
    | basic b => a == b
    | _ => false
  | pointer a, u => match u with
    | pointer b => a.beq b
    | _ => false
  | slice a, u => match u with
    | slice b => a.beq b
    | _ => false
  | array m a, u => match u with
    | array n b => m == n && a.beq b
    | _ => false
  | map k a, u => match u with
    | map l b => k.beq l && a.beq b
    | _ => false
  | chan d a, u => match u with
    | chan e b => d == e && a.beq b
    | _ => false
  | func g p r v, u => match u with
    | func g' p' r' v' => beqGroups g g' && beqParams p p' && beqParams r r' && v == v'
    | _ => false
  | struct fs, u => match u with
    | struct fs' => beqFields fs fs'
    | _ => false
  | interface ms es i, u => match u with
    | interface ms' es' i' => beqMethods ms ms' && beqAll es es' && i == i'
    | _ => false
  | union ts, u => match u with
    | union ts' => beqTerms ts ts'
    | _ => false
  | named n g as, u => match u with
    | named n' g' as' => n == n' && beqGroups g g' && beqAll as as'
    | _ => false
  | synonym n g as t, u => match u with
    | synonym n' g' as' t' => n == n' && beqGroups g g' && beqAll as as' && t.beq t'
    | _ => false
  | param n p, u => match u with
    | param n' p' => n == n' && p == p'
    | _ => false
termination_by structural t => t
where
  beqAll : List Ty → List Ty → Bool
    | [], [] => true
    | a :: as, b :: bs => a.beq b && beqAll as bs
    | _, _ => false
  termination_by structural ts => ts
  beqGroups : List (List ParamDecl × Ty) → List (List ParamDecl × Ty) → Bool
    | [], [] => true
    | (n, a) :: as, (m, b) :: bs => n == m && a.beq b && beqGroups as bs
    | _, _ => false
  termination_by structural ts => ts
  beqParams : List (String × Ty) → List (String × Ty) → Bool
    | [], [] => true
    | (n, a) :: as, (m, b) :: bs => n == m && a.beq b && beqParams as bs
    | _, _ => false
  termination_by structural ts => ts
  beqFields : List (FieldHead × Ty) → List (FieldHead × Ty) → Bool
    | [], [] => true
    | (n, a) :: as, (m, b) :: bs => n == m && a.beq b && beqFields as bs
    | _, _ => false
  termination_by structural ts => ts
  beqMethods : List (MethodHead × Ty) → List (MethodHead × Ty) → Bool
    | [], [] => true
    | (n, a) :: as, (m, b) :: bs => n == m && a.beq b && beqMethods as bs
    | _, _ => false
  termination_by structural ts => ts
  beqTerms : List (Bool × Ty) → List (Bool × Ty) → Bool
    | [], [] => true
    | (n, a) :: as, (m, b) :: bs => n == m && a.beq b && beqTerms as bs
    | _, _ => false
  termination_by structural ts => ts

instance : BEq Ty := ⟨beq⟩

end Ty

/-! ## Declarations -/

/-- A method that is declared for a defined type. -/
structure MethodDecl where
  name : String
  /-- The name of the receiver, which may be empty or blank. -/
  receiver : String
  /-- The names that the method gives to the type parameters of its type. -/
  params : List ParamDecl := []
  /-- Whether it is declared for pointers to the type. -/
  viaPointer : Bool := false
  /-- The signature, in terms of these parameters. -/
  type : Ty
deriving Repr

/-- What a declared type name stands for. -/
structure TypeDecl where
  name : TypeName
  params : List ParamDecl := []
  /-- The type on the right-hand side, in terms of the parameters. -/
  rhs : Ty
  /-- What the right-hand side stands for, if that is a generic type with arguments. -/
  expanded : Option Ty := none
  methods : List MethodDecl := []
deriving Repr

/-- The declarations of defined types. -/
abbrev TypeTable := List TypeDecl

/-- The declaration of a defined type. -/
def TypeTable.find? (table : TypeTable) (name : TypeName) : Option TypeDecl :=
  List.find? (·.name == name) table

/-- What a declared type with the given arguments stands for. -/
def TypeDecl.instantiate (d : TypeDecl) (args : List Ty) : Ty :=
  (d.expanded.getD d.rhs).subst ((d.params.map (·.pos)).zip args)

/-- The signature of a method for given type arguments. -/
def MethodDecl.instantiate (m : MethodDecl) (args : List Ty) : Ty :=
  m.type.subst ((m.params.map (·.pos)).zip args)

/-- Unfolds aliases and at most `depth` defined types. -/
def Ty.unfold (table : TypeTable) : Nat → Ty → Ty
  | 0, t => t.unalias
  | depth + 1, t =>
    match t.unalias with
    | .named name generics args =>
      match table.find? name with
      | some d => (d.instantiate args).unfold table depth
      | none => .named name generics args
    | .param _ _ => .emptyInterface
    | u => u

/-- The underlying type: what is left after unfolding aliases and defined types. The underlying type
of a type parameter is an interface. -/
def Ty.underlying (table : TypeTable) (t : Ty) : Ty :=
  t.unfold table (table.length + 1)

end TaggedUnion.Types
