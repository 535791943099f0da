import TaggedUnion.Code.Conversions

/-!
# Names in functions

The functions of a union declare names of their own: its type parameters, and the argument and the results.
Everywhere else in a function a name stands for something outside of it: the union, a package, or
something predeclared. Type parameters are in scope from the name of a function on, the argument and the
results within its body only, so a name that stands for something outside may be *captured* by one of
these (`Scope.Faithful`).

A name that is not captured is looked up in the package (`codeTarget?`). It is meant to stand for something
(`Reference`), and a function is *accepted* if each name of it stands for what is meant, as it is looked up
from where it is. So a function is accepted iff its own names are different, none of the others is
captured, and each of these stands for what is meant in the package (`Function.accepted_iff`).
-/

namespace TaggedUnion

open Source TaggedUnion.Types Syntax Code

/-! ## Names of a package -/

/-- What a name refers to. -/
inductive Target
  | package (path : String)
  | object (home name : String)
  | predeclared (name : String)
  /-- Something that belongs to what is around the name, such as a field, a parameter or a type parameter. -/
  | inner (name : String)
deriving DecidableEq

/-- What a name refers to at package level, in a file with a table of imports. -/
def codeTarget? (s : Subject) (table : List (String × Import)) (name : String) : Option Target :=
  match table.lookup name with
  | some i => some (.package i.path)
  | none =>
    if s.declares name then some (.object s.path name)
    else if predeclaredNames.contains name then some (.predeclared name) else none

/-- The names that the type arguments of a union repeat. -/
def Union.typeArguments (u : Union) : List String :=
  u.params.flatMap fun g => g.1.names.map (·.name)

namespace Code

/-! ## Scopes -/

/-- The names that a function declares itself, and those it uses for something outside of it. -/
structure Scope where
  typeParams : List String
  /-- The argument and the results. -/
  locals : List String
  /-- What the types of the signature use. -/
  signature : List String
  body : List String

/-- What declares a name. -/
inductive Binding
  | typeParam
  | variable
  /-- Nothing in the function. -/
  | outside
deriving DecidableEq

namespace Scope

/-- What a name stands for in the signature: type parameters are in scope there. -/
def inSignature (σ : Scope) (name : String) : Binding :=
  if name ∈ σ.typeParams then .typeParam else .outside

/-- What a name stands for in the body, where the argument and the results are in scope as well. -/
def inBody (σ : Scope) (name : String) : Binding :=
  if name ∈ σ.locals then .variable else σ.inSignature name

/-- No name is declared twice, and none that is used for something outside is captured. -/
structure Faithful (σ : Scope) : Prop where
  distinct : (σ.typeParams ++ σ.locals).Nodup
  signature : ∀ name ∈ σ.signature, σ.inSignature name = .outside
  body : ∀ name ∈ σ.body, σ.inBody name = .outside

instance (σ : Scope) : Decidable σ.Faithful :=
  decidable_of_iff
    ((σ.typeParams ++ σ.locals).Nodup ∧ (∀ name ∈ σ.signature, σ.inSignature name = .outside) ∧
      ∀ name ∈ σ.body, σ.inBody name = .outside)
    ⟨fun ⟨h₁, h₂, h₃⟩ => ⟨h₁, h₂, h₃⟩, fun ⟨h₁, h₂, h₃⟩ => ⟨h₁, h₂, h₃⟩⟩

theorem faithful_iff_disjoint {σ : Scope} :
    σ.Faithful ↔ σ.typeParams.Nodup ∧ σ.locals.Nodup ∧ (∀ name ∈ σ.body, name ∉ σ.locals) ∧
      ∀ p ∈ σ.typeParams, p ∉ σ.locals ∧ p ∉ σ.signature ∧ p ∉ σ.body := by
  have hsig : ∀ name, σ.inSignature name = .outside ↔ name ∉ σ.typeParams := fun name => by
    rw [inSignature]
    split <;> simp_all
  have hbody : ∀ name, σ.inBody name = .outside ↔ name ∉ σ.locals ∧ name ∉ σ.typeParams :=
    fun name => by
      rw [inBody, ← hsig]
      split <;> simp_all
  constructor
  · rintro ⟨hdistinct, hsignature, hinner⟩
    obtain ⟨hparams, hvars, hdisj⟩ := List.nodup_append.1 hdistinct
    refine ⟨hparams, hvars, fun name hname => ((hbody name).1 (hinner name hname)).1, fun p hp => ?_⟩
    exact ⟨fun hin => hdisj p hp p hin rfl, fun hin => (hsig p).1 (hsignature p hin) hp,
      fun hin => ((hbody p).1 (hinner p hin)).2 hp⟩
  · rintro ⟨hparams, hvars, hinner, hall⟩
    refine ⟨List.nodup_append.2 ⟨hparams, hvars, fun p hp v hv heq => (hall p hp).1 (heq ▸ hv)⟩, ?_, ?_⟩
    · exact fun name hname => (hsig name).2 fun hp => (hall name hp).2.1 hname
    · exact fun name hname => (hbody name).2 ⟨hinner name hname, fun hp => (hall name hp).2.2 hname⟩

/-- What a name of the signature stands for outside, given what names stand for in the package; nothing if
it is captured. -/
def signatureTarget? (σ : Scope) (look : String → Option Target) (name : String) : Option Target :=
  if σ.inSignature name = .outside then look name else none

/-- What a name of the body stands for outside. -/
def bodyTarget? (σ : Scope) (look : String → Option Target) (name : String) : Option Target :=
  if σ.inBody name = .outside then look name else none

end Scope

/-! ## Names that functions use -/

/-- The names that a term uses, other than those of variables and fields. -/
def Term.uses : Term → List String
  | .place _ => []
  | .text _ => []
  | .nil => ["nil"]
  | .mismatch errors union _ _ _ _ => [errors, union, "string"]

/-- The names that a statement uses. -/
def Statement.uses : Statement → List String
  | .assign _ value => value.uses
  | .ret results => results.flatMap Term.uses
  | .choose _ _ same other => same.uses ++ other.uses

/-- The scope of a function of a union, given the names that its bounds and its payload type use. -/
def Function.scope (u : Union) (types : List String) (f : Function) : Scope where
  typeParams := u.typeArguments.filter (· != "_")
  locals := inputName :: f.outputs.map (·.1)
  signature :=
    u.name :: (f.outputs.filterMap fun o => if o.1 = errorName then some o.2 else none) ++ types
  body := f.body.flatMap Statement.uses

/-! ## What names are meant for -/

/-- A name, with the name of a package in front if it has one, and what it is meant to stand for. -/
structure Reference where
  qualifier : Option String := none
  name : String
  meant : Target

namespace Reference

variable {r : Reference} {look : String → Option Target} {t : Target}

/-- The name that is looked up. -/
def head (r : Reference) : String :=
  r.qualifier.getD r.name

/-- What is referred to, given what names stand for. A package shows what is exported. -/
def target? (r : Reference) (look : String → Option Target) : Option Target :=
  match r.qualifier with
  | none => look r.name
  | some q =>
    match look q with
    | some (.package path) => if Text.isExported r.name then some (.object path r.name) else none
    | _ => none

/-- A reference stands for what is meant. -/
def Holds (look : String → Option Target) (r : Reference) : Prop :=
  r.target? look = some r.meant

instance : Decidable (r.Holds look) := inferInstanceAs (Decidable (_ = _))

/-- Where some names are captured, the name that is looked up must be none of them. -/
theorem holds_iff_of_restricted (p : String → Prop) [DecidablePred p] :
    r.Holds (fun name => if p name then look name else none) ↔ p r.head ∧ r.Holds look := by
  rw [Holds, Holds, target?, target?, head]
  cases r.qualifier with
  | none => by_cases hp : p r.name <;> simp [hp]
  | some q => by_cases hp : p q <;> simp [hp]

/-- A name behind that of a package stands for something that is exported from it. -/
theorem holds_qualified_iff {q name path : String} (hname : Text.isExported name = true) :
    (⟨some q, name, .object path name⟩ : Reference).Holds look ↔ look q = some (.package path) := by
  change (match look q with
    | some (.package path) => if Text.isExported name = true then some (Target.object path name) else none
    | _ => none) = some (.object path name) ↔ _
  rcases look q with _ | (_ | _ | _ | _) <;> simp [hname]

end Reference

/-- What the types in a term are meant for, given the package that declares the union. -/
def Term.references (home : String) : Term → List Reference
  | .place _ => []
  | .text _ => []
  | .nil => []
  | .mismatch errors union _ _ _ _ =>
    [⟨some errors, "Mismatch", .object errorsPath "Mismatch"⟩, ⟨none, union, .object home union⟩]

/-- What the types in a statement are meant for. -/
def Statement.references (home : String) : Statement → List Reference
  | .assign _ value => value.references home
  | .ret results => results.flatMap (Term.references home)
  | .choose _ _ same other => same.references home ++ other.references home

/-- What the names of a signature are meant for, given what those of its bounds and its payload type
are. -/
def Function.signatureReferences (home : String) (u : Union) (types : List Reference) (f : Function) :
    List Reference :=
  ⟨none, u.name, .object home u.name⟩ ::
    (f.outputs.filterMap fun o =>
      if o.1 = errorName then some ⟨none, o.2, .predeclared o.2⟩ else none) ++ types

/-- No name is declared twice, and from where it is, each name of a type stands for what is meant. -/
structure Function.Accepted (look : String → Option Target) (home : String) (u : Union)
    (types : List Reference) (f : Function) : Prop where
  distinct : ((f.scope u []).typeParams ++ (f.scope u []).locals).Nodup
  signature : ∀ r ∈ f.signatureReferences home u types, r.Holds ((f.scope u []).signatureTarget? look)
  body : ∀ r ∈ f.body.flatMap (Statement.references home), r.Holds ((f.scope u []).bodyTarget? look)

/-- The names that are looked up in a signature are those that it uses. -/
theorem Function.map_head_signatureReferences (home : String) (u : Union) (types : List Reference)
    (f : Function) :
    (f.signatureReferences home u types).map Reference.head =
      (f.scope u (types.map Reference.head)).signature := by
  rw [signatureReferences, scope, List.map_append, List.map_cons, List.map_filterMap]
  have hbody : ∀ o : String × String,
      Option.map Reference.head (if o.1 = errorName then some ⟨none, o.2, .predeclared o.2⟩ else none) =
        if o.1 = errorName then some o.2 else none := fun o => by
    split <;> rfl
  simp only [hbody]
  rfl

/-- A function is accepted iff its own names are different, no name of a type is captured, and each stands
for what is meant in the package. -/
theorem Function.accepted_iff {look : String → Option Target} {home : String} {u : Union}
    {types : List Reference} {f : Function} :
    let σ := f.scope u (types.map Reference.head)
    f.Accepted look home u types ↔
      (σ.typeParams ++ σ.locals).Nodup ∧ (∀ name ∈ σ.signature, σ.inSignature name = .outside) ∧
        (∀ r ∈ f.body.flatMap (Statement.references home), σ.inBody r.head = .outside) ∧
        ∀ r ∈ f.signatureReferences home u types ++ f.body.flatMap (Statement.references home),
          r.Holds look := by
  intro σ
  have hsignature : ∀ r : Reference, r.Holds ((f.scope u []).signatureTarget? look) ↔
      σ.inSignature r.head = .outside ∧ r.Holds look := fun r =>
    Reference.holds_iff_of_restricted fun name => (f.scope u []).inSignature name = .outside
  have hbody : ∀ r : Reference, r.Holds ((f.scope u []).bodyTarget? look) ↔
      σ.inBody r.head = .outside ∧ r.Holds look := fun r =>
    Reference.holds_iff_of_restricted fun name => (f.scope u []).inBody name = .outside
  have hheads : (∀ name ∈ σ.signature, σ.inSignature name = .outside) ↔
      ∀ r ∈ f.signatureReferences home u types, σ.inSignature r.head = .outside := by
    rw [← Function.map_head_signatureReferences home u types f, List.forall_mem_map]
  rw [hheads, List.forall_mem_append]
  constructor
  · rintro ⟨hdistinct, hsig, hinner⟩
    exact ⟨hdistinct, fun r hr => ((hsignature r).1 (hsig r hr)).1, fun r hr => ((hbody r).1 (hinner r hr)).1,
      fun r hr => ((hsignature r).1 (hsig r hr)).2, fun r hr => ((hbody r).1 (hinner r hr)).2⟩
  · rintro ⟨hdistinct, houtside, hinside, hsig, hinner⟩
    exact ⟨hdistinct, fun r hr => (hsignature r).2 ⟨houtside r hr, hsig r hr⟩,
      fun r hr => (hbody r).2 ⟨hinside r hr, hinner r hr⟩⟩

end Code

end TaggedUnion
