import Mathlib.Data.List.Infix
import Mathlib.Logic.Function.Basic
import TaggedUnion.Mismatch
import TaggedUnion.Proofs.Code.Names

/-!
# What functions do

A value is told by what is at each of its field paths. Running a function starts with the argument and
with results that have the zero values of their types; places are read and written as long as no
field on the way is blank, for which there is no name to use. All other names are looked up in the
*surroundings* of the function: no error is what `nil` stands for there, a text is what `string` makes of
a tag, and the error of a mismatch is that of the package it is selected from. A function that cannot go
on, because a place is not there, a text is asked for where there is none, or a name stands for nothing
that could be used, has no results.

So what the conversions of a variant do is told by the tag and by the surroundings: unwrap returns the
payload of a union whose tag is the variant, and otherwise an error that holds the union (`run_unwrap`);
wrap uses no other names and returns a union that holds nothing but the tag and the payload (`run_wrap`).
-/

namespace TaggedUnion.Code

/-- What a value is at one place, apart from its fields. -/
inductive Content (α : Type)
  | text (s : String)
  | other (a : α)

/-- A value, by its field paths. -/
def Data (α : Type) : Type := List String → Content α

namespace Data

variable {α : Type} {x y : Data α} {p q : List String}

/-- A text, which has no fields of its own. -/
def ofText (s : String) : Data α := fun _ => .text s

/-- The text that a value is, if it is one. -/
def text? (x : Data α) : Option String :=
  match x [] with
  | .text s => some s
  | .other _ => none

/-- The part of a value at a field path. -/
def part (x : Data α) (p : List String) : Data α := fun q => x (p ++ q)

/-- A value with another part at a field path. -/
def put (x : Data α) (p : List String) (y : Data α) : Data α := fun q =>
  match p.isPrefixOf? q with
  | some r => y r
  | none => x q

@[simp] theorem put_append (x y : Data α) (p q : List String) : (x.put p y) (p ++ q) = y q := by
  rw [put, List.isPrefixOf?_eq_some_iff_append_eq.2 rfl]

@[simp] theorem part_put (x y : Data α) (p : List String) : (x.put p y).part p = y :=
  funext fun q => put_append x y p q

/-- Outside of the part that is put, a value stays as it is. -/
theorem put_of_not_prefix (h : ¬p <+: q) : (x.put p y) q = x q := by
  rw [put]
  cases hq : p.isPrefixOf? q with
  | none => rfl
  | some r => exact absurd ⟨r, List.isPrefixOf?_eq_some_iff_append_eq.1 hq⟩ h

end Data

/-! ## Running -/

/-- What a variable holds: a value, or an error if there is one. -/
inductive Item (α : Type)
  | value (x : Data α)
  | failure (e : Option (Failure (Data α)))

/-- The variables by their names. -/
abbrev Variables (α : Type) := String → Option (Item α)

/-- What is around a function. -/
structure Surroundings (α : Type) where
  /-- What names stand for. -/
  target? : String → Option Target
  /-- The error that an object of the package holds, if it can hold one. -/
  held : String → Option (Option (Failure (Data α)))
  /-- The text that an object of the package, as a function or as a type, makes of a value. -/
  made : String → Data α → Option String

namespace Surroundings

variable {α : Type} (Γ : Surroundings α)

/-- What is around the body of a function, given the scope of the function. -/
def within (σ : Code.Scope) : Surroundings α :=
  { Γ with target? := σ.bodyTarget? Γ.target? }

/-- The error that `nil` stands for: none, unless the package has an object of that name. -/
def noError : Option (Option (Failure (Data α))) :=
  match Γ.target? "nil" with
  | some (.predeclared _) => some none
  | some (.object _ _) => Γ.held "nil"
  | _ => none

/-- The text that `string` makes of a value. -/
def asText (x : Data α) : Option String :=
  match Γ.target? "string" with
  | some (.predeclared _) => x.text?
  | some (.object _ _) => Γ.made "string" x
  | _ => none

/-- The error of a mismatch, given the names of its package and of the type of the value. -/
def mismatch (errors union args : String) (x tag : Data α) (want : String) : Option (Failure (Data α)) :=
  match Γ.target? errors, Γ.target? union with
  | some (.package path), some (.object _ name) =>
    if path = errorsPath then
      (Γ.asText tag).map fun tag => .mismatch { type := name ++ args, value := x, tag, want }
    else none
  | _, _ => none

variable {Γ} {σ : Code.Scope}

theorem noError_of_predeclared {name : String} (h : Γ.target? "nil" = some (.predeclared name)) :
    Γ.noError = some none := by
  rw [noError, h]

theorem asText_of_predeclared {name : String} (h : Γ.target? "string" = some (.predeclared name))
    (x : Data α) : Γ.asText x = x.text? := by
  rw [asText, h]

/-- Within a function, `nil` stands for what it stands for outside unless it is captured. -/
theorem noError_within_eq_some_iff {e : Option (Failure (Data α))} :
    (Γ.within σ).noError = some e ↔ σ.inBody "nil" = .outside ∧ Γ.noError = some e := by
  by_cases h : σ.inBody "nil" = .outside <;> simp [noError, within, Scope.bodyTarget?, h]

theorem asText_within_eq_some_iff {x : Data α} {t : String} :
    (Γ.within σ).asText x = some t ↔ σ.inBody "string" = .outside ∧ Γ.asText x = some t := by
  by_cases h : σ.inBody "string" = .outside <;> simp [asText, within, Scope.bodyTarget?, h]

/-- A mismatch needs the package of errors, a type of the package, and a text. -/
theorem mismatch_eq_some_iff {errors union args want : String} {x tag : Data α} {e : Failure (Data α)} :
    Γ.mismatch errors union args x tag want = some e ↔
      Γ.target? errors = some (.package errorsPath) ∧ ∃ home name t,
        Γ.target? union = some (.object home name) ∧ Γ.asText tag = some t ∧
          e = .mismatch { type := name ++ args, value := x, tag := t, want } := by
  constructor
  · intro h
    rw [mismatch] at h
    split at h
    next path home name herrors hunion =>
      split at h
      next hpath =>
        obtain ⟨t, ht, rfl⟩ := Option.map_eq_some_iff.1 h
        exact ⟨hpath ▸ herrors, home, name, t, hunion, ht, rfl⟩
      next => cases h
    next => cases h
  · rintro ⟨herrors, home, name, t, hunion, ht, rfl⟩
    rw [mismatch, herrors, hunion]
    simp [ht]

end Surroundings

section Run

variable {α : Type} (Γ : Surroundings α)

/-- Whether every field on the way to a place has a name to use. -/
def Place.isNamed (p : Place) : Bool :=
  p.fields.all (· != "_")

/-- What is at a place. -/
def Place.read (σ : Variables α) (p : Place) : Option (Data α) :=
  match p.isNamed, σ p.root with
  | true, some (.value x) => some (x.part p.fields)
  | _, _ => none

/-- The variables after a value was put at a place. -/
def Place.store (σ : Variables α) (p : Place) (y : Data α) : Option (Variables α) :=
  match p.isNamed, σ p.root with
  | true, some (.value x) => some (Function.update σ p.root (some (.value (x.put p.fields y))))
  | _, _ => none

/-- What a term stands for. -/
def Term.eval (σ : Variables α) : Term → Option (Item α)
  | place p => (p.read σ).map .value
  | text s => some (.value (.ofText s))
  | nil => Γ.noError.map .failure
  | mismatch errors union args value tag want => do
    let e ← Γ.mismatch errors union args (← value.read σ) (← tag.read σ) want
    return .failure (some e)

/-- What a statement leads to. -/
inductive Outcome (α : Type)
  | goesOn (σ : Variables α)
  | returns (results : List (Item α))

/-- What is assigned must be a value. -/
def Statement.exec (Γ : Surroundings α) (σ : Variables α) : Statement → Option (Outcome α)
  | assign target value =>
    match value.eval Γ σ with
    | some (.value y) => (target.store σ y).map .goesOn
    | _ => none
  | ret results => (results.mapM (Term.eval Γ σ)).map .returns
  | choose on text same other =>
    match (on.read σ).bind Data.text? with
    | some t => if t = text then same.exec Γ σ else other.exec Γ σ
    | none => none

/-- Runs statements up to the first return, which there must be. -/
def execAll (Γ : Surroundings α) (σ : Variables α) : List Statement → Option (List (Item α))
  | [] => none
  | statement :: rest =>
    match statement.exec Γ σ with
    | some (.goesOn σ) => execAll Γ σ rest
    | some (.returns results) => some results
    | none => none

theorem execAll_ret (σ : Variables α) (results : List Term) (rest : List Statement) :
    execAll Γ σ (.ret results :: rest) = results.mapM (Term.eval Γ σ) := by
  rw [execAll, Statement.exec]
  cases results.mapM (Term.eval Γ σ) <;> rfl

theorem execAll_choose {σ : Variables α} {on : Place} {t : String} (h : (on.read σ).bind Data.text? = some t)
    (text : String) (same other : Statement) (rest : List Statement) :
    execAll Γ σ (.choose on text same other :: rest) =
      execAll Γ σ ((if t = text then same else other) :: rest) := by
  rw [execAll, Statement.exec, h, execAll]
  by_cases heq : t = text <;> simp [heq]

/-- The variables at the start: the argument, and the results with their zero values. -/
def Function.start (zero : String → Data α) (f : Function) (x : Data α) : Variables α := fun name =>
  if name = inputName then some (.value x)
  else (f.outputs.lookup name).map fun type =>
    if name = errorName then .failure none else .value (zero type)

/-- The results of a function, given the zero values of types. -/
def Function.run (zero : String → Data α) (f : Function) (x : Data α) : Option (List (Item α)) :=
  execAll Γ (f.start zero x) f.body

end Run

end TaggedUnion.Code

namespace TaggedUnion

open Code

/-! ## Conversions -/

namespace Conversion

variable {α : Type}

/-- The field path of the payload in a union. -/
def path (c : Conversion) : List String :=
  match c.accessor with
  | .whole _ => [c.variant]
  | .field name => [c.variant, name]

theorem place_eq (c : Conversion) (root : String) : c.place root = ⟨root, c.path⟩ := by
  rw [place, path]
  cases c.accessor <;> rfl

/-- Whether every field that the conversions of a variant go through has a name to use. -/
structure Reachable (u : Union) (c : Conversion) : Prop where
  tag : u.tag.name ≠ "_"
  path : ∀ name ∈ c.path, name ≠ "_"

variable (Γ : Surroundings α) {u : Union} {c : Conversion} (g : Generics) (errors payload : String)
  (zero : String → Data α)

/-- A variant has a name, so it is the tag and the accessor that may be blank. -/
theorem reachable_iff (hvariant : c.variant ≠ "_") :
    c.Reachable u ↔ u.tag.name ≠ "_" ∧ c.accessor ≠ .field "_" := by
  constructor
  · rintro ⟨htag, hpath⟩
    refine ⟨htag, fun hacc => hpath "_" ?_ rfl⟩
    rw [path, hacc]
    exact List.mem_cons_of_mem _ List.mem_cons_self
  · rintro ⟨htag, haccessor⟩
    refine ⟨htag, fun name hmem => ?_⟩
    rw [path] at hmem
    cases hacc : c.accessor with
    | whole index =>
      rw [hacc] at hmem
      rwa [List.mem_singleton.1 hmem]
    | field inner =>
      rw [hacc] at hmem
      rcases List.mem_cons.1 hmem with rfl | hmem
      · exact hvariant
      · rw [List.mem_singleton.1 hmem]
        rintro rfl
        exact haccessor hacc

/-- The results of unwrap, by the tag of the union. -/
def unwrapResults (u : Union) (c : Conversion) (x : Data α) (tag : String) : Option (List (Item α)) :=
  if tag = c.variant then Γ.noError.map fun e => [.value (x.part c.path), .failure e]
  else (Γ.mismatch errors u.name g.args x (x.part [u.tag.name]) c.variant).map fun e =>
    [.value (zero payload), .failure (some e)]

variable (h : c.Reachable u)

include h

theorem Reachable.isNamed_path (root : String) : (⟨root, c.path⟩ : Place).isNamed = true :=
  List.all_eq_true.2 fun name hname => bne_iff_ne.2 (h.path name hname)

theorem Reachable.isNamed_tag (root : String) : (⟨root, [u.tag.name]⟩ : Place).isNamed = true :=
  List.all_eq_true.2 fun _ hname => bne_iff_ne.2 (List.mem_singleton.1 hname ▸ h.tag)

/-- What unwrap returns is decided by the tag. -/
theorem run_unwrap {x : Data α} {t : String} (hx : x [u.tag.name] = .text t) :
    (c.unwrapFunction u g errors payload).run Γ zero x = unwrapResults Γ g errors payload zero u c x t := by
  let σ := (c.unwrapFunction u g errors payload).start zero x
  have hin : σ inputName = some (.value x) := rfl
  have hout : σ outputName = some (.value (zero payload)) := rfl
  have htag : ((⟨inputName, [u.tag.name]⟩ : Place).read σ) = some (x.part [u.tag.name]) := by
    rw [Place.read, h.isNamed_tag, hin]
  have htext : ((⟨inputName, [u.tag.name]⟩ : Place).read σ).bind Data.text? = some t := by
    rw [htag, Option.bind_some, Data.text?, Data.part, List.append_nil, hx]
  have hwhole : (⟨inputName, []⟩ : Place).read σ = some x := by
    rw [Place.read, hin]
    rfl
  have hzero : (⟨outputName, []⟩ : Place).read σ = some (zero payload) := by
    rw [Place.read, hout]
    rfl
  have hpayload : (c.place inputName).read σ = some (x.part c.path) := by
    rw [place_eq, Place.read, h.isNamed_path, hin]
  change execAll Γ σ [_] = _
  rw [execAll_choose Γ htext, unwrapResults]
  by_cases heq : t = c.variant
  · rw [if_pos heq, if_pos heq, execAll_ret, List.mapM_cons, List.mapM_cons, List.mapM_nil, Term.eval,
      Term.eval, hpayload]
    cases Γ.noError <;> rfl
  · rw [if_neg heq, if_neg heq, execAll_ret, List.mapM_cons, List.mapM_cons, List.mapM_nil, Term.eval,
      Term.eval, hzero, hwhole, htag]
    cases hm : Γ.mismatch errors u.name g.args x (x.part [u.tag.name]) c.variant <;> simp [hm]

/-- Wrap returns the zero union but for its tag and the payload. -/
theorem run_wrap (p : Data α) :
    (c.wrapFunction u g payload).run Γ zero p =
      some [.value (((zero (u.name ++ g.args)).put [u.tag.name] (.ofText c.variant)).put c.path p)] := by
  let σ := (c.wrapFunction u g payload).start zero p
  let tagged := (zero (u.name ++ g.args)).put [u.tag.name] (.ofText c.variant)
  have hout : σ outputName = some (.value (zero (u.name ++ g.args))) := by
    simp [σ, Function.start, wrapFunction, inputName, outputName, errorName]
  have hne : inputName ≠ outputName := by decide
  have htag : (⟨outputName, [u.tag.name]⟩ : Place).store σ (.ofText c.variant) =
      some (Function.update σ outputName (some (.value tagged))) := by
    rw [Place.store, h.isNamed_tag, hout]
  have hin : (⟨inputName, []⟩ : Place).read (Function.update σ outputName (some (.value tagged))) =
      some p := by
    rw [Place.read, Function.update_of_ne hne]
    rfl
  have hpayload : (c.place outputName).store (Function.update σ outputName (some (.value tagged))) p =
      some (Function.update σ outputName (some (.value (tagged.put c.path p)))) := by
    rw [place_eq, Place.store, h.isNamed_path, Function.update_self]
    simp only [Function.update_idem]
  have hresult : (⟨outputName, []⟩ : Place).read
      (Function.update σ outputName (some (.value (tagged.put c.path p)))) =
        some (tagged.put c.path p) := by
    rw [Place.read, Function.update_self]
    rfl
  change execAll Γ σ [_, _, _] = _
  simp [execAll, Statement.exec, Term.eval, htag, hin, hpayload, hresult, tagged]

end Conversion

end TaggedUnion
